import OrderDesk.Access.Client
import OrderDesk.Http.Request

/-!
# Routes

* `Endpoint`         what can be asked for;
* `Route`            a method and a path with at most one number in it;
* `routes`           every route, with the permission it needs;
* `Resolution`       the route of a request, another address to go to, or nothing;
* `resolve`          finds it. A path with one slash too many is sent to the path without it.
-/

namespace OrderDesk.Http

/-- What can be asked for. -/
inductive Endpoint where
  | health
  | metrics
  | token
  | createOrder
  | listOrders
  | getOrder
  | changeStatus
  | deleteOrder
  | createProduct
  | listProducts
  | getProduct
  | updateProduct
  | deleteProduct
  | listCategories
  | getCategory
  | createCategory
  | renameCategory
  | deleteCategory
  deriving DecidableEq, Repr

/-- A segment of a path: a fixed text, or the place of a number. -/
inductive Segment where
  | fixed (name : String)
  | id
  deriving DecidableEq, Repr

/-- A method and a path, with the permission that is needed. -/
structure Route where
  method : String
  segments : List Segment
  perm : Option String
  endpoint : Endpoint
  deriving DecidableEq, Repr

def Segment.text : Segment → String
  | .fixed name => name
  | .id => ":id"

/-- the path as it is shown -/
def Route.template (r : Route) : String :=
  String.join (r.segments.map fun s => "/" ++ s.text)

/-- a route under the first version of the interface -/
def Route.v1 (method : String) (rest : List Segment) (perm : Option String) (e : Endpoint) :
    Route :=
  ⟨method, .fixed "v1" :: rest, perm, e⟩

def routes : List Route :=
  let orders := Segment.fixed "orders"
  let products := Segment.fixed "products"
  let categories := Segment.fixed "categories"
  [⟨"GET", [.fixed "healthz"], none, .health⟩,
   ⟨"GET", [.fixed "metrics"], none, .metrics⟩,
   .v1 "POST" [.fixed "token"] none .token,
   .v1 "POST" [orders] (some Access.ordersWrite) .createOrder,
   .v1 "GET" [orders] (some Access.ordersRead) .listOrders,
   .v1 "GET" [orders, .id] (some Access.ordersRead) .getOrder,
   .v1 "PUT" [orders, .id, .fixed "status"] (some Access.ordersAdmin) .changeStatus,
   .v1 "DELETE" [orders, .id] (some Access.ordersAdmin) .deleteOrder,
   .v1 "POST" [products] (some Access.catalogWrite) .createProduct,
   .v1 "GET" [products] (some Access.ordersRead) .listProducts,
   .v1 "GET" [products, .id] (some Access.ordersRead) .getProduct,
   .v1 "PUT" [products, .id] (some Access.catalogWrite) .updateProduct,
   .v1 "DELETE" [products, .id] (some Access.catalogWrite) .deleteProduct,
   .v1 "GET" [categories] (some Access.ordersRead) .listCategories,
   .v1 "GET" [categories, .id] (some Access.ordersRead) .getCategory,
   .v1 "POST" [categories] (some Access.catalogWrite) .createCategory,
   .v1 "PUT" [categories, .id] (some Access.catalogWrite) .renameCategory,
   .v1 "DELETE" [categories, .id] (some Access.catalogWrite) .deleteCategory]

/-- What follows a path along a route: it is left early, or it goes on with some segments, and the
number that was passed. -/
def follow : List Segment → List Octets → Option (List Segment × Option Octets)
  | segs, [] => some (segs, none)
  | [], _ :: _ => none
  | .fixed name :: segs, p :: ps => if p = Octets.ofText name then follow segs ps else none
  | .id :: segs, p :: ps => (follow segs ps).map fun (rest, later) => (rest, later.or (some p))

/-- does a route end in a number -/
def Route.endsInId (r : Route) : Bool := r.segments.getLast? == some .id

/-- the number that a path has along a route, if it is the route's path -/
def Route.match? (r : Route) (ps : List Octets) : Option (Option Octets) :=
  match follow r.segments ps with
  | some ([], id) =>
    if r.endsInId && id == some [] then none else some id
  | _ => none

/-- is a path with one slash too many to be sent to the path before the slash: the route ends
there, or the last segment is the place of a number -/
def Route.strips (r : Route) (ps : List Octets) : Bool :=
  match follow r.segments ps with
  | some ([], _) => true
  | some (_, _) => r.segments.drop (ps.length - 1) |>.head? |> (· == some .id)
  | none => false

/-- The route of a request with the number in its path, a path to go to instead, or nothing. -/
inductive Resolution where
  | route (r : Route) (id : Octets)
  | redirect (path : Octets)
  | nothing
  deriving DecidableEq, Repr

def segmentsOf? : Octets → Option (List Octets)
  | 0x2F :: rest => some (Octets.splitAtMark 0x2F rest)
  | _ => none

def resolve (method : String) (path : Octets) : Resolution :=
  match segmentsOf? path with
  | none => .nothing
  | some ps =>
    let candidates := routes.filter (·.method == method)
    match candidates.findSome? fun r => (r.match? ps).map fun id => (r, id) with
    | some (r, id) => .route r (id.getD [])
    | none =>
      if ps.getLast? = some [] ∧ 1 < ps.length ∧ candidates.any (·.strips ps.dropLast) then
        .redirect path.dropLast
      else .nothing

end OrderDesk.Http
