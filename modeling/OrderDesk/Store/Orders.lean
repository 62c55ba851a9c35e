import OrderDesk.Page
import OrderDesk.Store.Backend

/-!
# Orders in the store

An order is one row and a row for each line; both are written in one transaction.

* `Orders.save`                      stores an order whose total is the sum of its lines;
* `Orders.get`, `Orders.lock`        an order with its lines;
* `Orders.find`                      one page by id, of those with a status;
* `Orders.exists?`, `Orders.delete`.
-/

namespace OrderDesk.Store.Orders

/-- the cause when an order is not there -/
def missing (id : Int) : Cause := .notFound "order" id

/-- an order without lines, from its cells -/
def scan : Row → Except Failure Order :=
  scanRow 6 fun
    | [id, number, status, total, createdAt, updatedAt] => do
      some ⟨← id.int?, number.text?.getD "", ⟨← status.text?⟩, ← total.amount?, some [],
        ← createdAt.time?, ← updatedAt.time?⟩
    | _ => none

/-- a line with the id of its order, from its cells -/
def scanItem : Row → Except Failure (Int × Line) :=
  scanRow 5 fun
    | [orderId, productId, name, quantity, price] => do
      some (← orderId.int?, ⟨← productId.int?, ← name.text?, ← quantity.int?, ← price.amount?⟩)
    | _ => none

/-- A store together with the id of the order that is being written: a new order has its id as
soon as its row is there, also when a later line fails. -/
structure Draft where
  store : Backend
  id : Int

instance : Part Draft Backend := ⟨Draft.store, fun b d => { d with store := b }⟩

/-- an order number as it is stored; the empty one is none -/
def storedNumber (s : String) : Option String := if s = "" then none else some s

/-- the lines of the order `id`, from the `i`-th on -/
def insertLines (id : Int) : Nat → List Line → Action Backend Unit
  | _, [] => pure ()
  | i, l :: ls => do
    let _ ← (send (.insertItem id i l)).context
      ("insert item " ++ toString i ++ " of order " ++ toString id)
    insertLines id (i + 1) ls

def insertRow (o : Order) : Action Backend Int :=
  (insertNew (.insertOrder (storedNumber o.number) o.status.name o.total o.createdAt
    o.updatedAt)).context "insert order"

/-- the row of an order that is there, its lines removed -/
def updateRow (o : Order) : Action Backend Unit := do
  changeOne ("update order " ++ toString o.id) (missing o.id)
    (.updateOrder o.id (storedNumber o.number) o.status.name o.total o.updatedAt)
  let _ ← (send (.deleteItems o.id)).context ("clear items of order " ++ toString o.id)
  return ()

/-- the row of an order, new if the order has no id -/
def storeRow (o : Order) : Action Backend Int :=
  if o.id = 0 then insertRow o
  else do
    updateRow o
    return o.id

/-- writes an order and notes its id -/
def write (o : Order) : Action Draft Unit :=
  if o.itemTotal.eqv o.total then
    within do
      let id ← onStore (storeRow o)
      Action.change fun d => { d with id }
      onStore (insertLines id 0 o.items)
  else Action.raise (.mismatch o.id o.total o.itemTotal)

/-- stores an order, and gives it back with its id -/
def save (o : Order) : Action Backend Order := fun b =>
  match write o ⟨b, o.id⟩ with
  | (.ok _, d) => (.ok { o with id := d.id }, d.store)
  | (.failed f, d) => (.failed f, d.store)
  | (.panicked t, d) => (.panicked t, d.store)

/-- Gives every order the lines that were read for its id; of orders with one id only the last one
gets them. -/
def attach (items : List (Int × Line)) : List Order → List Order
  | [] => []
  | o :: os =>
    let mine := if os.any (·.id == o.id) then [] else items.filter (·.1 == o.id)
    { o with lines := some (mine.map Prod.snd) } :: attach items os

/-- the lines of several orders, read at once -/
def loadLines (os : List Order) : Action Backend (List Order) :=
  if os.isEmpty then pure []
  else do
    let items ← allRows "load order items" scanItem (.selectItems (os.map (·.id)))
    return attach items os

/-- an order, kept for the transaction if `keep` says so -/
def read (keep : Bool) (id : Int) : Action Backend Order := do
  let o ← readOne ("get order " ++ toString id) (missing id) scan (.selectOrder id keep)
  match ← loadLines [o] with
  | [o] => return o
  | _ => return o

def get (id : Int) : Action Backend Order := read false id

/-- an order whose row is kept for the transaction -/
def lock (id : Int) : Action Backend Order := read true id

def find (status : Option Status) (page : PageRequest) : Action Backend (Page Order) := do
  let s := status.map Status.name
  let total ← (firstRow scanInt (.countOrders s)).context "count orders"
  if total = 0 then return ⟨[], page.number, page.size, total⟩
  else do
    let os ← allRows "list orders" scan (.listOrders s page.size page.offset)
    return ⟨← loadLines os, page.number, page.size, total⟩

def exists? (id : Int) : Action Backend Bool := do
  let n ← (firstRow scanInt (.countOrder id)).context ("check order " ++ toString id)
  return decide (0 < n)

/-- removes an order and its lines; no stock is given back -/
def delete (id : Int) : Action Backend Unit :=
  within do
    let _ ← (send (.deleteItems id)).context ("delete items of order " ++ toString id)
    changeOne ("delete order " ++ toString id) (missing id) (.deleteOrder id)

end OrderDesk.Store.Orders
