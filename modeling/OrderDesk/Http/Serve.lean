import OrderDesk.Http.Caller
import OrderDesk.Http.Catalog
import OrderDesk.Http.Guard
import OrderDesk.Http.Redact
import OrderDesk.Http.Redirect
import OrderDesk.Http.Route
import OrderDesk.Telemetry.Propagation

/-!
# Serving requests

A request goes through four layers: a panic becomes an answer, the request is counted, traced and
logged. A request that is sent elsewhere goes through none of them.

* `Front`           what serving depends on beside the desk;
* `handle`          the handler of a route, behind its guard;
* `accessLine`      what is logged of a request and its answer;
* `serve`           the response to a request.
-/

namespace OrderDesk.Http

open Json (Value)

/-- What serving depends on beside the desk: the settings, the clients, the limits, and the present
moment against which tokens are checked, in seconds since 1970. -/
structure Front where
  settings : Settings
  clients : List Access.Client := Access.registered
  limits : Limits
  present : Int

/-- what an endpoint does for a client that may ask for it -/
def handleEndpoint (f : Front) (s : Scope) (e : Endpoint) (client : Option String) (id : Octets)
    (r : Request) : Action Desk Answer :=
  match e with
  | .health => pure (.json 200 (.obj [("ok", .bool true)]))
  | .metrics => pure { headers := [("Content-Type", "text/plain")], body := some [] }
  | .token => do
    let d ← Action.state
    return issueToken f.settings f.clients d.clock r
  | .createOrder => createOrder f.limits s client r
  | .listOrders => listOrders f.limits s r
  | .getOrder => getOrder s id
  | .changeStatus => changeStatus s id r
  | .deleteOrder => deleteOrder s id
  | .createProduct => createProduct s r
  | .listProducts => listProducts f.limits s r
  | .getProduct => getProduct s id
  | .updateProduct => updateProduct s id r
  | .deleteProduct => deleteProduct s id
  | .listCategories => listCategories s
  | .getCategory => getCategory s id
  | .createCategory => createCategory s r
  | .renameCategory => renameCategory s id r
  | .deleteCategory => deleteCategory s id

/-- the handler of a route, behind its guard -/
def handle (f : Front) (s : Scope) (route : Route) (id : Octets) (r : Request) :
    Action Desk Answer :=
  match route.perm with
  | none => handleEndpoint f s route.endpoint none id r
  | some p =>
    match require f.settings.security f.present [p] r with
    | .error a => pure a
    | .ok client => handleEndpoint f s route.endpoint client id r

/-- how many octets of a body are logged -/
def loggedLimit : Nat := 8192

/-- what follows a body that was cut -/
def cutMark : Octets := Octets.ofText "...truncated..."

/-- is a kind of content a document -/
def isJson (contentType : String) : Bool := (contentType.splitOn "application/json").length != 1

/-- a request body as it is logged: its first octets, redacted -/
def loggedRequest (r : Request) : Octets :=
  if isJson (r.header "Content-Type") then
    let (kept, more) := cap loggedLimit r.body
    redact kept ++ (if more then cutMark else [])
  else []

/-- an answer as it is logged: its first octets, redacted -/
def loggedAnswer (a : Answer) : Octets :=
  if isJson ((a.headers.lookup "Content-Type").getD "") then
    let kept := (a.body.getD []).take loggedLimit
    redact kept ++ (if loggedLimit ≤ kept.length then cutMark else [])
  else []

/-- a member that is left out when its text is empty -/
def optionalRaw (name : String) (bs : Octets) : Log.Attrs :=
  if bs.isEmpty then [] else [(name, .raw bs)]

/-- the numbered list of failures -/
def errorList (errors : List String) : String :=
  String.join ((errors.zip (List.range errors.length)).map fun (e, i) =>
    "Error #" ++ Word.padded 2 (i + 1) ++ ": " ++ e ++ "\n")

def accessAttrs (r : Request) (id : Option Octets) (a : Answer) : Log.Attrs :=
  [("status", .int a.status), ("dur_ms", .int 0)] ++ optionalRaw "req_body" (loggedRequest r) ++
    optionalRaw "resp_body" (loggedAnswer a) ++
    (match id with
      | none => []
      | some id => [("params", .arr [.obj [("Key", .str "id"), ("Value", .raw id)]])]) ++
    (if a.errors.isEmpty then [] else [("error", .str (errorList a.errors))]) ++
    [("resp_bytes", .str (match a.body with
      | none => "-1"
      | some b => toString b.length))]

/-- the level at which an answer is logged -/
def accessLevel (status : Nat) : Log.Level :=
  if 500 ≤ status then .error else if 400 ≤ status then .warn else .info

def logged (r : Request) (id : Option Octets) (s : Scope) (x : Action Desk Answer) :
    Action Desk Answer := do
  let a ← x
  Desk.log s (accessLevel a.status) "http_request" (accessAttrs r id a)
  return a

/-- what the span of a request knows at its end -/
def requestEnding : Except Failure Answer → Telemetry.Ending
  | .ok a => { attrs := [("http.response.status_code", .int a.status)],
               error := if 500 ≤ a.status then some a.code else none }
  | .error _ => {}

def traced (r : Request) (route : String) (s : Scope) (x : Scope → Action Desk Answer) :
    Action Desk Answer :=
  Desk.inSpan (r.method ++ " " ++ route) true
    [("http.request.method", .str r.method), ("http.route", .str route)]
    { s with span := Telemetry.parent? (r.header "traceparent") } requestEnding x

/-- the code under which a failed request is counted -/
def errorCode (a : Answer) : String :=
  if a.code = "" then "http_" ++ toString a.status else a.code

def counted (r : Request) (route : String) (x : Action Desk Answer) : Action Desk Answer := do
  let a ← x
  Desk.count "order_api_requests_total"
    [("method", r.method), ("route", route), ("status", toString a.status)]
  Desk.count "order_api_request_duration_seconds" [("method", r.method), ("route", route)]
  if 400 ≤ a.status then
    Desk.count "order_api_request_errors_total" [("route", route), ("code", errorCode a)]
  return a

/-- a panic becomes an answer without content -/
def recovered (x : Action Desk Answer) : Action Desk Answer := fun d =>
  match x d with
  | (.panicked _, d) => (.ok { status := 500 }, d)
  | r => r

/-- the identifier of a request: its own, or a new one -/
def requestId (r : Request) : Action Desk String :=
  let own := r.header "X-Request-Id"
  if own = "" then do return Uuid.text (← Desk.takeUuid) else pure own

/-- the four layers around a handler -/
def layered (r : Request) (route : Option Route) (id : Option Octets) (reqId : String)
    (x : Scope → Action Desk Answer) : Action Desk Answer :=
  let path := (route.map Route.template).getD ""
  let label := if path = "" then "unmatched" else path
  let logger := (Desk.componentLogger "http").add
    [("req_id", .str reqId), ("method", .str r.method), ("path", .str path),
      ("remote", .str r.caller)]
  let s : Scope := { logger }
  recovered (counted r label (traced r label s fun s => logged r id s (x s)))

/-- the response to a request for nothing that is there -/
def notFoundBody : Octets := Octets.ofText "404 page not found"

def serve (f : Front) (r : Request) : Action Desk Response :=
  match resolve r.method r.path with
  | .redirect path => pure (sendElsewhere r path)
  | .route route id => do
    let reqId ← requestId r
    let own := if route.segments.contains .id then some id else none
    let a ← layered r (some route) own reqId fun s => handle f s route id r
    return (a.withHeader "X-Request-Id" reqId).response
  | .nothing => do
    let reqId ← requestId r
    let a ← layered r none none reqId fun _ => pure { status := 404 }
    if a.status = 404 then
      return ⟨404, [("X-Request-Id", reqId), ("Content-Type", "text/plain")], notFoundBody⟩
    else return (a.withHeader "X-Request-Id" reqId).response

end OrderDesk.Http
