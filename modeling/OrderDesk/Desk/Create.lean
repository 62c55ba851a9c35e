import OrderDesk.Desk.State

/-!
# Creating orders

The requested lines are priced, their stock is reserved and the order is stored, all in one
transaction: a failure leaves stock and orders untouched. A client's key lets a request be sent
again without creating a second order.

* `checkItems`            what a request has to look like;
* `placeOrder`            what is done in one transaction;
* `reserveAndStore`       the transaction;
* `replay`                the order a key led to before;
* `createOrder`           the whole of it.
-/

namespace OrderDesk.Desk

open Store (Backend)

/-- A requested line. -/
structure ItemRequest where
  productId : Int
  quantity : Int
  deriving DecidableEq, Repr, Inhabited

/-- A request for an order: the client, its key, which may be empty, and the lines. -/
structure OrderRequest where
  client : String := ""
  key : String := ""
  items : List ItemRequest
  deriving DecidableEq, Repr, Inhabited

/-- the name of a field of the `i`-th line -/
def itemField (i : Nat) (field : String) : String :=
  "items[" ++ toString i ++ "]." ++ field

/-- what is wrong with the `i`-th line: the product, then the quantity -/
def itemFault (i : Nat) (it : ItemRequest) : Option Cause :=
  if it.productId ≤ 0 then some (.validation (itemField i "productId") .required)
  else if it.quantity < 1 then some (.validation (itemField i "quantity") .belowOne)
  else none

/-- what is wrong first with the lines from the `i`-th on -/
def itemsFault (i : Nat) : List ItemRequest → Option Cause
  | [] => none
  | it :: its =>
    match itemFault i it with
    | some c => some c
    | none => itemsFault (i + 1) its

/-- what a request has to look like: at least one line, and every line of a product -/
def checkItems (items : List ItemRequest) : Except Failure Unit :=
  match items with
  | [] => .error (.cause (.validation "items" .empty))
  | _ =>
    match itemsFault 0 items with
    | some c => .error (.cause c)
    | none => .ok ()

def orderNumber (n : Nat) : String :=
  "ORD-" ++ String.ofList (((Uuid.hex n).take 12).map Char.toUpper)

/-- reserves the stock of one line and appends it to the order, with the id it was saved under -/
def takeLine (now : Stamp) (o : Order) (it : ItemRequest) : Action Desk Order := do
  let p ← stored .lockProduct (Store.Products.lock it.productId)
  let p ← Action.ofExcept (p.reserve it.quantity)
  let p ← (stored .saveProduct (Store.Products.save { p with updatedAt := now })).context
    ("save stock of product " ++ toString p.id)
  return o.addLine p it.quantity

/-- reserves the stock of every line and appends them to the order -/
def takeLines (now : Stamp) (o : Order) : List ItemRequest → Action Desk Order
  | [] => pure o
  | it :: its => do
    let o ← takeLine now o it
    takeLines now o its

/-- stock for every line, the limit on the total, the order itself -/
def placeOrder (items : List ItemRequest) : Action Desk Order := do
  let now ← now
  let number := orderNumber (← takeUuid)
  let o ← takeLines now (Order.start number now) items
  let d ← Action.state
  Action.ofExcept (o.checkValue d.policy.maxOrderValue)
  (stored .saveOrder (Store.Orders.save o)).context "save order"

def reserveAndStore (items : List ItemRequest) : Action Desk Order := transaction (placeOrder items)

/-- the order that a key led to before -/
def replay (s : Scope) (raw : String) : Action Desk Summary :=
  match Word.parseInt? raw with
  | none => Action.fail (.plain ("idempotency recall: bad order id " ++ Text.quoted raw))
  | some id => do
    let o ← stored .getOrder (Store.Orders.get id)
    log s .info "idempotent replay" [("order_id", .int id)]
    return o.summary

/-- what a client's key led to before; a failure to find out counts as nothing -/
def lookBack (r : OrderRequest) : Action Desk (Option String) := do
  match ← (do
    reach .lookBack
    kept none (Idempotency.lookBack r.client r.key)).attempt with
  | .ok found => return found
  | .error _ => return none

/-- takes the lock of a client's key -/
def lockKey (r : OrderRequest) : Action Desk Unit := do
  let d ← Action.state
  let got ← (do
    reach .tryLock
    kept true (Idempotency.tryLock d.policy.idempotencyTime r.client r.key)).context
      "idempotency lock"
  if got then pure () else Action.raise .duplicate

/-- gives the lock of a client's key back; a failure to do so is not looked at -/
def releaseKey (r : OrderRequest) : Action Desk Unit := do
  let _ ← (kept () (Idempotency.release r.client r.key)).attempt
  return ()

/-- notes what a client's key led to; a failure to do so is not looked at -/
def rememberKey (r : OrderRequest) (id : Int) : Action Desk Unit := do
  let d ← Action.state
  let _ ← (do
    reach .remember
    kept () (Idempotency.remember d.policy.idempotencyTime r.client r.key (toString id))).attempt
  return ()

/-- writes a warning when something beside the order failed -/
def warnOnFailure (s : Scope) (message : String) (id : Int) (x : Action Desk Unit) :
    Action Desk Unit := do
  match ← x.attempt with
  | .ok _ => pure ()
  | .error f => log s .warn message [("order_id", .int id), ("error", .str f.message)]

/-- puts the committed state of an order into the cache -/
def cacheOrder (s : Scope) (o : Order) : Action Desk Unit := do
  let d ← Action.state
  if d.redis.isSome then
    warnOnFailure s "order cache set failed" o.id do
      reach .cacheSet
      kept () (OrderCache.set d.policy.cacheTime o)

/-- does a request have a key that counts -/
def usesKey (d : Desk) (r : OrderRequest) : Bool := d.redis.isSome && r.key != ""

/-- the transaction, with the lock of the key given back when it fails -/
def storeOrRelease (r : OrderRequest) (keyed : Bool) : Action Desk Order :=
  (reserveAndStore r.items).orElse fun f => do
    if keyed then releaseKey r
    Action.fail f

def afterCreation (s : Scope) (r : OrderRequest) (keyed : Bool) (o : Order) :
    Action Desk Unit := do
  count "orders_created_total"
  log s .info "order created"
    [("order_id", .int o.id), ("order_number", .str o.number), ("total", .str o.total.fixed),
      ("lines", .int o.items.length)]
  if keyed then rememberKey r o.id
  cacheOrder s o
  let d ← Action.state
  warnOnFailure s "publish order.created failed" o.id
    (announced (Event.publishCreated d.policy.topology o.created))

/-- creates an order, or finds the one its key led to -/
def createUnmeasured (s : Scope) (r : OrderRequest) : Action Desk Summary := do
  Action.ofExcept (checkItems r.items)
  let keyed := usesKey (← Action.state) r
  let found ← if keyed then lookBack r else pure none
  match found with
  | some raw => replay s raw
  | none =>
    if keyed then lockKey r
    let o ← storeOrRelease r keyed
    afterCreation s r keyed o
    return o.summary

/-- the reason under which a failure is counted -/
def rejectReason (f : Failure) : String :=
  if f.has (·.kind == .validation) then "validation"
  else if f.has (·.kind == .notFound) then "product_not_found"
  else if f.has (·.kind == .insufficientStock) then "insufficient_stock"
  else if f.has (·.kind == .valueExceeded) then "value_exceeded"
  else if f.has (·.kind == .duplicate) then "duplicate"
  else "error"

/-- what the span of a creation knows at its end -/
def creationEnding : Except Failure Summary → Telemetry.Ending
  | .ok o => { attrs := [("order.id", .int o.id), ("order.total", .str o.total)] }
  | .error f => failedSpan f

def createOrder (s : Scope) (r : OrderRequest) : Action Desk Summary :=
  inSpan "CreateOrder" false [("order.lines", .int r.items.length)] s creationEnding fun s =>
    (createUnmeasured s r).orElse fun f => do
      count "orders_rejected_total" [("reason", rejectReason f)]
      Action.fail f

end OrderDesk.Desk
