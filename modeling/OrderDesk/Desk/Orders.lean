import OrderDesk.Desk.Create

/-!
# Working on orders

* `changeStatus`      moves an order to another status, if the move is allowed;
* `deleteOrder`       removes an order; no stock is given back;
* `getOrder`          an order, read through the cache;
* `listOrders`        one page of orders by id.

Each is made of steps of its own (the transaction, the write to the cache, the announcement), so
that what happens between the steps can be spoken of.
-/

namespace OrderDesk.Desk

/-- the move of an order: the order before it, and after it -/
def moveOrder (id : Int) (target : Status) : Action Desk (Order × Order) := do
  let before ← Store.onStore (Store.Orders.lock id)
  let after ← Action.ofExcept (before.moveTo target (← now))
  let _ ← (stored .saveOrder (Store.Orders.save after)).context ("save order " ++ toString id)
  return (before, after)

def moveStored (id : Int) (target : Status) : Action Desk (Order × Order) :=
  transaction (moveOrder id target)

def afterMove (s : Scope) (id : Int) (before after : Order) : Action Desk Unit := do
  let source := before.status.name
  let target := after.status.name
  count "order_status_transitions_total" [("from", source), ("to", target)]
  log s .info "order status updated"
    [("order_id", .int id), ("from", .str source), ("to", .str target)]
  cacheOrder s after
  let d ← Action.state
  if source = target then pure ()
  else do
    warnOnFailure s "publish order.status_changed failed" id
      (announced (Event.publishStatusChanged d.policy.topology ⟨id, source, target⟩))

/-- what the span of a move knows at its end -/
def moveEnding : Except Failure Unit → Telemetry.Ending
  | .ok _ => {}
  | .error f => failedSpan f

def changeStatus (s : Scope) (id : Int) (target : Status) : Action Desk Unit :=
  inSpan "UpdateOrderStatus" false
    [("order.id", .int id), ("order.status.to", .str target.name)] s moveEnding fun s => do
    let (before, after) ← moveStored id target
    afterMove s id before after

/-- the removal of an order that is there -/
def eraseOrder (id : Int) : Action Desk Unit := do
  if ← stored .orderExists (Store.Orders.exists? id) then Store.onStore (Store.Orders.delete id)
  else Action.raise (Store.Orders.missing id)

def eraseStored (id : Int) : Action Desk Unit := transaction (eraseOrder id)

/-- leaves the mark of a deletion in the cache -/
def evictOrder (s : Scope) (id : Int) : Action Desk Unit := do
  let d ← Action.state
  warnOnFailure s "order cache evict failed" id
    (kept () (OrderCache.evict d.policy.cacheTime id))

def deleteOrder (s : Scope) (id : Int) : Action Desk Unit := do
  eraseStored id
  log s .info "order deleted" [("order_id", .int id)]
  evictOrder s id

/-- the cached order; a failure to find out counts as none -/
def cachedOrder (s : Scope) (id : Int) : Action Desk (Option Order) := do
  let d ← Action.state
  if d.redis.isSome then
    match ← (do
      reach .cacheGet
      kept none (OrderCache.get id)).attempt with
    | .ok found => return found
    | .error f =>
      log s .warn "order cache get failed" [("order_id", .int id), ("error", .str f.message)]
      return none
  else return none

/-- puts what was read into the cache, if nothing is there -/
def fillCache (s : Scope) (id : Int) (o : Order) : Action Desk Unit := do
  let d ← Action.state
  warnOnFailure s "order cache fill failed" id (kept () (OrderCache.fill d.policy.cacheTime o))

/-- an order, read through the cache -/
def getOrder (s : Scope) (id : Int) : Action Desk Summary := do
  match ← cachedOrder s id with
  | some o => return o.summary
  | none =>
    let o ← stored .getOrder (Store.Orders.get id)
    fillCache s id o
    return o.summary

def listOrders (status : Option Status) (page : PageRequest) : Action Desk (Page Summary) := do
  let found ← stored .findOrders (Store.Orders.find status page)
  return found.map Order.summary

end OrderDesk.Desk
