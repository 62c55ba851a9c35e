import OrderDesk.Desk.Catalog
import OrderDesk.Desk.Orders
import OrderDesk.Event.Delivery
import OrderDesk.Payment.Outcome

/-!
# Messages the service listens to

* `handlePayment`      moves an order as the payment gateway reports; only a failure worth another
                       try is one;
* `consumeClaim`       the messages of one claim, with what is marked as done;
* `listen`             claim after claim with the payment messages, until the group ends;
* `watchStock`         flags the products of a new order whose stock is low;
* `deliverCreated`     one delivery from the queue of new orders.
-/

namespace OrderDesk.Desk

/-- moves an order as the payment gateway reports -/
def handlePayment (s : Scope) (m : PaymentOutcome) : Action Desk Unit := do
  let s' : Scope := { s with
    logger := s.logger.add [("order_id", .int m.orderId), ("payment_status", .str m.status)] }
  match m.target? with
  | none => log s' .warn "unknown payment outcome dropped" []
  | some target =>
    (changeStatus s m.orderId target).orElse fun f =>
      if worthRetrying f then Action.fail f
      else log s' .warn "payment outcome dropped" [("error", .str f.message)]

/-- A payment message as it arrives. -/
structure Record where
  offset : Int
  key : String
  value : Octets
  deriving Inhabited

/-- A message marked as done, with a note. -/
structure Mark where
  offset : Int
  note : String
  deriving DecidableEq, Repr, Inhabited

def paymentTopic : String := "payments.outcome"

/-- the outcome that a message reports, none if it cannot be read -/
def Record.outcome? (r : Record) : Option PaymentOutcome :=
  (Json.readWhole? (Octets.lossy r.value)).bind PaymentOutcome.ofDoc?

/-- One message with a handler: what cannot be read is marked so that it does not come back, and
what failed is not marked, so that it does. -/
def consumeRecord (handle : PaymentOutcome → Action Desk Unit) (r : Record) :
    Action Desk (List Mark) := do
  let s : Scope := { logger := componentLogger "kafka-consumer" }
  match r.outcome? with
  | none =>
    log s .warn "kafka decode error"
      [("error", .str "decode"), ("topic", .str paymentTopic), ("offset", .int r.offset)]
    return [⟨r.offset, "decode-error"⟩]
  | some m =>
    match ← (handle m).attempt with
    | .ok _ => return [⟨r.offset, ""⟩]
    | .error f =>
      log s .error "handler error"
        [("error", .str f.message), ("key", .str r.key), ("offset", .int r.offset)]
      return []

/-- the messages of one claim, one after another, with the marks -/
def consumeClaim (handle : PaymentOutcome → Action Desk Unit) :
    List Record → Action Desk (List Mark)
  | [] => pure []
  | r :: rs => do
    let marks ← consumeRecord handle r
    return marks ++ (← consumeClaim handle rs)

/-- How a claim ends: the service stops, the group was closed, the group failed, or the partitions
are handed out anew. -/
inductive ClaimEnd where
  | stopped
  | groupClosed
  | groupFailed (f : Failure)
  | rebalanced
  deriving Repr

/-- What came of listening: the marks, the number of claims, and how it ended. -/
structure Listening where
  marks : List Mark
  claims : Nat
  result : Except Failure Unit

/-- claim after claim, until one ends in anything but new partitions -/
def listen : List (List Record × ClaimEnd) → Action Desk Listening
  | [] => pure ⟨[], 0, .ok ()⟩
  | (rs, how) :: rest => do
    let marks ← consumeClaim (handlePayment scope) rs
    match how with
    | .stopped | .groupClosed => return ⟨marks, 1, .ok ()⟩
    | .groupFailed f => return ⟨marks, 1, .error f⟩
    | .rebalanced =>
      let l ← listen rest
      return { l with marks := marks ++ l.marks, claims := l.claims + 1 }

/-- the gauge of a product with low stock -/
def lowStock (id : Int) : Telemetry.Series :=
  ⟨"catalog_low_stock_product", [("product_id", toString id)]⟩

def measure (f : Telemetry.Meter → Telemetry.Meter) : Action Desk Unit :=
  Action.change fun d => { d with meter := f d.meter }

/-- one product of a new order: its gauge shows the stock while it is at the threshold or below -/
def watchProduct (threshold orderId productId : Int) : Action Desk Unit := do
  match ← (getProduct productId).attempt with
  | .error f => if f.has (·.kind == .notFound) then pure () else Action.fail f
  | .ok p =>
    if threshold < p.stock then measure (·.clear (lowStock p.id))
    else do
      measure (·.setTo (lowStock p.id) p.stock)
      log { logger := componentLogger "low-stock" } .warn "product stock low"
        [("product_id", .int p.id), ("product", .str p.name), ("stock", .int p.stock),
          ("threshold", .int threshold), ("order_id", .int orderId)]

/-- flags the products of a new order whose stock is low -/
def watchStock (threshold : Int) (m : Created) : Action Desk Unit :=
  Action.each (fun (i : CreatedItem) => watchProduct threshold m.orderId i.productId)
    (m.items.getD [])

/-- one delivery from the queue of new orders -/
def deliverCreated (threshold : Int) (requeue : Bool) (body : Octets) :
    Action Desk Event.Fate := do
  let d ← Action.state
  let queue := d.policy.topology.createdQueue
  let result ← (do
    watchStock threshold (← Action.ofExcept (Event.decodeCreated body))).attempt
  let fate := Event.Fate.ofResult requeue result
  match result, fate with
  | .error f, .nacked again =>
    log { logger := componentLogger "rmq-router" } .error "handler error"
      [("queue", .str queue), ("tag", .str ("c_" ++ queue)),
        ("rk", .str d.policy.topology.createdKey), ("error", .str f.message),
        ("requeue", .bool again)]
  | _, _ => pure ()
  return fate

end OrderDesk.Desk
