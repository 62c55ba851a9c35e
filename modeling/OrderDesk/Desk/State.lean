import OrderDesk.Event.Broker
import OrderDesk.Log.Line
import OrderDesk.Redis.OrderCache
import OrderDesk.Redis.Idempotency
import OrderDesk.Store.Categories
import OrderDesk.Store.Orders
import OrderDesk.Store.Products
import OrderDesk.Telemetry.Meter
import OrderDesk.Telemetry.Trace
import OrderDesk.Text.Uuid

/-!
# The state of the service

* `Policy`             the limits on orders, and how long things are kept;
* `Call`, `Outage`     a collaborator that is out of order fails before it is reached;
* `Desk`               the whole state;
* `Scope`              in whose name something is done: a logger and the active span;
* `Desk.inSpan`        runs an action inside a span of its own.
-/

namespace OrderDesk

open Json (Value)

/-- The limits on orders, and how long things are kept, in nanoseconds. -/
structure Policy where
  maxOrderValue : Decimal
  cacheTime : Int
  idempotencyTime : Int
  topology : Event.Topology := {}

/-- The calls on collaborators that can be out of order. -/
inductive Call where
  | transaction
  | lockProduct
  | getProduct
  | saveProduct
  | saveOrder
  | getOrder
  | orderExists
  | findOrders
  | saveCategory
  | nameTaken
  | cacheGet
  | cacheSet
  | tryLock
  | remember
  | lookBack
  deriving DecidableEq, Repr

def Call.names : List (String × Call) :=
  [("tx", .transaction), ("products.lock", .lockProduct), ("products.get", .getProduct),
   ("products.save", .saveProduct), ("orders.save", .saveOrder), ("orders.get", .getOrder),
   ("orders.exists", .orderExists), ("orders.find", .findOrders),
   ("categories.save", .saveCategory), ("categories.taken", .nameTaken), ("cache.get", .cacheGet),
   ("cache.set", .cacheSet), ("idem.lock", .tryLock), ("idem.remember", .remember),
   ("idem.recall", .lookBack)]

/-- How a call that is out of order ends. -/
inductive Outage where
  | fails (f : Failure)
  | panics (text : String)
  deriving Repr

/-- The whole state. Without `redis` there is neither cache nor idempotency; without `broker`
nothing is published. -/
structure Desk where
  policy : Policy
  store : Store.Backend
  redis : Option Redis := none
  broker : Option Event.Broker := none
  meter : Telemetry.Meter := {}
  tracer : Telemetry.Tracer := {}
  lines : List String := []
  clock : Stamp
  uuids : Uuid.Source := {}
  outages : List (Call × Outage) := []

/-- In whose name something is done: the logger, and the active span if there is one. -/
structure Scope where
  logger : Log.Logger
  span : Option Telemetry.SpanContext := none

instance : Part Desk Store.Backend := ⟨Desk.store, fun b d => { d with store := b }⟩

namespace Desk

def logger : Log.Logger := { attrs := [("component", .str "order-api")] }

def componentLogger (name : String) : Log.Logger := logger.add [("component", .str name)]

/-- the scope of what nobody asked for from outside -/
def scope : Scope := { logger }

/-- the attributes that say which span is active -/
def spanAttrs : Option Telemetry.SpanContext → Log.Attrs
  | none => []
  | some c => [("trace_id", .str c.trace), ("span_id", .str c.span)]

def log (s : Scope) (level : Log.Level) (message : String) (attrs : Log.Attrs) :
    Action Desk Unit :=
  Action.change fun d =>
    { d with lines := d.lines ++ [s.logger.line level message (attrs ++ spanAttrs s.span)] }

def count (name : String) (labels : List (String × String) := []) : Action Desk Unit :=
  Action.change fun d => { d with meter := d.meter.add ⟨name, labels⟩ }

/-- the present time, in universal time -/
def now : Action Desk Stamp := Action.reads fun d => d.clock.utc

def takeUuid : Action Desk Nat := fun d =>
  let (n, u) := d.uuids.take
  (.ok n, { d with uuids := u })

/-- passes a call on, unless it is out of order -/
def reach (p : Call) : Action Desk Unit := do
  match (← Action.state).outages.lookup p with
  | none => pure ()
  | some (.fails f) => Action.fail f
  | some (.panics text) => Action.panicWith text

def stored {α : Type} (p : Call) (x : Action Store.Backend α) : Action Desk α := do
  reach p
  Store.onStore x

/-- a call on the keyspace; without one there is a default -/
def kept {α : Type} (absent : α) (x : Action Redis α) : Action Desk α := fun d =>
  match d.redis with
  | none => (.ok absent, d)
  | some r =>
    let (o, r) := x r
    (o, { d with redis := some r })

/-- a call on the broker, if there is one -/
def announced (x : Action Event.Broker Unit) : Action Desk Unit := fun d =>
  match d.broker with
  | none => (.ok (), d)
  | some b =>
    let (o, b) := x b
    (o, { d with broker := some b })

def transaction {α : Type} (x : Action Desk α) : Action Desk α := do
  reach .transaction
  Store.within x

/-- what a failure leaves in a span: its message, twice -/
def failedSpan (f : Failure) : Telemetry.Ending :=
  { exceptions := [f.message], error := some f.message }

/-- Runs an action inside a span of its own. A panic leaves its text as an exception; for any other
end `ending` says what the span knows. -/
def inSpan {α : Type} (name : String) (server : Bool) (attrs : Telemetry.Attrs) (s : Scope)
    (ending : Except Failure α → Telemetry.Ending) (body : Scope → Action Desk α) :
    Action Desk α := fun d =>
  let (c, t) := d.tracer.start s.span
  let (o, d) := body { s with span := some c } { d with tracer := t }
  let e := match o with
    | .ok a => ending (.ok a)
    | .failed f => ending (.error f)
    | .panicked text => { exceptions := [text] }
  let span : Telemetry.Span :=
    { name, server, context := c, parent := (s.span.map (·.span)).getD "",
      attrs := attrs ++ e.attrs, exceptions := e.exceptions, error := e.error }
  (o, { d with tracer := d.tracer.finish span })

end Desk

end OrderDesk
