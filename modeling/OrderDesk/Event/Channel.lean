import OrderDesk.Event.Broker
import OrderDesk.Event.Delivery

/-!
# Channels to a message broker

A connection has numbered channels. A request that the broker refuses closes its channel, and a
closed channel carries nothing more.

* `Frame`                what the broker receives;
* `Frame.onWire`         a frame within the widths of its fields;
* `Connection.call`      sends one frame on a channel;
* `declare`              sets up exchange, queue and binding, and asks for confirmations;
* `Producer.publish`     publishes an event and waits for its confirmation;
* `consume`              listens to queues until it is told to stop or the channel closes.
-/

namespace OrderDesk.Event

/-- What the broker receives. -/
inductive Frame where
  | declareExchange (name : String)
  | declareQueue (name : String)
  | bindQueue (queue key exchange : String)
  | selectConfirms
  | qos (prefetch : Int)
  | consume (queue tag : String)
  | publish (p : Publication)
  | ack (delivery : Nat)
  | nack (delivery : Nat) (requeue : Bool)
  | cancel (tag : String)
  deriving DecidableEq, Repr

/-- the name by which a broker refuses a frame -/
def Frame.method : Frame → String
  | .declareExchange _ => "exchange.declare"
  | .declareQueue _ => "queue.declare"
  | .bindQueue .. => "queue.bind"
  | .selectConfirms => "confirm.select"
  | .qos _ => "basic.qos"
  | .consume queue _ => "basic.consume:" ++ queue
  | .publish _ => "basic.publish"
  | .ack _ => "basic.ack"
  | .nack .. => "basic.nack"
  | .cancel _ => "basic.cancel"

/-- is this a request, which the broker may refuse; it only takes note of the other frames -/
def Frame.isRequest : Frame → Bool
  | .publish _ | .ack _ | .nack .. | .cancel _ => false
  | _ => true

/-- A name on the wire: its length is one octet, and as many octets are sent as that says. -/
def shortText (s : String) : String :=
  let bs := Octets.ofText s
  Octets.lossyText (bs.take (bs.length % 256))

/-- A frame within the widths of its fields: names have a length of one octet, and the number of
messages ahead has two. -/
def Frame.onWire : Frame → Frame
  | .declareExchange name => .declareExchange (shortText name)
  | .declareQueue name => .declareQueue (shortText name)
  | .bindQueue queue key exchange =>
    .bindQueue (shortText queue) (shortText key) (shortText exchange)
  | .qos prefetch => .qos (prefetch % 65536)
  | .consume queue tag => .consume (shortText queue) (shortText tag)
  | .publish p => .publish { p with exchange := shortText p.exchange, key := shortText p.key }
  | .cancel tag => .cancel (shortText tag)
  | f => f

open Json (Value) in
/-- What a frame carries beside its method. Exchanges and queues survive a restart, and so do
messages: bit 1 of the flags of a declaration, and mode 2 of a message, say so. -/
def Frame.fields : Frame → List (String × Value)
  | .declareExchange name =>
    [("exchange", .str name), ("type", .str "topic"), ("durable", .bool true), ("bits", .int 2)]
  | .declareQueue name => [("queue", .str name), ("durable", .bool true), ("bits", .int 2)]
  | .bindQueue queue key exchange =>
    [("queue", .str queue), ("key", .str key), ("exchange", .str exchange)]
  | .selectConfirms => []
  | .qos prefetch => [("prefetch", .int prefetch), ("global", .int 0)]
  | .consume queue tag => [("queue", .str queue), ("tag", .str tag), ("bits", .int 0)]
  | .publish p => p.fields ++ [("bits", .int 0)]
  | .ack delivery => [("delivery", .int delivery)]
  | .nack delivery requeue => [("delivery", .int delivery), ("requeue", .bool requeue)]
  | .cancel tag => [("tag", .str tag)]

/-- A connection: the method that the broker refuses, how it confirms, what it received, how many
deliveries it made, and the channels that are open of those that were opened. -/
structure Connection where
  refused : String := ""
  manner : Manner := .confirms
  received : List Frame := []
  delivered : Nat := 0
  opened : Nat := 0
  live : List Nat := []
  deriving DecidableEq, Repr, Inhabited

namespace Connection

/-- opens a channel, and gives its number -/
def openChannel (c : Connection) : Nat × Connection :=
  (c.opened, { c with opened := c.opened + 1, live := c.opened :: c.live })

def closeChannel (c : Connection) (ch : Nat) : Connection :=
  { c with live := c.live.filter (· != ch) }

/-- the failure of a frame that is refused -/
def preconditionFailed (method : String) : Failure :=
  .plain ("Exception (406) Reason: \"PRECONDITION_FAILED - " ++ method ++ "\"")

def call (ch : Nat) (f : Frame) : Action Connection Unit := fun c =>
  if c.live.contains ch then
    let f := f.onWire
    let c := { c with received := c.received ++ [f] }
    if f.isRequest ∧ c.refused = f.method then
      (.failed (preconditionFailed f.method), c.closeChannel ch)
    else (.ok (), c)
  else (.failed notOpen, c)

end Connection

open Connection (call)

/-- Publishes on a channel that confirms. -/
structure Producer where
  channel : Nat
  topology : Topology
  deriving DecidableEq, Repr, Inhabited

/-- sets up exchange, queue and binding, and asks for confirmations -/
def declare (ch : Nat) (t : Topology) : Action Connection Producer := do
  (call ch (.declareExchange t.exchange)).context "declare exchange"
  (call ch (.declareQueue t.createdQueue)).context "declare queue"
  (call ch (.bindQueue t.createdQueue t.createdKey t.exchange)).context "queue bind"
  (call ch .selectConfirms).context "enable confirm mode"
  return ⟨ch, t⟩

/-- publishes an event and waits for its confirmation -/
def Producer.publish (p : Producer) (key : String) (message : Json.Value) :
    Action Connection Unit := do
  (call p.channel (.publish ⟨p.topology.exchange, key, message.text⟩)).context ("publish " ++ key)
  match (← Action.state).manner with
  | .confirms | .unreachable => pure ()
  | .refuses => Action.fail (.within key refusedByBroker)
  | .silent => Action.fail (.within ("confirm " ++ key) tooLate)

/-- A message that waits in a queue. -/
structure Waiting where
  queue : String
  body : Octets
  deriving Inhabited

/-- A message that reached a handler. -/
structure Seen where
  queue : String
  message : Created
  deriving DecidableEq, Repr, Inhabited

def consumerTag (queue : String) : String := "c_" ++ queue

/-- one delivery: the handler decides its fate, of which the broker is told -/
def deliver (ch : Nat) (requeue : Bool) (handle : Created → Except Failure Unit) (w : Waiting) :
    Action Connection (List Seen) := do
  Action.change fun c => { c with delivered := c.delivered + 1 }
  let n := (← Action.state).delivered
  let (fate, message) := dispatch requeue handle w.body
  let _ ← (call ch (match fate with
    | .acked => .ack n
    | .nacked again => .nack n again)).attempt
  return message.toList.map (⟨w.queue, ·⟩)

def deliverAll (ch : Nat) (requeue : Bool) (handle : Created → Except Failure Unit) :
    List Waiting → Action Connection (List Seen)
  | [] => pure []
  | w :: ws => do
    let seen ← deliver ch requeue handle w
    return seen ++ (← deliverAll ch requeue handle ws)

/-- the failure when every consumer has stopped by itself -/
def consumersStopped : Failure := .plain "rmq: all consumers stopped"

/-- asks for the messages of every queue -/
def subscribe (ch : Nat) (prefetch : Int) (queues : List String) : Action Connection Unit := do
  call ch (.qos prefetch)
  Action.each (fun q => call ch (.consume q (consumerTag q))) queues

/-- tells the broker that no more messages are wanted -/
def unsubscribe (ch : Nat) (queues : List String) : Action Connection Unit :=
  Action.each (fun q => do
    let _ ← (call ch (.cancel (consumerTag q))).attempt
    return ()) queues

/-- how many messages a consumer takes ahead when that is not said -/
def usualPrefetch : Int := 50

/-- do messages of a queue reach its consumer: its name must arrive at the broker as it is -/
def reaches (queues : List String) (w : Waiting) : Bool :=
  queues.contains w.queue && (consumerTag w.queue).utf8ByteSize < 256

/-- Listens to queues: the messages that wait are delivered, then either the service stops or the
broker closes the channel. With the result goes what the handler saw. -/
def consume (ch : Nat) (prefetch : Int) (requeue : Bool) (queues : List String)
    (handle : Created → Except Failure Unit) (waiting : List Waiting) (closes : Bool) :
    Action Connection (Except Failure Unit × List Seen) := do
  match ← (subscribe ch prefetch queues).attempt with
  | .error f => return (.error f, [])
  | .ok _ =>
    let seen ← deliverAll ch requeue handle (waiting.filter (reaches queues))
    if closes then
      Action.change (·.closeChannel ch)
      return (.error consumersStopped, seen)
    else
      unsubscribe ch queues
      return (.ok (), seen)

end OrderDesk.Event
