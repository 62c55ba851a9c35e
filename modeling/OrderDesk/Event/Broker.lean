import OrderDesk.Action
import OrderDesk.Event.Message

/-!
# Publishing events

Every event is published with a confirmation, for which the publisher waits a limited time.

* `Broker`                    how the broker treats what is published, and what was;
* `publishCreated`            announces a committed order;
* `publishStatusChanged`      announces a move to another status.
-/

namespace OrderDesk.Event

/-- How the broker treats what is published. -/
inductive Manner where
  | confirms
  | refuses
  | unreachable
  | silent
  deriving DecidableEq, Repr, Inhabited

/-- What was published: a persistent JSON message. -/
structure Publication where
  exchange : String
  key : String
  body : String
  deriving DecidableEq, Repr, Inhabited

/-- what a message carries: where it goes, that it survives a restart, and its text -/
def Publication.fields (p : Publication) : List (String × Json.Value) :=
  [("exchange", .str p.exchange), ("key", .str p.key), ("content_type", .str "application/json"),
    ("mode", .int 2), ("body", .str p.body)]

/-- How the broker treats what is published, and what was published. -/
structure Broker where
  manner : Manner := .confirms
  published : List Publication := []
  deriving DecidableEq, Repr, Inhabited

/-- The exchange, keys and queue of the service. -/
structure Topology where
  exchange : String := "order.events"
  createdKey : String := "order.created"
  statusChangedKey : String := "order.status_changed"
  createdQueue : String := "order.created.q"
  deriving DecidableEq, Repr, Inhabited

def notOpen : Failure := .plain "Exception (504) Reason: \"channel/connection is not open\""

def refusedByBroker : Failure := .plain "rmq: publish nacked by broker"

/-- the failure of a wait that was too long -/
def tooLate : Failure := .plain "context deadline exceeded"

/-- publishes a message and waits for its confirmation -/
def publish (topology : Topology) (key : String) (message : Json.Value) : Action Broker Unit :=
  fun b =>
    let noted := { b with published := b.published ++ [⟨topology.exchange, key, message.text⟩] }
    match b.manner with
    | .confirms => (.ok (), noted)
    | .refuses => (.failed (.within key refusedByBroker), noted)
    | .unreachable => (.failed (.within ("publish " ++ key) notOpen), b)
    | .silent => (.failed (.within ("confirm " ++ key) tooLate), noted)

def publishCreated (t : Topology) (m : Created) : Action Broker Unit :=
  publish t t.createdKey m.value

def publishStatusChanged (t : Topology) (m : StatusChanged) : Action Broker Unit :=
  publish t t.statusChangedKey m.value

end OrderDesk.Event
