import OrderDesk.Desk.Messages
import OrderDesk.Event.Channel
import OrderDesk.Event.Group
import OrderDesk.Health
import OrderDesk.Http.Serve
import OrderDesk.Service.Address
import OrderDesk.Settings.Basic
import OrderDesk.Store.Open

/-!
# Starting the service

The parts of the service start one after another, and the first that cannot start ends the start.
Parts whose address is not set are left out.

* `Surroundings`      what the service finds around it;
* `Service`           a service that runs;
* `start`             starts it as the settings say.
-/

namespace OrderDesk

/-- What the service finds around it: the servers that answer, the files that are there, and the
present moment. -/
structure Surroundings where
  server : Engine → Option Store.Backend := fun _ => none
  redis : String → Option Redis := fun _ => none
  rabbit : String → Option Event.Connection := fun _ => none
  stream : String → Bool := fun _ => false
  isThere : String → Bool := fun _ => false
  clock : Stamp

/-- A service that runs: its desk, what it serves requests with, its connection to the event broker,
and its health if that can be asked for. -/
structure Service where
  desk : Desk
  front : Http.Front
  connection : Option Event.Connection
  health : Option Health

namespace Service

def cannotListen (address : String) : Failure := .plain ("listen tcp: address " ++ address)

/-- the keyspace for cache and idempotency -/
def startRedis (s : Settings.Redis) (w : Surroundings) : Except Failure (Option Redis) :=
  if s.addr = "" then .ok none
  else match w.redis s.addr with
    | some r => .ok (some r)
    | none =>
      .error (.within "redis ping" (.plain ("dial tcp " ++ s.addr ++ ": connection refused")))

/-- the exchange, keys and queue that the settings name -/
def topology (s : Settings.Rabbit) : Event.Topology := { exchange := s.exchange }

/-- sets up one channel for publishing and one for the queue of new orders -/
def openChannels (s : Settings.Rabbit) : Action Event.Connection Unit := do
  let opening : Action Event.Connection Nat := fun c =>
    let (n, c) := c.openChannel
    (.ok n, c)
  let _ ← Event.declare (← opening) (topology s)
  Event.subscribe (← opening) s.prefetch [(topology s).createdQueue]

def startRabbit (s : Settings.Rabbit) (w : Surroundings) :
    Except Failure (Option Event.Connection) :=
  if s.url = "" then .ok none
  else match w.rabbit s.url with
    | none => .error (.within "rabbitmq dial" (.plain "connection refused"))
    | some c =>
      match openChannels s c with
      | (.ok _, c) => .ok (some c)
      | (.failed f, _) => .error f
      | (.panicked t, _) => .error (.plain t)

/-- the group that listens to payment messages -/
def startStream (s : Settings.Kafka) (w : Surroundings) : Except Failure Unit :=
  if (s.brokers.getD []).isEmpty then .ok ()
  else (Event.joinGroup (s.brokers.getD []) s.version w.stream).mapError (.within "kafka group")

def startHealth (s : Settings.Grpc) (w : Surroundings) : Except Failure (Option Health) :=
  if s.addr = "" then .ok none
  else do
    let h ← Health.start s.certFile s.keyFile w.isThere
    if canListen s.addr then return some h else throw (cannotListen s.addr)

/-- the address of the web server; an empty one is the usual one -/
def webAddress (s : Settings.App) : String := if s.httpAddr = "" then ":http" else s.httpAddr

def frontOf (s : Settings) (w : Surroundings) : Http.Front where
  settings := s
  limits := ⟨s.orders.maxItemQuantity, s.orders.defaultPageSize, s.orders.maxPageSize⟩
  present := w.clock.seconds

/-- Starts the service. The order of the parts decides which of several failures is told. -/
def start (s : Settings) (w : Surroundings) : Except Failure Service := do
  let maxOrderValue ← s.maxOrderValue
  let store ← Store.openStore s.database.driver s.database.dsn w.server
  let redis ← startRedis s.redis w
  let connection ← startRabbit s.rabbit w
  startStream s.kafka w
  let health ← startHealth s.grpc w
  if canListen (webAddress s.app) = false then throw (cannotListen (webAddress s.app))
  let policy : Policy := {
    maxOrderValue, cacheTime := s.cache.ttl, idempotencyTime := s.idempotency.ttl,
    topology := topology s.rabbit }
  return {
    desk := { policy, store, redis, clock := w.clock, broker := connection.map fun _ => {} }
    front := frontOf s w
    connection, health }

end Service

end OrderDesk
