import OrderDesk.Failure
import OrderDesk.Number.Binary64
import OrderDesk.Text.Blank

/-!
# Settings

One structure per section, with the values that hold when nothing sets them.

* `Settings`                  all sections;
* `Settings.maxOrderValue`    the ceiling on the value of an order;
* `Settings.tokenLife`        the life of a token;
* `Settings.validate`         the first setting that cannot be used.
-/

namespace OrderDesk.Settings

/-- the nanoseconds of a second -/
def second : Int := 1000000000

/-- Settings of the service itself. -/
structure App where
  name : String := "order-api"
  httpAddr : String := ":8080"
  logLevel : String := "info"
  logFile : String := ""
  deriving DecidableEq, Repr, Inhabited

/-- Settings of time limits of the web server. -/
structure Http where
  readTimeout : Int := 5 * second
  writeTimeout : Int := 10 * second
  idleTimeout : Int := 60 * second
  requestTimeout : Int := 3 * second
  deriving DecidableEq, Repr, Inhabited

/-- Settings of the store. -/
structure Database where
  driver : String := "mysql"
  dsn : String := ""
  maxOpenConns : Int := 0
  maxIdleConns : Int := 0
  connMaxLifetime : Int := 0
  deriving DecidableEq, Repr, Inhabited

/-- Settings of the cache server; an empty address turns cache and idempotency off. -/
structure Redis where
  addr : String := ""
  password : String := ""
  db : Int := 0
  deriving DecidableEq, Repr, Inhabited

/-- Settings on how long idempotency keys live. -/
structure Idempotency where
  ttl : Int := 86400 * second
  deriving DecidableEq, Repr, Inhabited

/-- Settings on how long cached orders live. -/
structure Cache where
  ttl : Int := 600 * second
  deriving DecidableEq, Repr, Inhabited

/-- Settings of the event broker; an empty address turns events off. -/
structure Rabbit where
  url : String := ""
  exchange : String := "order.events"
  prefetch : Int := 50
  handlerTimeout : Int := 10 * second
  requeue : Bool := true
  confirmTimeout : Int := 5 * second
  deriving DecidableEq, Repr, Inhabited

/-- Settings of the payment stream; no brokers turn it off. -/
structure Kafka where
  brokers : Option (List String) := none
  groupId : String := "order-api"
  topic : String := "payments.outcome"
  version : String := ""
  fromOldest : Bool := false
  deriving DecidableEq, Repr, Inhabited

/-- Settings of tokens, whose life is in minutes. -/
structure Security where
  jwtSecret : String := ""
  issuer : String := ""
  audience : String := ""
  ttl : Int := 60
  deriving DecidableEq, Repr, Inhabited

/-- Settings of the health server; an empty address turns it off. -/
structure Grpc where
  addr : String := ""
  certFile : String := ""
  keyFile : String := ""
  deriving DecidableEq, Repr, Inhabited

/-- Settings of ceilings on orders and pages. -/
structure Orders where
  maxOrderValue : String := "1000.00"
  maxItemQuantity : Int := 50
  defaultPageSize : Int := 20
  maxPageSize : Int := 100
  deriving DecidableEq, Repr, Inhabited

/-- Settings on when stock counts as low. -/
structure Inventory where
  lowStockThreshold : Int := 5
  deriving DecidableEq, Repr, Inhabited

/-- Settings of tracing; an empty endpoint keeps spans in the process. -/
structure Telemetry where
  endpoint : String := ""
  urlPath : String := "/v1/traces"
  insecure : Bool := false
  sampleRatio : Binary64 := .one
  deriving DecidableEq, Repr, Inhabited

end OrderDesk.Settings

namespace OrderDesk

/-- All settings. -/
structure Settings where
  app : Settings.App := {}
  http : Settings.Http := {}
  database : Settings.Database := {}
  redis : Settings.Redis := {}
  idempotency : Settings.Idempotency := {}
  cache : Settings.Cache := {}
  rabbit : Settings.Rabbit := {}
  kafka : Settings.Kafka := {}
  security : Settings.Security := {}
  grpc : Settings.Grpc := {}
  orders : Settings.Orders := {}
  inventory : Settings.Inventory := {}
  telemetry : Settings.Telemetry := {}
  deriving DecidableEq, Repr, Inhabited

namespace Settings

def maxOrderValue (c : Settings) : Except Failure Decimal :=
  match Decimal.parse (Text.trim c.orders.maxOrderValue) with
  | .error e =>
    .error (.plain ("orders.max_order_value " ++ Text.quoted c.orders.maxOrderValue ++ ": " ++
      e.message))
  | .ok v =>
    if v.isNegative then .error (.plain "orders.max_order_value must not be negative") else .ok v

def tokenLife (c : Settings) : Int := Word.wrap (c.security.ttl * (60 * second))

/-- the wording of a setting that cannot be used, the first one in this order -/
def validate (c : Settings) : Except Failure Unit := do
  if c.app.httpAddr = "" then throw (.plain "app.http_addr required")
  if ["mysql", "postgres", "sqlite"].contains (Text.lower c.database.driver) = false then
    throw (.plain ("database.driver " ++ Text.quoted c.database.driver ++ " not supported"))
  if c.database.dsn = "" then throw (.plain "database.dsn required")
  if c.security.jwtSecret = "" then throw (.plain "security.jwt_secret required")
  let _ ← c.maxOrderValue
  if c.orders.maxItemQuantity < 1 then
    throw (.plain "orders.max_item_quantity must be at least 1")
  if c.orders.defaultPageSize < 1 ∨ c.orders.maxPageSize < c.orders.defaultPageSize then
    throw (.plain ("orders page sizes invalid: default=" ++ toString c.orders.defaultPageSize ++
      " max=" ++ toString c.orders.maxPageSize))
  if c.telemetry.sampleRatio.lt .zero ∨ Binary64.one.lt c.telemetry.sampleRatio then
    throw (.plain "telemetry.sample_ratio must be within [0,1]")
  if !(c.kafka.brokers.getD []).isEmpty ∧ c.kafka.topic = "" then
    throw (.plain "kafka.topic required when brokers are set")

end Settings

end OrderDesk
