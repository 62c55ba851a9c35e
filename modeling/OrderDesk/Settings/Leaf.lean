import OrderDesk.Settings.Basic
import OrderDesk.Settings.Yaml.Value
import OrderDesk.Time.Span

/-!
# Leaves of the settings

Every setting is a leaf: a section, a key, and how its value is read and written.

* `Leaf`             one setting;
* `leaves`           all of them;
* `LeafValue.read?`  what a tree gives for a leaf: scalars of other kinds are converted;
* `fill?`            the settings with every leaf that a tree names.
-/

namespace OrderDesk.Settings

/-- The value of a leaf; the constructor is the kind of the leaf. -/
inductive LeafValue where
  | text (s : String)
  | whole (n : Int)
  | span (n : Int)
  | flag (b : Bool)
  | ratio (x : Binary64)
  | texts (l : Option (List String))
  deriving DecidableEq, Repr, Inhabited

/-- One setting. -/
structure Leaf where
  heading : String
  key : String
  get : Settings → LeafValue
  set : Settings → LeafValue → Settings

def textLeaf (sec key : String) (get : Settings → String) (set : Settings → String → Settings) :
    Leaf :=
  ⟨sec, key, fun c => .text (get c), fun c v => match v with
    | .text s => set c s
    | _ => c⟩

/-- a leaf that holds a whole number -/
def wholeLeaf (sec key : String) (get : Settings → Int) (set : Settings → Int → Settings) : Leaf :=
  ⟨sec, key, fun c => .whole (get c), fun c v => match v with
    | .whole n => set c n
    | _ => c⟩

/-- a leaf that holds a length of time -/
def spanLeaf (sec key : String) (get : Settings → Int) (set : Settings → Int → Settings) : Leaf :=
  ⟨sec, key, fun c => .span (get c), fun c v => match v with
    | .span n => set c n
    | _ => c⟩

def flagLeaf (sec key : String) (get : Settings → Bool) (set : Settings → Bool → Settings) : Leaf :=
  ⟨sec, key, fun c => .flag (get c), fun c v => match v with
    | .flag b => set c b
    | _ => c⟩

def leaves : List Leaf := [
  textLeaf "app" "name" (·.app.name) (fun c v => { c with app.name := v }),
  textLeaf "app" "http_addr" (·.app.httpAddr) (fun c v => { c with app.httpAddr := v }),
  textLeaf "app" "log_level" (·.app.logLevel) (fun c v => { c with app.logLevel := v }),
  textLeaf "app" "log_file" (·.app.logFile) (fun c v => { c with app.logFile := v }),
  spanLeaf "http" "read_timeout" (·.http.readTimeout) (fun c v => { c with http.readTimeout := v }),
  spanLeaf "http" "write_timeout" (·.http.writeTimeout)
    (fun c v => { c with http.writeTimeout := v }),
  spanLeaf "http" "idle_timeout" (·.http.idleTimeout) (fun c v => { c with http.idleTimeout := v }),
  spanLeaf "http" "request_timeout" (·.http.requestTimeout)
    (fun c v => { c with http.requestTimeout := v }),
  textLeaf "database" "driver" (·.database.driver) (fun c v => { c with database.driver := v }),
  textLeaf "database" "dsn" (·.database.dsn) (fun c v => { c with database.dsn := v }),
  wholeLeaf "database" "max_open_conns" (·.database.maxOpenConns)
    (fun c v => { c with database.maxOpenConns := v }),
  wholeLeaf "database" "max_idle_conns" (·.database.maxIdleConns)
    (fun c v => { c with database.maxIdleConns := v }),
  spanLeaf "database" "conn_max_lifetime" (·.database.connMaxLifetime)
    (fun c v => { c with database.connMaxLifetime := v }),
  textLeaf "redis" "addr" (·.redis.addr) (fun c v => { c with redis.addr := v }),
  textLeaf "redis" "password" (·.redis.password) (fun c v => { c with redis.password := v }),
  wholeLeaf "redis" "db" (·.redis.db) (fun c v => { c with redis.db := v }),
  spanLeaf "idempotency" "ttl" (·.idempotency.ttl) (fun c v => { c with idempotency.ttl := v }),
  spanLeaf "cache" "ttl" (·.cache.ttl) (fun c v => { c with cache.ttl := v }),
  textLeaf "rabbitmq" "url" (·.rabbit.url) (fun c v => { c with rabbit.url := v }),
  textLeaf "rabbitmq" "exchange" (·.rabbit.exchange) (fun c v => { c with rabbit.exchange := v }),
  wholeLeaf "rabbitmq" "prefetch" (·.rabbit.prefetch) (fun c v => { c with rabbit.prefetch := v }),
  spanLeaf "rabbitmq" "handler_timeout" (·.rabbit.handlerTimeout)
    (fun c v => { c with rabbit.handlerTimeout := v }),
  flagLeaf "rabbitmq" "requeue" (·.rabbit.requeue) (fun c v => { c with rabbit.requeue := v }),
  spanLeaf "rabbitmq" "confirm_timeout" (·.rabbit.confirmTimeout)
    (fun c v => { c with rabbit.confirmTimeout := v }),
  ⟨"kafka", "brokers", fun c => .texts c.kafka.brokers, fun c v => match v with
    | .texts l => { c with kafka.brokers := l }
    | _ => c⟩,
  textLeaf "kafka" "group_id" (·.kafka.groupId) (fun c v => { c with kafka.groupId := v }),
  textLeaf "kafka" "topic" (·.kafka.topic) (fun c v => { c with kafka.topic := v }),
  textLeaf "kafka" "version" (·.kafka.version) (fun c v => { c with kafka.version := v }),
  flagLeaf "kafka" "from_oldest" (·.kafka.fromOldest) (fun c v => { c with kafka.fromOldest := v }),
  textLeaf "security" "jwt_secret" (·.security.jwtSecret)
    (fun c v => { c with security.jwtSecret := v }),
  textLeaf "security" "issuer" (·.security.issuer) (fun c v => { c with security.issuer := v }),
  textLeaf "security" "audience" (·.security.audience)
    (fun c v => { c with security.audience := v }),
  wholeLeaf "security" "ttl" (·.security.ttl) (fun c v => { c with security.ttl := v }),
  textLeaf "grpc" "addr" (·.grpc.addr) (fun c v => { c with grpc.addr := v }),
  textLeaf "grpc" "cert_file" (·.grpc.certFile) (fun c v => { c with grpc.certFile := v }),
  textLeaf "grpc" "key_file" (·.grpc.keyFile) (fun c v => { c with grpc.keyFile := v }),
  textLeaf "orders" "max_order_value" (·.orders.maxOrderValue)
    (fun c v => { c with orders.maxOrderValue := v }),
  wholeLeaf "orders" "max_item_quantity" (·.orders.maxItemQuantity)
    (fun c v => { c with orders.maxItemQuantity := v }),
  wholeLeaf "orders" "default_page_size" (·.orders.defaultPageSize)
    (fun c v => { c with orders.defaultPageSize := v }),
  wholeLeaf "orders" "max_page_size" (·.orders.maxPageSize)
    (fun c v => { c with orders.maxPageSize := v }),
  wholeLeaf "inventory" "low_stock_threshold" (·.inventory.lowStockThreshold)
    (fun c v => { c with inventory.lowStockThreshold := v }),
  textLeaf "telemetry" "endpoint" (·.telemetry.endpoint)
    (fun c v => { c with telemetry.endpoint := v }),
  textLeaf "telemetry" "url_path" (·.telemetry.urlPath)
    (fun c v => { c with telemetry.urlPath := v }),
  flagLeaf "telemetry" "insecure" (·.telemetry.insecure)
    (fun c v => { c with telemetry.insecure := v }),
  ⟨"telemetry", "sample_ratio", fun c => .ratio c.telemetry.sampleRatio, fun c v => match v with
    | .ratio x => { c with telemetry.sampleRatio := x }
    | _ => c⟩]

def plainNumber (x : Binary64) : String :=
  if x.mant = 0 then (if x.neg then "-0" else "0")
  else
    let (n, k) := x.shortest
    let (ds, k) := Binary64.stripZeros (Nat.toDigits 10 n) k
    let body := Binary64.plainDigits ds k
    String.ofList (if x.neg then '-' :: body else body)

/-- a number cut to whole, the least number when it does not fit 64 bits -/
def cutToWhole (x : Binary64) : Int := if Word.InRange x.truncate then x.truncate else -Int.pow 2 63

def textOf? : Tree → Option String
  | .text s => some s
  | .int n => some (toString n)
  | .float (.finite x) => some (plainNumber x)
  | .float (.infinite neg) => some (if neg then "-Inf" else "+Inf")
  | .float .undefined => some "NaN"
  | .bool b => some (if b then "1" else "0")
  | _ => none

/-- a whole number from a scalar; the empty text is zero, and what fits no number the least -/
def wholeOf? : Tree → Option Int
  | .int n => some (Word.wrap n)
  | .float (.finite x) => some (cutToWhole x)
  | .float _ => some (-Int.pow 2 63)
  | .bool b => some (if b then 1 else 0)
  | .text s => if s = "" then some 0 else Literal.whole? s.toList
  | _ => none

/-- a length of time: numbers are nanoseconds, a text needs units -/
def spanOf? : Tree → Option Int
  | .text s => Span.parse? s
  | t => wholeOf? t

/-- on or off from a scalar; the empty text is off -/
def flagOf? : Tree → Option Bool
  | .bool b => some b
  | .int n => some (n != 0)
  | .float (.finite x) => some (x.mant != 0)
  | .float _ => some true
  | .text s =>
    if ["1", "t", "T", "true", "TRUE", "True"].contains s then some true
    else if ["", "0", "f", "F", "false", "FALSE", "False"].contains s then some false
    else none
  | _ => none

/-- A finite number that compares with the bounds of a ratio as the given one does. -/
def comparable? : Real64 → Option Binary64
  | .finite x => some x
  | .infinite neg => Binary64.ofRatio? neg 2 1
  | .undefined => none

/-- A number from a scalar; the empty text is zero. -/
def ratioOf? : Tree → Option Binary64
  | .float x => comparable? x
  | .int n => Binary64.ofRatio? (n < 0) n.natAbs 1
  | .bool b => some (if b then .one else .zero)
  | .text s => if s = "" then some .zero else (Real64.parse? s.toList).bind comparable?
  | _ => none

/-- an item of a list of texts; nothing is the empty text -/
def itemOf? : Tree → Option String
  | .null => some ""
  | t => textOf? t

/-- a list of texts; a scalar is a list of one -/
def textsOf? : Tree → Option (List String)
  | .seq ts => ts.mapM itemOf?
  | .map [] => some []
  | t => (textOf? t).map ([·])

/-- What a tree gives for a leaf that holds `old`: nothing keeps it, a tree of the wrong shape
spoils the settings. -/
def LeafValue.read? (old : LeafValue) : Tree → Option LeafValue
  | .null => some old
  | t =>
    match old with
    | .text _ => (textOf? t).map .text
    | .whole _ => (wholeOf? t).map .whole
    | .span _ => (spanOf? t).map .span
    | .flag _ => (flagOf? t).map .flag
    | .ratio _ => (ratioOf? t).map .ratio
    | .texts _ => (textsOf? t).map fun l => .texts (some l)

/-- the child of a name; failing that, of a name that differs in letter case only -/
def looseChild? (name : String) (children : List (String × Tree)) : Option Tree :=
  match child? name children with
  | some t => some t
  | none => (children.find? fun (k, _) => Text.foldKey k == Text.foldKey name).map Prod.snd

/-- the tree under a section and a key: `none` for a section that is no map, `some none` when
nothing is there; a moment in time has no parts to look at -/
def leafTree? (heading key : String) (root : List (String × Tree)) : Option (Option Tree) :=
  match looseChild? heading root with
  | none | some .null | some .moment => some none
  | some (.map ms) => some (looseChild? key ms)
  | _ => none

def Leaf.fill? (root : List (String × Tree)) (c : Settings) (l : Leaf) : Option Settings :=
  match leafTree? l.heading l.key root with
  | none => none
  | some none => some c
  | some (some t) => ((l.get c).read? t).map (l.set c)

def fill? (root : List (String × Tree)) (c : Settings) : Option Settings :=
  leaves.foldlM (Leaf.fill? root) c

end OrderDesk.Settings
