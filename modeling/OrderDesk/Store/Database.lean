import OrderDesk.Store.Pattern
import OrderDesk.Store.Statement
import OrderDesk.Store.Tables
import OrderDesk.Time.Layout

/-!
# The embedded engine

Each statement is a function on the tables. A statement that fails changes nothing, with one
exception: when no id is left for a new row, the engine also gives up the transaction it is in.

* `Reply`               what an engine answers;
* `Tables.answer`       the answer to a statement, with the tables after it;
* `Savepoint`           what an open transaction goes back to when it is undone;
* `Database`            the tables, the open transaction, and whether the database was closed;
* `Database.refuse`     what a failed statement does to an open transaction.
-/

namespace OrderDesk.Store

/-- What an engine answers: rows, and what it says at their end; the number of rows a change
touched, or why it is not known; the id of a new row. -/
structure Reply where
  rows : List Row := []
  rowsError : Option String := none
  affected : Except String Int := .ok 0
  id : Int := 0

/-- a table that was dropped -/
def noTable (name : String) : Failure :=
  .plain ("SQL logic error: no such table: " ++ name ++ " (1)")

/-- a row that a rule of the schema refuses -/
def refused (rule : String) (code : Nat) : Failure :=
  .plain ("constraint failed: " ++ rule ++ " (" ++ toString code ++ ")")

/-- the stock of a product is never negative -/
def stockRefused : Failure := refused "CHECK constraint failed: stock >= 0" 275

/-- a value that is in use already -/
def notUnique (column : String) : Failure :=
  refused ("UNIQUE constraint failed: " ++ column) 2067

/-- no id is left -/
def idsExhausted : Failure := .plain "database or disk is full (13)"

/-- the greatest number of values in one statement -/
def valueLimit : Nat := 32766

/-- Can a time be read back: its year has four digits, and it was given in universal time, or less
than 24 minutes away from it. -/
def readable (t : Stamp) : Bool := decide t.InCalendar && decide (t.offset.natAbs < 24 * 60)

/-- a text up to the mark of a monotonic clock -/
def beforeMonotonic (cs : List Char) : List Char :=
  match cs with
  | [] => []
  | 'm' :: '=' :: _ => []
  | c :: cs => c :: beforeMonotonic cs

/-- a text without a `Z` at its end -/
def withoutZulu (cs : List Char) : List Char := if cs.getLast? = some 'Z' then cs.dropLast else cs

/-- a time as the service stores it: with the number and the name of its zone -/
def zonedLayout : Layout :=
  Layout.date ++ [.blank] ++ Layout.fineClock ++ [.blank, .offset false, .blank, .zone]

/-- The other layouts of a stored time: a date, then after a blank or a `T` hours and minutes,
seconds if there are any, and an offset if there is one. -/
def plainLayouts : List Layout :=
  let d := Layout.date
  let t : Layout.Piece := .mark 'T'
  [d ++ [.blank] ++ Layout.fineClock ++ [.offset true],
   d ++ [t] ++ Layout.fineClock ++ [.offset true],
   d ++ [.blank] ++ Layout.fineClock, d ++ [t] ++ Layout.fineClock,
   d ++ [.blank] ++ Layout.clock, d ++ [t] ++ Layout.clock, d]

/-- The time that a text spells. The reading of a monotonic clock at its end does not count, nor
does a `Z`. -/
def spelledTime? (s : String) : Option Stamp :=
  let head := beforeMonotonic s.toList
  let zoned := if head.isEmpty then s.toList else head
  (zonedLayout.read? (Text.trimChars zoned)).orElse fun _ =>
    plainLayouts.findSome? (·.read? (withoutZulu s.toList))

/-- A time is read back as it was, if it can be; a text that spells a time is one. -/
def stored : Cell → Cell
  | .time t => if readable t then .time t else .text t.text
  | .text s => match spelledTime? s with
    | some t => .time t
    | none => .text s
  | c => c

def ProductRow.cells (r : ProductRow) : Row :=
  [.int r.id, .text r.name, .text r.price, r.stock, stored r.createdAt, stored r.updatedAt]

/-- a text that may be absent -/
def optionalCell : Option String → Cell
  | none => .null
  | some s => .text s

def OrderRow.cells (r : OrderRow) : Row :=
  [.int r.id, optionalCell r.number, .text r.status, .text r.total, stored r.createdAt,
    stored r.updatedAt]

def ItemRow.cells (r : ItemRow) : Row :=
  [r.orderId, r.productId, .text r.productName, r.quantity, .text r.unitPrice]

def CategoryRow.cells (r : CategoryRow) : Row :=
  [.int r.id, .text r.name, stored r.createdAt, stored r.updatedAt]

/-- a part of a list; a negative limit is none, a negative offset is zero -/
def window {α : Type} (limit offset : Int) (rows : List α) : List α :=
  let rest := rows.drop offset.toNat
  if limit < 0 then rest else rest.take limit.toNat

/-- the products whose name matches, if a pattern is given -/
def matching (pattern : Option String) (rows : List ProductRow) :
    Except Failure (List ProductRow) :=
  match pattern with
  | none => .ok rows
  | some p =>
    if patternLimit < p.utf8ByteSize ∧ rows ≠ [] then
      .error (.plain "SQL logic error: LIKE or GLOB pattern too complex (1)")
    else .ok (rows.filter fun r => like p (String.ofList (folded r.name)))

/-- the orders with a status, if one is given -/
def withStatus (status : Option String) (rows : List OrderRow) : List OrderRow :=
  match status with
  | none => rows
  | some s => rows.filter (·.status == s)

/-- lines by order, then by line number, then by id -/
def ItemRow.before (a b : ItemRow) : Bool :=
  if a.orderId = b.orderId then a.lineNo.before b.lineNo else a.orderId.before b.orderId

/-- categories by name without case, then by id -/
def CategoryRow.before (a b : CategoryRow) : Bool := !decide (folded b.name < folded a.name)

def Reply.number (n : Int) : Reply := { rows := [[.int n]] }

def Reply.ofRows (rows : List Row) : Reply := { rows }

def Reply.changed (n : Int) : Reply := { affected := .ok n }

namespace Tables

/-- a table that is there, or the failure that it is not -/
def table {ρ : Type} (name : String) : Option (Table ρ) → Except Failure (Table ρ)
  | some t => .ok t
  | none => .error (noTable name)

/-- a new row with the next id, which is taken before a rule of the schema can refuse the row -/
def inserted {ρ : Type} [HasId ρ] (t : Table ρ) (refusal : Option Failure) (make : Int → ρ) :
    Except Failure (Reply × Table ρ) :=
  if Int.pow 2 63 ≤ t.nextId then .error idsExhausted
  else match refusal with
    | some f => .error f
    | none => .ok ({ affected := .ok 1, id := t.nextId }, t.insert make)

def numberTaken (t : Table OrderRow) (number : Option String) (besides : Int) : Bool :=
  number.isSome && t.rows.any fun r => r.number == number && r.id != besides

def nameTaken (t : Table CategoryRow) (name : String) (besides : Int) : Bool :=
  t.rows.any fun r => sameName r.name name && r.id != besides

def onProducts (t : Table ProductRow) : Statement → Except Failure (Reply × Table ProductRow)
  | .insertProduct name price stock createdAt updatedAt =>
    inserted t (if stock < 0 then some stockRefused else none) fun id =>
      ⟨id, name, price.text, .int stock, .time createdAt, .time updatedAt⟩
  | .updateProduct id name price stock updatedAt =>
    match t.get? id with
    | none => .ok (.changed 0, t)
    | some _ =>
      if stock < 0 then .error stockRefused
      else .ok (.changed 1, t.update id fun r =>
        { r with name, price := price.text, stock := .int stock, updatedAt := .time updatedAt })
  | .deleteProduct id => .ok (.changed (t.count (·.id == id)), t.erase (·.id == id))
  | .selectProduct id _ => .ok (.ofRows ((t.get? id).toList.map ProductRow.cells), t)
  | .countProducts pattern => do
    let rows ← matching pattern t.rows
    return (.number rows.length, t)
  | .listProducts pattern limit offset => do
    let rows ← matching pattern t.rows
    return (.ofRows ((window limit offset rows).map ProductRow.cells), t)
  | _ => .ok ({}, t)

def onOrders (t : Table OrderRow) : Statement → Except Failure (Reply × Table OrderRow)
  | .insertOrder number status total createdAt updatedAt =>
    inserted t (if numberTaken t number t.nextId then some (notUnique "orders.order_number") else none)
      fun id => ⟨id, number, status, total.text, .time createdAt, .time updatedAt⟩
  | .updateOrder id number status total updatedAt =>
    match t.get? id with
    | none => .ok (.changed 0, t)
    | some _ =>
      if numberTaken t number id then .error (notUnique "orders.order_number")
      else .ok (.changed 1, t.update id fun r =>
        { r with number, status, total := total.text, updatedAt := .time updatedAt })
  | .deleteOrder id => .ok (.changed (t.count (·.id == id)), t.erase (·.id == id))
  | .selectOrder id _ => .ok (.ofRows ((t.get? id).toList.map OrderRow.cells), t)
  | .countOrders status => .ok (.number (withStatus status t.rows).length, t)
  | .listOrders status limit offset =>
    .ok (.ofRows ((window limit offset (withStatus status t.rows)).map OrderRow.cells), t)
  | .countOrder id => .ok (.number (t.count (·.id == id)), t)
  | _ => .ok ({}, t)

/-- the statements on the lines of orders -/
def onItems (t : Table ItemRow) : Statement → Except Failure (Reply × Table ItemRow)
  | .insertItem orderId lineNo l =>
    inserted t none fun id =>
      ⟨id, .int orderId, .int lineNo, .int l.productId, l.productName, .int l.quantity,
        l.unitPrice.text⟩
  | .deleteItems orderId =>
    .ok (.changed (t.count (·.orderId == .int orderId)), t.erase (·.orderId == .int orderId))
  | .selectItems ids =>
    if valueLimit < ids.length then .error (.plain "SQL logic error: too many SQL variables (1)")
    else
      let rows := t.rows.filter fun r => ids.any fun id => r.orderId == .int id
      .ok (.ofRows ((rows.mergeSort ItemRow.before).map ItemRow.cells), t)
  | _ => .ok ({}, t)

def onCategories (t : Table CategoryRow) : Statement → Except Failure (Reply × Table CategoryRow)
  | .insertCategory name createdAt updatedAt =>
    inserted t (if nameTaken t name t.nextId then some (notUnique "categories.name") else none)
      fun id => ⟨id, name, .time createdAt, .time updatedAt⟩
  | .updateCategory id name updatedAt =>
    match t.get? id with
    | none => .ok (.changed 0, t)
    | some _ =>
      if nameTaken t name id then .error (notUnique "categories.name")
      else .ok (.changed 1, t.update id fun r => { r with name, updatedAt := .time updatedAt })
  | .deleteCategory id => .ok (.changed (t.count (·.id == id)), t.erase (·.id == id))
  | .selectCategory id => .ok (.ofRows ((t.get? id).toList.map CategoryRow.cells), t)
  | .countCategories name besides =>
    .ok (.number (t.count fun r => folded r.name == folded name && r.id != besides), t)
  | .listCategories =>
    .ok (.ofRows ((t.rows.mergeSort CategoryRow.before).map CategoryRow.cells), t)
  | _ => .ok ({}, t)

def onVersions (vs : List Int) : Statement → Reply × List Int
  | .readVersion => (.number (vs.foldl max 0), vs)
  | .recordVersion v => (.changed 1, vs ++ [v])
  | _ => ({}, vs)

/-- makes a table that is not there yet -/
def create (ts : Tables) : SchemaObject → Tables
  | .products => { ts with products := some (ts.products.getD {}) }
  | .orders => { ts with orders := some (ts.orders.getD {}) }
  | .items => { ts with items := some (ts.items.getD {}) }
  | .categories => { ts with categories := some (ts.categories.getD {}) }
  | .ordersByStatus | .itemsByOrder | .categoriesByName => ts

/-- the answer to a statement, with the tables after it -/
def answer (ts : Tables) (s : Statement) : Except Failure (Reply × Tables) :=
  match s with
  | .insertProduct .. | .updateProduct .. | .deleteProduct _ | .selectProduct ..
  | .countProducts _ | .listProducts .. => do
    let (r, t) ← onProducts (← table "products" ts.products) s
    return (r, { ts with products := some t })
  | .insertOrder .. | .updateOrder .. | .deleteOrder _ | .selectOrder .. | .countOrders _
  | .listOrders .. | .countOrder _ => do
    let (r, t) ← onOrders (← table "orders" ts.orders) s
    return (r, { ts with orders := some t })
  | .insertItem .. | .deleteItems _ | .selectItems _ => do
    let (r, t) ← onItems (← table "order_items" ts.items) s
    return (r, { ts with items := some t })
  | .insertCategory .. | .updateCategory .. | .deleteCategory _ | .selectCategory _
  | .countCategories .. | .listCategories => do
    let (r, t) ← onCategories (← table "categories" ts.categories) s
    return (r, { ts with categories := some t })
  | .createVersions => .ok ({}, { ts with versions := some (ts.versions.getD []) })
  | .schema object => .ok ({}, ts.create object)
  | .readVersion | .recordVersion _ =>
    match ts.versions with
    | none => .error (noTable "schema_version")
    | some vs =>
      let (r, vs) := onVersions vs s
      .ok (r, { ts with versions := some vs })

end Tables

/-- What an open transaction goes back to when it is undone: the tables it began with, or nothing
once the engine gave it up. -/
inductive Savepoint where
  | start (ts : Tables)
  | lost
  deriving DecidableEq, Repr

/-- The tables, the open transaction if there is one, and whether the database was closed. -/
structure Database where
  tables : Tables := {}
  saved : Option Savepoint := none
  closed : Bool := false
  deriving DecidableEq, Repr, Inhabited

namespace Database

/-- a database that was closed answers nothing -/
def isClosed : Failure := .plain "sql: database is closed"

/-- a transaction that the engine gave up can be neither committed nor undone -/
def notActive (what : String) : Failure :=
  .plain ("SQL logic error: cannot " ++ what ++ " - no transaction is active (1)")

/-- The database after a statement that failed. When the ids are exhausted, an open transaction is
undone on the spot, and each later statement stands by itself. -/
def refuse (db : Database) (f : Failure) : Database :=
  match db.saved with
  | some (.start ts) =>
    if f = idsExhausted then { db with tables := ts, saved := some .lost } else db
  | _ => db

/-- the answer to a statement, with the database after it -/
def answer (db : Database) (s : Statement) : Except Failure Reply × Database :=
  if db.closed then (.error isClosed, db)
  else match db.tables.answer s with
    | .ok (r, ts) => (.ok r, { db with tables := ts })
    | .error f => (.error f, db.refuse f)

def begin (db : Database) : Except Failure Database :=
  if db.closed then .error isClosed else .ok { db with saved := some (.start db.tables) }

/-- keeps what the open transaction did -/
def commit (db : Database) : Except Failure Unit × Database :=
  (if db.saved = some .lost then .error (notActive "commit") else .ok (), { db with saved := none })

/-- undoes what the open transaction did -/
def rollback (db : Database) : Except Failure Unit × Database :=
  match db.saved with
  | some (.start ts) => (.ok (), { db with tables := ts, saved := none })
  | some .lost => (.error (notActive "rollback"), { db with saved := none })
  | none => (.ok (), db)

end Database

end OrderDesk.Store
