import OrderDesk.Store.Affinity
import OrderDesk.Store.Database

/-!
# Changes by hand

What an operator can do to the tables of the embedded engine without going through the service.

* `Tables.drop`         drops a table, with its memory of ids;
* `Tables.setCell`      puts a value into one column of one row;
* `Database.drop`, `Database.setCell`      the same, unless the database was closed.
-/

namespace OrderDesk.Store

/-- a value that may not be absent -/
def notNull (column : String) : Failure :=
  refused ("NOT NULL constraint failed: " ++ column) 1299

/-- a column that does not exist -/
def noColumn (column : String) : Failure :=
  .plain ("SQL logic error: no such column: " ++ column ++ " (1)")

/-- a value of a kind that no cell holds -/
def unsupported (kind : String) : Failure :=
  .plain ("sql: converting argument $1 type: unsupported type " ++ kind)

def textFor (column : String) (c : Cell) : Except Failure String :=
  match c.text? with
  | some s => .ok s
  | none => .error (notNull column)

/-- a value for a column of numbers or times -/
def numberFor (column : String) (c : Cell) : Except Failure Cell :=
  match numeric c with
  | .null => .error (notNull column)
  | v => .ok v

def ProductRow.put (r : ProductRow) (column : String) (c : Cell) : Except Failure ProductRow :=
  let full := "products." ++ column
  match column with
  | "name" => (textFor full c).map fun v => { r with name := v }
  | "price" => (textFor full c).map fun v => { r with price := v }
  | "stock" => do
    let v ← numberFor full c
    if v.isNegative then .error stockRefused else .ok { r with stock := v }
  | "created_at" => (numberFor full c).map fun v => { r with createdAt := v }
  | "updated_at" => (numberFor full c).map fun v => { r with updatedAt := v }
  | _ => .error (noColumn column)

def OrderRow.put (r : OrderRow) (column : String) (c : Cell) : Except Failure OrderRow :=
  let full := "orders." ++ column
  match column with
  | "order_number" => .ok { r with number := c.text? }
  | "status" => (textFor full c).map fun v => { r with status := v }
  | "total_amount" => (textFor full c).map fun v => { r with total := v }
  | "created_at" => (numberFor full c).map fun v => { r with createdAt := v }
  | "updated_at" => (numberFor full c).map fun v => { r with updatedAt := v }
  | _ => .error (noColumn column)

def ItemRow.put (r : ItemRow) (column : String) (c : Cell) : Except Failure ItemRow :=
  let full := "order_items." ++ column
  match column with
  | "order_id" => (numberFor full c).map fun v => { r with orderId := v }
  | "line_no" => (numberFor full c).map fun v => { r with lineNo := v }
  | "product_id" => (numberFor full c).map fun v => { r with productId := v }
  | "product_name" => (textFor full c).map fun v => { r with productName := v }
  | "quantity" => (numberFor full c).map fun v => { r with quantity := v }
  | "unit_price" => (textFor full c).map fun v => { r with unitPrice := v }
  | _ => .error (noColumn column)

def CategoryRow.put (r : CategoryRow) (column : String) (c : Cell) : Except Failure CategoryRow :=
  let full := "categories." ++ column
  match column with
  | "name" => (textFor full c).map fun v => { r with name := v }
  | "created_at" => (numberFor full c).map fun v => { r with createdAt := v }
  | "updated_at" => (numberFor full c).map fun v => { r with updatedAt := v }
  | _ => .error (noColumn column)

/-- a table with the row of an id changed, if it is there -/
def Table.tryUpdate {ρ : Type} [HasId ρ] (t : Table ρ) (id : Int) (f : ρ → Except Failure ρ) :
    Except Failure (Table ρ) :=
  match t.get? id with
  | none => .ok t
  | some r => (f r).map fun r => t.update id fun _ => r

/-- an id that is in use already -/
def idTaken (name : String) : Failure :=
  refused ("UNIQUE constraint failed: " ++ name ++ ".id") 1555

/-- a value that is no id -/
def noId : Failure := .plain "datatype mismatch (20)"

def wholeId? (c : Cell) : Option Int :=
  match numeric c with
  | .int n => some n
  | _ => none

/-- a table with another id for the row of an id, if it is there; the rows stay in order -/
def Table.renumber {ρ : Type} [HasId ρ] (t : Table ρ) (name : String) (id : Int) (c : Cell)
    (put : ρ → Int → ρ) : Except Failure (Table ρ) :=
  match t.get? id, wholeId? c with
  | none, _ => .ok t
  | some _, none => .error noId
  | some r, some n =>
    if n ≠ id ∧ (t.get? n).isSome then .error (idTaken name)
    else
      let rows := (put r n :: (t.erase (HasId.id · == id)).rows).mergeSort
        fun a b => HasId.id a ≤ HasId.id b
      .ok { t with rows }

/-- a table that the engine keeps for itself -/
def keptByEngine (name wish : String) : Failure :=
  .plain ("SQL logic error: table " ++ name ++ " may not be " ++ wish ++ " (1)")

namespace Tables

/-- A table's name as the schema has it: letter case does not count. -/
def properName (name : String) : String :=
  let small := Text.asciiLower name
  if small = "sqlite_schema" then "sqlite_master" else small

/-- drops a table, with its memory of ids -/
def drop (ts : Tables) (name : String) : Except Failure Tables :=
  let here {ρ : Type} (t : Option (Table ρ)) (rest : Tables) : Except Failure Tables :=
    (table name t).map fun _ => rest
  match properName name with
  | "products" => here ts.products { ts with products := none }
  | "orders" => here ts.orders { ts with orders := none }
  | "order_items" => here ts.items { ts with items := none }
  | "categories" => here ts.categories { ts with categories := none }
  | "schema_version" =>
    if ts.versions.isSome then .ok { ts with versions := none } else .error (noTable name)
  | "sqlite_master" => .error (keptByEngine "sqlite_master" "dropped")
  | "sqlite_sequence" => .error (keptByEngine "sqlite_sequence" "dropped")
  | _ => .error (noTable name)

/-- A column's name as the schema has it: letter case does not count, and the id has further
names. -/
def properColumn (column : String) : String :=
  let small := Text.asciiLower column
  if ["rowid", "oid", "_rowid_"].contains small then "id" else small

def setId (ts : Tables) (name : String) (id : Int) (c : Cell) : Except Failure Tables :=
  let proper := properName name
  match proper with
  | "products" => do
    let t ← (← table name ts.products).renumber proper id c fun r n => { r with id := n }
    return { ts with products := some t }
  | "orders" => do
    let t ← (← table name ts.orders).renumber proper id c fun r n => { r with id := n }
    return { ts with orders := some t }
  | "order_items" => do
    let t ← (← table name ts.items).renumber proper id c fun r n => { r with id := n }
    return { ts with items := some t }
  | "categories" => do
    let t ← (← table name ts.categories).renumber proper id c fun r n => { r with id := n }
    return { ts with categories := some t }
  | _ => .error (noTable name)

/-- puts a value into one column of one row -/
def putCell (ts : Tables) (name column : String) (id : Int) (c : Cell) : Except Failure Tables :=
  match properName name with
  | "products" => do
    let t ← (← table name ts.products).tryUpdate id (·.put column c)
    return { ts with products := some t }
  | "orders" => do
    let t ← table name ts.orders
    if column = "order_number" ∧ (t.get? id).isSome ∧ numberTaken t c.text? id then
      .error (notUnique "orders.order_number")
    else return { ts with orders := some (← t.tryUpdate id (·.put column c)) }
  | "order_items" => do
    let t ← (← table name ts.items).tryUpdate id (·.put column c)
    return { ts with items := some t }
  | "categories" => do
    let t ← table name ts.categories
    if column = "name" ∧ (t.get? id).isSome ∧ nameTaken t (c.text?.getD "") id then
      .error (notUnique "categories.name")
    else return { ts with categories := some (← t.tryUpdate id (·.put column c)) }
  | _ => .error (noTable name)

/-- the columns of a table that an operator can name, none for a table that is not there -/
def columns? (ts : Tables) (name : String) : Option (List String) :=
  let times := ["created_at", "updated_at"]
  match properName name with
  | "products" => ts.products.map fun _ => ["id", "name", "price", "stock"] ++ times
  | "orders" => ts.orders.map fun _ => ["id", "order_number", "status", "total_amount"] ++ times
  | "order_items" => ts.items.map fun _ =>
    ["id", "order_id", "line_no", "product_id", "product_name", "quantity", "unit_price"]
  | "categories" => ts.categories.map fun _ => ["id", "name"] ++ times
  | "schema_version" => ts.versions.map fun _ => ["version", "applied_at"]
  | "sqlite_sequence" => some ["name", "seq"]
  | _ => none

/-- Puts a value into one column of the row of an id, the column of ids included. The table and
the column have to be there, and the table has to have ids. -/
def setCell (ts : Tables) (name column : String) (id : Int) (c : Cell) : Except Failure Tables :=
  let proper := properColumn column
  if properName name = "sqlite_master" then .error (keptByEngine "sqlite_master" "modified")
  else match ts.columns? name with
    | none => .error (noTable name)
    | some cs =>
      let isRowName := proper = "id" ∧ Text.asciiLower column ≠ "id"
      if !cs.contains proper ∧ ¬ isRowName then .error (noColumn column)
      else if !cs.contains "id" then .error (noColumn "id")
      else if proper = "id" then ts.setId name id c
      else ts.putCell name proper id c

end Tables

namespace Database

/-- drops a table of an open database -/
def drop (db : Database) (name : String) : Except Failure Database :=
  if db.closed then .error isClosed
  else (db.tables.drop name).map fun ts => { db with tables := ts }

/-- puts a value into one column of one row of an open database -/
def setCell (db : Database) (name column : String) (id : Int) (c : Cell) :
    Except Failure Database :=
  if db.closed then .error isClosed
  else (db.tables.setCell name column id c).map fun ts => { db with tables := ts }

end Database

end OrderDesk.Store
