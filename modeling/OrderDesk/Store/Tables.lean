import OrderDesk.Store.Cell

/-!
# The tables of the embedded engine

Columns of texts hold texts. Columns of numbers and times hold cells, since such a column keeps
whatever is put into it by hand. A table that was dropped is absent.

* `Table`              rows by ascending id, with the greatest id ever given out;
* `Table.nextId`       a fresh id, greater than every id in the table and every id given out;
* `Table.insert`, `Table.update`, `Table.erase`, `Table.get?`;
* `Tables`             the whole database.
-/

namespace OrderDesk.Store

/-- A stored product. -/
structure ProductRow where
  id : Int
  name : String
  price : String
  stock : Cell
  createdAt : Cell
  updatedAt : Cell
  deriving DecidableEq, Repr, Inhabited

/-- A stored order, without its lines. -/
structure OrderRow where
  id : Int
  number : Option String
  status : String
  total : String
  createdAt : Cell
  updatedAt : Cell
  deriving DecidableEq, Repr, Inhabited

/-- A stored line of an order. -/
structure ItemRow where
  id : Int
  orderId : Cell
  lineNo : Cell
  productId : Cell
  productName : String
  quantity : Cell
  unitPrice : String
  deriving DecidableEq, Repr, Inhabited

/-- A stored category. -/
structure CategoryRow where
  id : Int
  name : String
  createdAt : Cell
  updatedAt : Cell
  deriving DecidableEq, Repr, Inhabited

/-- Rows that have an id. -/
class HasId (ρ : Type) where
  id : ρ → Int

instance : HasId ProductRow := ⟨ProductRow.id⟩
instance : HasId OrderRow := ⟨OrderRow.id⟩
instance : HasId ItemRow := ⟨ItemRow.id⟩
instance : HasId CategoryRow := ⟨CategoryRow.id⟩

/-- Rows by ascending id, and the greatest id ever given out. -/
structure Table (ρ : Type) where
  rows : List ρ := []
  lastId : Int := 0
  deriving DecidableEq, Repr, Inhabited

namespace Table

variable {ρ : Type} [HasId ρ]

/-- an id greater than every id in the table and every id given out -/
def nextId (t : Table ρ) : Int := t.rows.foldl (fun m r => max m (HasId.id r)) t.lastId + 1

def get? (t : Table ρ) (id : Int) : Option ρ := t.rows.find? (HasId.id · == id)

/-- appends a row made with the next id -/
def insert (t : Table ρ) (make : Int → ρ) : Table ρ :=
  ⟨t.rows ++ [make t.nextId], t.nextId⟩

def update (t : Table ρ) (id : Int) (f : ρ → ρ) : Table ρ :=
  { t with rows := t.rows.map fun r => if HasId.id r == id then f r else r }

/-- removes every row of which `p` holds -/
def erase (t : Table ρ) (p : ρ → Bool) : Table ρ := { t with rows := t.rows.filter (!p ·) }

def count (t : Table ρ) (p : ρ → Bool) : Int := t.rows.countP p

end Table

/-- The whole database: its tables, each absent once it was dropped, and the versions of the
schema on record. -/
structure Tables where
  products : Option (Table ProductRow) := none
  orders : Option (Table OrderRow) := none
  items : Option (Table ItemRow) := none
  categories : Option (Table CategoryRow) := none
  versions : Option (List Int) := none
  deriving DecidableEq, Repr, Inhabited

end OrderDesk.Store
