import OrderDesk.Json.Doc
import OrderDesk.Number.Decimal
import OrderDesk.Text.Case
import OrderDesk.Time.Stamp

/-!
# Records read from documents

A record is read over a start value: a member sets the field of its name, `null` leaves a field as
it is, members of other names are passed over and a member of the wrong kind spoils the whole.

* `object?`      folds the members of an object over a start value;
* `int?`, `text?`, `decimal?`, `stamp?`     fields of one kind;
* `Slots`        a list field together with the elements an earlier list of the same name left
                 behind, on which a later list is read.
-/

namespace OrderDesk.Json

/-- is this member name the field name `field`, letter case aside -/
def named (field : String) (key : List Char) : Bool :=
  let k := unescape key
  k == field || Text.foldKey k == Text.foldKey field

/-- reads an object over a start value, member by member -/
def object? {α : Type} (step : α → List Char → Doc → Option α) (start : α) : Doc → Option α
  | .null => some start
  | .obj ms => ms.foldlM (fun a (k, d) => step a k d) start
  | _ => none

/-- a whole number in decimal digits that fits 64 bits -/
def int? (old : Int) : Doc → Option Int
  | .null => some old
  | .num s => Word.parseInt? (String.ofList s)
  | _ => none

def text? (old : String) : Doc → Option String
  | .null => some old
  | .str s => some (unescape s)
  | _ => none

/-- A decimal, as a number or as a string; a string counts as spelled, escapes included. -/
def decimal? (old : Decimal) : Doc → Option Decimal
  | .null => some old
  | .num s => (Decimal.parse (String.ofList s)).toOption
  | .str s => (Decimal.parse (String.ofList s)).toOption
  | _ => none

/-- a point in time, as a string -/
def stamp? (old : Stamp) : Doc → Option Stamp
  | .null => some old
  | .str s => Stamp.parse? (unescape s).toList
  | _ => none

/-- A list field while a record is read: the list, absent at first, and elements past its end
that an earlier list left behind. -/
structure Slots (α : Type) where
  items : Option (List α) := none
  spare : List α := []

/-- the elements a new list is read over -/
def Slots.memory {α : Type} (s : Slots α) : List α := s.items.getD [] ++ s.spare

/-- reads the documents one by one, each over the element that stood in its place -/
def overItems? {α : Type} (elem? : α → Doc → Option α) (zero : α) :
    List α → List Doc → Option (List α)
  | _, [] => some []
  | [], d :: ds => do
    let a ← elem? zero d
    let as ← overItems? elem? zero [] ds
    some (a :: as)
  | m :: ms, d :: ds => do
    let a ← elem? m d
    let as ← overItems? elem? zero ms ds
    some (a :: as)

/-- reads a list field; an empty list and `null` forget what stood there -/
def Slots.read? {α : Type} (elem? : α → Doc → Option α) (zero : α) (s : Slots α) :
    Doc → Option (Slots α)
  | .null => some {}
  | .arr [] => some ⟨some [], []⟩
  | .arr ds => do
    let as ← overItems? elem? zero s.memory ds
    some ⟨some as, s.memory.drop as.length⟩
  | _ => none

end OrderDesk.Json
