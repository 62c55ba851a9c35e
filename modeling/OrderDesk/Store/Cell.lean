import OrderDesk.Failure
import OrderDesk.Number.Literal
import OrderDesk.Time.Stamp

/-!
# Cells and rows

What an engine answers is rows of cells. Reading a cell as a number, a text, an amount or a time
has one rule each; whatever does not fit is a scan failure.

* `Cell.int?`, `Cell.text?`, `Cell.amount?`, `Cell.time?`     the four readings;
* `scanRow`                                                    a row of an expected width;
* `Cell.before`                                                the order of an engine's sort.
-/

namespace OrderDesk.Store

/-- One value of a row. -/
inductive Cell where
  | null
  | int (n : Int)
  | real (x : Real64)
  | text (s : String)
  | time (t : Stamp)
  deriving DecidableEq, Repr, Inhabited

/-- A row of an answer. -/
abbrev Row := List Cell

namespace Cell

/-- a whole number, or a text that spells one -/
def int? : Cell → Option Int
  | .int n => some n
  | .text s => Word.parseInt? s
  | _ => none

/-- any cell but an empty one has a text -/
def text? : Cell → Option String
  | .null => none
  | .int n => some (toString n)
  | .real (.finite x) => some x.text
  | .real _ => none
  | .text s => some s
  | .time t => some t.text

/-- a text without the quotes around it -/
def unquote (s : String) : String :=
  match s.toList with
  | '"' :: cs => if 1 < cs.length ∧ cs.getLast? = some '"' then String.ofList cs.dropLast else s
  | _ => s

/-- a whole number, or a text that spells an amount -/
def amount? : Cell → Option Decimal
  | .int n => some (.ofInt n)
  | .text s => (Decimal.parse (unquote s)).toOption
  | _ => none

/-- only a time reads as a time -/
def time? : Cell → Option Stamp
  | .time t => some t
  | _ => none

/-- The quotient that a number is; an infinite one has the denominator zero. -/
def quotient? : Cell → Option (Int × Nat)
  | .int n => some (n, 1)
  | .real (.finite x) =>
    let (n, d) := x.ratio
    some (if x.neg then (-(n : Int), d) else (n, d))
  | .real (.infinite neg) => some (if neg then -1 else 1, 0)
  | _ => none

def numberAtMost (a b : Cell) : Bool :=
  match a.quotient?, b.quotient? with
  | some (n, d), some (m, e) => n * e ≤ m * d
  | _, _ => false

def isNegative (c : Cell) : Bool := c.quotient?.any fun (n, _) => n < 0

/-- where a kind of cell stands in a sort -/
def rank : Cell → Nat
  | .null => 0
  | .int _ | .real _ => 1
  | .text _ => 2
  | .time _ => 3

/-- An empty cell comes first, then numbers, then texts. -/
def before : Cell → Cell → Bool
  | .text a, .text b => !(b < a)
  | a, b => if a.rank = 1 ∧ b.rank = 1 then a.numberAtMost b else a.rank ≤ b.rank

end Cell

/-- a cell that does not fit where it is read -/
def scanFailure : Failure := .plain "sql: Scan error"

/-- a row of another width than is read -/
def widthFailure (found wanted : Nat) : Failure :=
  .plain ("sql: expected " ++ toString found ++ " destination arguments in Scan, not " ++
    toString wanted)

def scanRow {α : Type} (width : Nat) (read : Row → Option α) (row : Row) : Except Failure α :=
  if row.length = width then
    match read row with
    | some a => .ok a
    | none => .error scanFailure
  else .error (widthFailure row.length width)

def scanInt : Row → Except Failure Int :=
  scanRow 1 fun
    | [c] => c.int?
    | _ => none

end OrderDesk.Store
