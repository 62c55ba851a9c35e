import OrderDesk.Action
import OrderDesk.Text.Case

/-!
# Dialects of the three engines

* `Dialect`             what differs between the engines;
* `Dialect.lookup`      an engine by its name, in any casing;
* `Dialect.rebind`      numbers the placeholders of a statement where the engine wants numbers;
* `placeholders`        placeholders for a list of values;
* `placeholderList`     the same, for a number of values that may be too great for any text.
-/

namespace OrderDesk

/-- The engines. -/
inductive Engine where
  | mysql
  | postgres
  | sqlite
  deriving DecidableEq, Repr, Inhabited

/-- How an engine is spoken to: the suffix of reads that lock their row, whether a new id comes
back as a row, and whether placeholders are numbered. -/
structure Dialect where
  engine : Engine
  name : String
  driver : String
  forUpdate : String
  returning : Bool
  numbered : Bool
  deriving DecidableEq, Repr, Inhabited

namespace Dialect

/-- the way each engine is spoken to -/
def of : Engine → Dialect
  | .mysql => ⟨.mysql, "mysql", "mysql", " FOR UPDATE", false, false⟩
  | .postgres => ⟨.postgres, "postgres", "pgx", " FOR UPDATE", true, true⟩
  | .sqlite => ⟨.sqlite, "sqlite", "sqlite", "", false, false⟩

/-- the engine of a name, in any casing -/
def engine? (name : String) : Option Engine :=
  let n := Text.lower name
  if n = "mysql" then some .mysql
  else if n = "postgres" then some .postgres
  else if n = "sqlite" then some .sqlite
  else none

def lookup (name : String) : Except Failure Dialect :=
  match engine? name with
  | some e => .ok (.of e)
  | none => .error (.plain ("repo: unsupported database driver " ++ Text.quoted name))

/-- numbers the placeholders from `n + 1` on -/
def numberFrom : Nat → List Char → List Char
  | _, [] => []
  | n, c :: cs =>
    if c = '?' then '$' :: Nat.toDigits 10 (n + 1) ++ numberFrom (n + 1) cs
    else c :: numberFrom n cs

/-- a statement with its placeholders as the engine wants them -/
def rebind (d : Dialect) (sql : String) : String :=
  if d.numbered then String.ofList (numberFrom 0 sql.toList) else sql

end Dialect

/-- `n` placeholders with commas between them -/
def placeholders (n : Int) : String := ",".intercalate (List.replicate n.toNat "?")

/-- the greatest number of octets in a text -/
def textLimit : Int := Int.pow 2 63 - 1

/-- `n` placeholders, each with its comma, as long as they fit into a text -/
def placeholderList (n : Int) : Outcome String :=
  if textLimit < 2 * n then .panicked "strings: Repeat output length overflow"
  else .ok (placeholders n)

end OrderDesk
