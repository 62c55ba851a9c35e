import OrderDesk.Text.Case
import OrderDesk.Number.Literal

/-!
# Wishes to the embedded engine

A wish is a name, which may say the database before a dot, and a value after an equals sign or in
brackets. The engine passes over a name that it does not know.

* `Lexeme`, `lexemes?`     the words, numbers and marks of a text;
* `Pragma`, `Pragma.parse?`  a wish;
* `isOn`                   does a value switch something on;
* `Pragma.granted?`        what becomes of a wish: whether writing is forbidden after it.
-/

namespace OrderDesk.Store

/-- The words, numbers and marks of a text. A name and a text are given without their quotes. -/
inductive Lexeme where
  | word (s : String)
  | name (s : String)
  | text (s : String)
  | number (s : String)
  | mark (c : Char)
  deriving DecidableEq, Repr

def isWordChar (c : Char) : Bool := c.isAlphanum || c == '_' || c == '$' || 0x80 ≤ c.toNat

def startsWord (c : Char) : Bool := c.isAlpha || c == '_' || 0x80 ≤ c.toNat

/-- the text up to the closing mark and the rest; the mark written twice stands for itself -/
def takeEnclosed? (close : Char) : List Char → Option (List Char × List Char)
  | [] => none
  | c :: d :: rest =>
    if c ≠ close then (takeEnclosed? close (d :: rest)).map fun (t, r) => (c :: t, r)
    else if d = close ∧ close ≠ ']' then
      (takeEnclosed? close rest).map fun (t, r) => (c :: t, r)
    else some ([], d :: rest)
  | [c] => if c = close then some ([], []) else none

/-- what follows a remark: up to the end of the line, or up to a star and a slash -/
def afterRemark (line : Bool) : List Char → List Char
  | [] => []
  | '\n' :: rest => if line then rest else afterRemark line rest
  | '*' :: '/' :: rest => if line then afterRemark line rest else rest
  | _ :: rest => afterRemark line rest

/-- an exponent with its letter, if there is one, and the rest -/
def takeExponent (cs : List Char) : List Char × List Char :=
  match cs with
  | e :: rest =>
    let sign := rest.takeWhile fun c => c == '+' || c == '-'
    let digits := (rest.drop sign.length).takeWhile Char.isDigit
    if (e == 'e' || e == 'E') && sign.length ≤ 1 && !digits.isEmpty then
      (e :: sign ++ digits, rest.drop (sign.length + digits.length))
    else ([], cs)
  | [] => ([], [])

/-- A number and the rest: digits with a point among them and an exponent, or `0x` with digits of
base sixteen. -/
def takeNumber (cs : List Char) : List Char × List Char :=
  let hexDigits := (cs.drop 2).takeWhile (Literal.isDigitIn 16)
  if cs.head? = some '0' ∧ ((cs.drop 1).head?.any fun c => c == 'x' || c == 'X') ∧
      !hexDigits.isEmpty then
    (cs.take 2 ++ hexDigits, cs.drop (2 + hexDigits.length))
  else
    let whole := cs.takeWhile Char.isDigit
    let rest := cs.drop whole.length
    let fraction := match rest with
      | '.' :: more => '.' :: more.takeWhile Char.isDigit
      | _ => []
    let (exponent, rest) := takeExponent (rest.drop fraction.length)
    (whole ++ fraction ++ exponent, rest)

/-- one lexeme and the rest; nothing but the rest for a blank or a remark -/
def takeLexeme? : List Char → Option (Option Lexeme × List Char)
  | [] => none
  | '-' :: '-' :: rest => some (none, afterRemark true rest)
  | '/' :: '*' :: c :: rest => some (none, afterRemark false (c :: rest))
  | c :: rest =>
    let whole := c :: rest
    if c == ' ' || (9 ≤ c.toNat && c.toNat ≤ 13 && c.toNat != 11) then some (none, rest)
    else if c.toNat == 39 then
      (takeEnclosed? c rest).map fun (t, r) => (some (.text (String.ofList t)), r)
    else if c == '"' || c.toNat == 96 then
      (takeEnclosed? c rest).map fun (t, r) => (some (.name (String.ofList t)), r)
    else if c == '[' then
      (takeEnclosed? ']' rest).map fun (t, r) => (some (.name (String.ofList t)), r)
    else if c.isDigit || (c == '.' && rest.head?.any Char.isDigit) then
      let (n, r) := takeNumber whole
      if r.head?.any isWordChar then none else some (some (.number (String.ofList n)), r)
    else if (c == 'x' || c == 'X') && rest.head?.any (·.toNat == 39) then none
    else if startsWord c then
      some (some (.word (String.ofList (whole.takeWhile isWordChar))), whole.dropWhile isWordChar)
    else if ['(', ')', '=', '.', '+', '-', ';'].contains c then some (some (.mark c), rest)
    else none

/-- the lexemes of a text, `none` if something in it is no lexeme -/
def lexemes? (cs : List Char) : Option (List Lexeme) :=
  if cs.isEmpty then some []
  else match takeLexeme? cs with
    | none => none
    | some (l, rest) =>
      if rest.length < cs.length then (lexemes? rest).map (l.toList ++ ·) else none
  termination_by cs.length

/-- the words that are no names unless they are quoted -/
def reservedWords : List String :=
  ["add", "all", "alter", "and", "as", "autoincrement", "between", "case", "check", "collate",
   "commit", "constraint", "create", "default", "deferrable", "delete", "distinct", "drop",
   "else", "escape", "except", "exists", "foreign", "from", "group", "having", "in", "index",
   "insert", "intersect", "into", "is", "isnull", "join", "limit", "not", "nothing", "notnull",
   "null", "on", "or", "order", "primary", "references", "returning", "select", "set", "table",
   "then", "to", "transaction", "union", "unique", "update", "using", "values", "when", "where"]

def Lexeme.name? : Lexeme → Option String
  | .word s => if reservedWords.contains (Text.asciiLower s) then none else some s
  | .name s | .text s => some s
  | _ => none

/-- the value that a lexeme is: a name, or one of three reserved words -/
def Lexeme.value? (l : Lexeme) : Option String :=
  match l with
  | .word s =>
    if ["on", "delete", "default"].contains (Text.asciiLower s) then some s else l.name?
  | _ => l.name?

/-- a number of at most 31 bits at the start of a text -/
def leadingNumber? (cs : List Char) : Option Nat :=
  match cs with
  | '0' :: x :: d :: rest =>
    if (x == 'x' || x == 'X') && Literal.isDigitIn 16 d then
      within ((Literal.digitsIn? 16 ((d :: rest).takeWhile (Literal.isDigitIn 16))).getD 0)
    else decimal cs
  | _ => decimal cs
where
  /-- a number that fits -/
  within (n : Nat) : Option Nat := if n < Nat.pow 2 31 then some n else none
  /-- the digits of base ten at the start -/
  decimal (cs : List Char) : Option Nat :=
    (Word.ofDigits? (cs.takeWhile Char.isDigit)).bind within

/-- A wish to the engine. `number` is that of a value which is spelled as one, without its sign. -/
structure Pragma where
  database : Option String
  name : String
  value : Option String := none
  number : Option Nat := none
  deriving DecidableEq, Repr

namespace Pragma

/-- the value of a wish and its number; a sign may stand before a number -/
def value? : List Lexeme → Option (String × Option Nat)
  | [.mark '+', .number s] | [.number s] => some (s, leadingNumber? s.toList)
  | [.mark '-', .number s] => some ("-" ++ s, leadingNumber? s.toList)
  | [l] => l.value?.map (·, none)
  | _ => none

/-- a wish from its lexemes; the semicolons at its end do not count -/
def ofLexemes? (ls : List Lexeme) : Option Pragma :=
  let body := (ls.reverse.dropWhile (· == .mark ';')).reverse
  let (database, rest) := match body with
    | d :: .mark '.' :: rest => (some d, rest)
    | _ => (none, body)
  match rest with
  | [] => none
  | first :: tail => do
    let name ← first.name?
    let database ← match database with
      | none => some none
      | some d => d.name?.map some
    match tail with
    | [] => some { database, name }
    | .mark '=' :: vs => (value? vs).map fun (v, number) => ⟨database, name, some v, number⟩
    | .mark '(' :: vs =>
      if vs.getLast? = some (.mark ')') then
        (value? vs.dropLast).map fun (v, number) => ⟨database, name, some v, number⟩
      else none
    | _ => none

def parse? (s : String) : Option Pragma := (lexemes? s.toList).bind ofLexemes?

end Pragma

/-- Does a value switch something on: a number whose last eight bits are not all zero, or one of
three words. -/
def isOn (value : String) : Bool :=
  if value.toList.head?.any Char.isDigit then (leadingNumber? value.toList).getD 0 % 256 ≠ 0
  else ["on", "yes", "true"].contains (Text.asciiLower value)

def encodings : List String :=
  ["utf8", "utf-8", "utf-16le", "utf-16be", "utf16le", "utf16be", "utf-16", "utf16"]

/-- the tables of a database that is new -/
def firstTables : List String := ["sqlite_master", "sqlite_schema"]

/-- The state after a wish, where `forbidden` says that writing is forbidden; `none` if the engine
refuses the wish. -/
def Pragma.granted? (forbidden : Bool) (p : Pragma) : Option Bool :=
  let name := Text.asciiLower p.name
  let known := p.database.all fun d => ["main", "temp"].contains (Text.asciiLower d)
  let small := Text.asciiLower (p.value.getD "")
  let table := firstTables.contains small
  if !known then none
  else match p.value with
    | none => some forbidden
    | some v =>
      if name = "query_only" then some (isOn v)
      else if name = "encoding" ∧ !encodings.contains small then none
      else if ["integrity_check", "quick_check"].contains name ∧ p.number.isNone ∧ !table then none
      else if name = "foreign_key_check" ∧ !table then none
      else some forbidden

end OrderDesk.Store
