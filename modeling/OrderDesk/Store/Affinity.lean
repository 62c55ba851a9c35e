import OrderDesk.Store.Cell

/-!
# What a column makes of a text

A column of numbers or of times keeps a text that spells a number as that number: a whole one if it
has no fraction and fits 64 bits, a binary one otherwise. Blanks may stand around it. Any other text
stays what it is.

* `Spelling`           the parts of a number's text;
* `Spelling.read?`     reads them;
* `numeric`            a cell as a column of numbers keeps it.
-/

namespace OrderDesk.Store

/-- The parts of a number's text: its significant digits as one number, the power of ten they are
to be multiplied by, and whether there was neither a point nor an exponent. -/
structure Spelling where
  neg : Bool
  digits : Nat
  power : Int
  plain : Bool
  deriving DecidableEq, Repr

namespace Spelling

def isSpace (c : Char) : Bool := c == ' ' || (9 ≤ c.toNat && c.toNat ≤ 13)

/-- a text without the blanks around it -/
def trim (cs : List Char) : List Char :=
  ((cs.dropWhile isSpace).reverse.dropWhile isSpace).reverse

/-- from this number on no further digit is taken in -/
def fullFrom : Nat := 1844674407370955160

/-- takes in digits before the point; those that find no room raise the power -/
def takeWhole (s : Nat × Int) (c : Char) : Nat × Int :=
  if s.1 < fullFrom then (Word.pushDigit s.1 c, s.2) else (s.1, s.2 + 1)

/-- takes in digits after the point; those that find no room do not count -/
def takeFraction (s : Nat × Int) (c : Char) : Nat × Int :=
  if s.1 < fullFrom then (Word.pushDigit s.1 c, s.2 - 1) else s

/-- an exponent after its letter, at most ten thousand and some -/
def exponent? (cs : List Char) : Option Int :=
  let (neg, ds) := Word.splitSign cs
  if ds.isEmpty || !ds.all Char.isDigit then none
  else
    let n := ds.foldl (fun n c => if n < 10000 then Word.pushDigit n c else 10000) 0
    some (if neg then -(n : Int) else n)

/-- what follows the digits before the point: the fraction with its point, and the rest -/
def splitFraction : List Char → Option (List Char) × List Char
  | '.' :: rest => (some (rest.takeWhile Char.isDigit), rest.dropWhile Char.isDigit)
  | rest => (none, rest)

/-- reads a number: a sign, digits with at most one point among them, an exponent -/
def read? (cs : List Char) : Option Spelling :=
  let (neg, cs) := Word.splitSign cs
  let whole := cs.takeWhile Char.isDigit
  let (fraction, rest) := splitFraction (cs.dropWhile Char.isDigit)
  let (n, power) := (fraction.getD []).foldl takeFraction (whole.foldl takeWhole (0, 0))
  if whole.isEmpty && (fraction.getD []).isEmpty then none
  else match rest with
    | [] => some ⟨neg, n, power, fraction.isNone⟩
    | e :: ds =>
      if e == 'e' || e == 'E' then (exponent? ds).map fun k => ⟨neg, n, power + k, false⟩ else none

/-- the nearest binary number -/
def real (s : Spelling) : Real64 :=
  match Binary64.ofDecimal? s.neg s.digits s.power with
  | some x => .finite x
  | none => .infinite s.neg

end Spelling

/-- a binary number that is whole and lies within 64 bits, both ends excluded, is a whole number -/
def settled (x : Real64) : Cell :=
  match x with
  | .finite b =>
    let n := b.truncate
    if b.ratio.1 % b.ratio.2 = 0 ∧ -Int.pow 2 63 < n ∧ n < Int.pow 2 63 - 1 then .int n
    else .real x
  | _ => .real x

/-- a cell as a column of numbers keeps it -/
def numeric : Cell → Cell
  | .text t =>
    let cs := Spelling.trim t.toList
    match Spelling.read? cs with
    | none => .text t
    | some s =>
      match if s.plain then Word.parseInt? (String.ofList cs) else none with
      | some n => .int n
      | none => settled s.real
  | c => c

end OrderDesk.Store
