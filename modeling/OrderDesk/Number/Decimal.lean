import OrderDesk.Number.Word

/-!
# Exact decimals

A decimal is a whole coefficient times a power of ten. Two decimals of the same value may differ
in exponent; every comparison and every text below depends on the value alone.

* `add`, `mul`, `ofInt`        exact arithmetic;
* `eqv`, `gt`                  comparison of values;
* `round`                      to a number of places, a half going away from zero;
* `text`                       the shortest plain text of the value;
* `fixed`                      the text with exactly two places;
* `parse`                      reads a text, or says why it cannot.
-/

namespace OrderDesk

/-- `coeff · 10 ^ exp`. -/
structure Decimal where
  coeff : Int
  exp : Int
  deriving DecidableEq, Repr, Inhabited

namespace Decimal

def zero : Decimal := ⟨0, 0⟩

def ofInt (n : Int) : Decimal := ⟨n, 0⟩

/-- the coefficient at the exponent `e ≤ d.exp`; that of zero is zero at every exponent -/
def coeffAt (d : Decimal) (e : Int) : Int :=
  if d.coeff = 0 then 0 else d.coeff * Int.pow 10 (d.exp - e).toNat

/-- exact sum, at the lower of the two exponents -/
def add (a b : Decimal) : Decimal :=
  let e := min a.exp b.exp
  ⟨a.coeffAt e + b.coeffAt e, e⟩

/-- exact product -/
def mul (a b : Decimal) : Decimal := ⟨a.coeff * b.coeff, a.exp + b.exp⟩

def sum (ds : List Decimal) : Decimal := ds.foldl add zero

/-- the difference of the coefficients at the lower exponent: it has the sign of the comparison -/
def difference (a b : Decimal) : Int :=
  let e := min a.exp b.exp
  a.coeffAt e - b.coeffAt e

def eqv (a b : Decimal) : Bool := a.difference b == 0

def gt (a b : Decimal) : Bool := 0 < a.difference b

def isNegative (a : Decimal) : Bool := a.coeff < 0

/-- the quotient rounded to the nearest whole number, a half going away from zero -/
def divHalfAway (n : Int) (d : Nat) : Int :=
  let q : Int := ((2 * n.natAbs + d) / (2 * d) : Nat)
  if n < 0 then -q else q

/-- rounds to `places` decimal places, a half going away from zero -/
def round (places : Nat) (a : Decimal) : Decimal :=
  if -(places : Int) ≤ a.exp then ⟨a.coeffAt (-places), -places⟩
  else ⟨divHalfAway a.coeff (Nat.pow 10 (-(places : Int) - a.exp).toNat), -places⟩

/-- the digits before and after the point of a coefficient with `places` decimal places -/
def splitDigits (places n : Nat) : List Char × List Char :=
  let ds := Nat.toDigits 10 n
  if places < ds.length then (ds.take (ds.length - places), ds.drop (ds.length - places))
  else (['0'], List.replicate (places - ds.length) '0' ++ ds)

/-- plain text of a coefficient with `places` decimals; `trimmed` drops the zeros at its end -/
def plain (trimmed : Bool) (places : Nat) (n : Int) : String :=
  let (whole, frac) := splitDigits places n.natAbs
  let frac := if trimmed then (frac.reverse.dropWhile (· == '0')).reverse else frac
  let body := if frac.isEmpty then whole else whole ++ '.' :: frac
  String.ofList (if n < 0 then '-' :: body else body)

/-- the value in plain notation, without zeros at the end of the fraction -/
def text (a : Decimal) : String :=
  if 0 ≤ a.exp then plain true 0 (a.coeffAt 0) else plain true (-a.exp).toNat a.coeff

/-- the value rounded to two places and written with both -/
def fixed (a : Decimal) : String := plain false 2 (round 2 a).coeff

/-- Why a text is no decimal; the text shown is what was left when the fault was met. -/
inductive ParseError where
  | notNumeric (shown : String)
  | exponentNotNumeric (shown : String)
  | fractionTooLong (shown : String)
  | manyPoints (shown : String)
  deriving DecidableEq, Repr

def ParseError.message : ParseError → String
  | .notNumeric s => "can't convert " ++ s ++ " to decimal"
  | .exponentNotNumeric s => "can't convert " ++ s ++ " to decimal: exponent is not numeric"
  | .fractionTooLong s => "can't convert " ++ s ++ " to decimal: fractional part too long"
  | .manyPoints s => "can't convert " ++ s ++ " to decimal: too many .s"

/-- what an exponent mark is followed by -/
inductive Exponent where
  | value (n : Int)
  | notNumeric
  | outOfRange
  deriving DecidableEq, Repr

/-- digits of an exponent, up to the first that is none or takes the value past 32 bits -/
def scanExponent (neg : Bool) : Nat → List Char → Exponent
  | n, [] =>
    let v : Int := if neg then -n else n
    if -Int.pow 2 31 ≤ v ∧ v < Int.pow 2 31 then .value v else .outOfRange
  | n, c :: cs =>
    if !c.isDigit then .notNumeric
    else
      let m := Word.pushDigit n c
      if Nat.pow 2 32 ≤ m then .outOfRange else scanExponent neg m cs

/-- reads the exponent after its mark: an optional sign and digits that fit 32 bits -/
def readExponent (cs : List Char) : Exponent :=
  match Word.splitSign cs with
  | (_, []) => .notNumeric
  | (neg, ds) => scanExponent neg 0 ds

/-- the digits of a mantissa, an optional sign in front -/
def readCoeff? (cs : List Char) : Option Int := do
  let (neg, ds) := Word.splitSign cs
  let n ← Word.ofDigits? ds
  some (if neg then -n else n)

/-- Reads the mantissa `cs` of the text `input`, scaled by `exp`. Faults of the mantissa name the
mantissa, a scale that does not fit 32 bits names the whole text. -/
def readMantissa (input : String) (cs : List Char) (exp : Int) : Except ParseError Decimal :=
  let shown := String.ofList cs
  match cs.filter (· == '.') with
  | _ :: _ :: _ => .error (.manyPoints shown)
  | _ =>
    let whole := cs.takeWhile (· != '.')
    let frac := (cs.dropWhile (· != '.')).drop 1
    match readCoeff? (whole ++ frac) with
    | none => .error (.notNumeric shown)
    | some n =>
      let e := exp - frac.length
      if -Int.pow 2 31 ≤ e ∧ e < Int.pow 2 31 then .ok ⟨n, e⟩ else .error (.fractionTooLong input)

def isMark (c : Char) : Bool := c == 'e' || c == 'E'

/-- An optional sign, digits with at most one point, and an optional exponent. -/
def parse (s : String) : Except ParseError Decimal :=
  let cs := s.toList
  let mantissa := cs.takeWhile (!isMark ·)
  match cs.dropWhile (!isMark ·) with
  | [] => readMantissa s cs 0
  | _ :: rest =>
    match readExponent rest with
    | .notNumeric => .error (.exponentNotNumeric s)
    | .outOfRange => .error (.fractionTooLong s)
    | .value e => readMantissa s mantissa e

end Decimal

end OrderDesk
