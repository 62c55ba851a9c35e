import OrderDesk.Number.Word

/-!
# Binary numbers of 64 bits and their shortest decimal text

A finite number is `± mant · 2 ^ exp`, with `mant < 2 ^ 53` and `-1074 ≤ exp ≤ 971`.

* `ofRatio?`     the nearest number of a quotient, a tie going to the even mantissa;
* `ofDecimal?`   the nearest number of `n · 10 ^ e`, `none` past the greatest finite number;
* `parseJson?`   reads a number as it is spelled in a document;
* `shortest`     the fewest decimal digits that read back as the number;
* `text`         these digits in plain or exponent notation;
* `truncate`, `fractionNanos`     the whole part, and the rest in billionths;
* `nearest`      the whole number that is kept of a whole number.
-/

namespace OrderDesk

/-- A finite binary number of 64 bits. -/
structure Binary64 where
  neg : Bool
  mant : Nat
  exp : Int
  deriving DecidableEq, Repr, Inhabited

namespace Binary64

def zero : Binary64 := ⟨false, 0, -1074⟩

def one : Binary64 := ⟨false, Nat.pow 2 52, -52⟩

/-- the quotient rounded to the nearest whole number, a tie going to the even one -/
def divHalfEven (n d : Nat) : Nat :=
  let q := n / d
  let r := n % d
  if 2 * r < d then q else if d < 2 * r then q + 1 else if q % 2 = 0 then q else q + 1

/-- `n / d` scaled by `2 ^ -e`, as a quotient -/
def scaled (n d : Nat) (e : Int) : Nat × Nat :=
  if 0 ≤ e then (n, d * Nat.pow 2 e.toNat) else (n * Nat.pow 2 (-e).toNat, d)

/-- The nearest number of `n / d`, `none` when it would be greater than every finite number. -/
def ofRatio? (neg : Bool) (n d : Nat) : Option Binary64 :=
  if n = 0 then some ⟨neg, 0, -1074⟩
  else
    -- an exponent at which the quotient has 53 or 54 bits
    let guess : Int := (n.log2 : Int) - d.log2 - 53
    let (a, b) := scaled n d guess
    let guess := if a / b < Nat.pow 2 53 then guess else guess + 1
    let e := max guess (-1074)
    let (a, b) := scaled n d e
    let m := divHalfEven a b
    let (m, e) := if m = Nat.pow 2 53 then (Nat.pow 2 52, e + 1) else (m, e)
    if 971 < e then none else some ⟨neg, m, e⟩

/-- The nearest number of `n · 10 ^ e`. Exponents far outside the range are not spelled out. -/
def ofDecimal? (neg : Bool) (n : Nat) (e : Int) : Option Binary64 :=
  let size : Int := (Nat.toDigits 10 n).length + e
  if n = 0 ∨ size < -330 then some ⟨neg, 0, -1074⟩
  else if 310 < size then none
  else if 0 ≤ e then ofRatio? neg (n * Nat.pow 10 e.toNat) 1
  else ofRatio? neg n (Nat.pow 10 (-e).toNat)

/-- reads digits, an optional fraction and an optional exponent, an optional minus in front -/
def parseJson? (cs : List Char) : Option Binary64 := do
  let (neg, cs) := Word.splitSign cs
  let isMark := fun c => c == 'e' || c == 'E'
  let mantissa := cs.takeWhile (!isMark ·)
  let whole := mantissa.takeWhile (· != '.')
  let frac := (mantissa.dropWhile (· != '.')).drop 1
  let n ← Word.ofDigits? (whole ++ frac)
  let e : Int ← match cs.dropWhile (!isMark ·) with
    | [] => some 0
    | _ :: rest =>
      let (eneg, ds) := Word.splitSign rest
      (Word.ofDigits? ds).map fun k => if eneg then -(k : Int) else k
  ofDecimal? neg n (e - frac.length)

/-- the value as a quotient of whole numbers, without its sign -/
def ratio (x : Binary64) : Nat × Nat :=
  if 0 ≤ x.exp then (x.mant * Nat.pow 2 x.exp.toNat, 1) else (x.mant, Nat.pow 2 (-x.exp).toNat)

/-- The ends of the interval of quotients that round to `x`, each over the same denominator:
lower end, upper end, denominator. Below a power of two the neighbours lie closer. -/
def interval (x : Binary64) : Nat × Nat × Nat :=
  let lowShift := if x.mant = Nat.pow 2 52 ∧ -1074 < x.exp then 1 else 2
  let low := 4 * x.mant - lowShift
  let high := 4 * x.mant + 2
  let e := x.exp - 2
  if 0 ≤ e then (low * Nat.pow 2 e.toNat, high * Nat.pow 2 e.toNat, 1)
  else (low, high, Nat.pow 2 (-e).toNat)

def readsBack (x : Binary64) (n : Nat) (k : Int) : Bool :=
  let (low, high, den) := x.interval
  let (n, den') := if 0 ≤ k then (n * Nat.pow 10 k.toNat, 1) else (n, Nat.pow 10 (-k).toNat)
  let v := n * den
  if x.mant % 2 = 0 then low * den' ≤ v && v ≤ high * den' else low * den' < v && v < high * den'

/-- the multiples of `10 ^ k` next to the value of `x`, the nearer one first -/
def neighbours (x : Binary64) (k : Int) : List Nat :=
  let (n, d) := x.ratio
  let (n, d) := if 0 ≤ k then (n, d * Nat.pow 10 k.toNat) else (n * Nat.pow 10 (-k).toNat, d)
  let q := n / d
  if 2 * (n % d) < d then [q, q + 1]
  else if 2 * (n % d) = d ∧ q % 2 = 0 then [q, q + 1]
  else [q + 1, q]

/-- The decimal exponent of the first digit: `10 ^ p ≤ x < 10 ^ (p + 1)`. -/
def decimalExponent (x : Binary64) : Int :=
  let (n, d) := x.ratio
  let guess : Int := (Nat.toDigits 10 n).length - (Nat.toDigits 10 d).length
  let below :=
    if 0 ≤ guess then n < d * Nat.pow 10 guess.toNat else n * Nat.pow 10 (-guess).toNat < d
  if below then guess - 1 else guess

/-- tries `count` digits, then one more, at most `fuel` times -/
def shortestFrom (x : Binary64) (p : Int) : Nat → Nat → Nat × Int
  | 0, count => (x.mant, x.exp + count)
  | fuel + 1, count =>
    let k := p - count + 1
    match (x.neighbours k).find? (x.readsBack · k) with
    | some n => (n, k)
    | none => shortestFrom x p fuel (count + 1)

/-- The fewest decimal digits `n` with `n · 10 ^ k` reading back as `x`, without its sign. -/
def shortest (x : Binary64) : Nat × Int := shortestFrom x x.decimalExponent 17 1

/-- removes the zeros at the end of the digits, counting them into the exponent -/
def stripZeros (ds : List Char) (k : Int) : List Char × Int :=
  let kept := (ds.reverse.dropWhile (· == '0')).reverse
  (kept, k + (ds.length - kept.length))

def plainDigits (ds : List Char) (k : Int) : List Char :=
  if 0 ≤ k then ds ++ List.replicate k.toNat '0'
  else
    let places := (-k).toNat
    if places < ds.length then ds.take (ds.length - places) ++ '.' :: ds.drop (ds.length - places)
    else '0' :: '.' :: List.replicate (places - ds.length) '0' ++ ds

/-- exponent notation of the digits `ds · 10 ^ k`: one digit before the point, a sign, no zero in
front of the exponent -/
def exponentDigits (ds : List Char) (k : Int) : List Char :=
  let e := k + ds.length - 1
  let head := match ds with
    | [] => []
    | [c] => [c]
    | c :: rest => c :: '.' :: rest
  head ++ 'e' :: (if e < 0 then '-' else '+') :: Nat.toDigits 10 e.natAbs

/-- Shortest digits, plainly between `10 ^ -6` and `10 ^ 21` and with an exponent outside; zero
keeps its sign. -/
def text (x : Binary64) : String :=
  let body :=
    if x.mant = 0 then ['0']
    else
      let (n, k) := x.shortest
      let (ds, k) := stripZeros (Nat.toDigits 10 n) k
      let p := k + ds.length - 1
      if -6 ≤ p ∧ p < 21 then plainDigits ds k else exponentDigits ds k
  String.ofList (if x.neg then '-' :: body else body)

/-- strictly below, by value -/
def lt (x y : Binary64) : Bool :=
  let (a, b) := x.ratio
  let (c, d) := y.ratio
  let p : Int := a * d
  let q : Int := c * b
  (if x.neg then -p else p) < (if y.neg then -q else q)

/-- the whole part, towards zero -/
def truncate (x : Binary64) : Int :=
  let (n, d) := x.ratio
  if x.neg then -((n / d : Nat) : Int) else (n / d : Nat)

/-- What is left of a number beside its whole part, in billionths: a product of two numbers, which
is rounded like any other, and of which the whole part is taken. -/
def fractionNanos (x : Binary64) : Int :=
  let (n, d) := x.ratio
  ((ofRatio? x.neg (n % d * 1000000000) d).map truncate).getD 0

/-- The nearest number of a whole number, a tie going to the even mantissa; a word is never past the
greatest one, and the nearest number of a whole number is whole. -/
def nearest (n : Int) : Int := ((ofRatio? (decide (n < 0)) n.natAbs 1).map truncate).getD n

end Binary64

end OrderDesk
