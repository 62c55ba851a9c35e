import OrderDesk.Number.Binary64

/-!
# Lengths of time

A length is a whole number of nanoseconds within 64 bits.

* `parse?`      reads a sequence of numbers with units, such as `1h30m` or `2.5s`;
* `seconds`     the whole seconds of a length.
-/

namespace OrderDesk.Span

def unit? : List Char → Option Nat
  | ['n', 's'] => some 1
  | ['u', 's'] => some 1000
  | ['m', 's'] => some 1000000
  | ['s'] => some 1000000000
  | ['m'] => some 60000000000
  | ['h'] => some 3600000000000
  | [c, 's'] => if c.toNat = 0xB5 ∨ c.toNat = 0x3BC then some 1000 else none
  | _ => none

/-- the digits of a fraction that still fit 63 bits, and the power of ten they are over -/
def fractionDigits : Nat → Nat → List Char → Nat × Nat
  | n, scale, [] => (n, scale)
  | n, scale, c :: cs =>
    if (Nat.pow 2 63 - 1) / 10 < n then (n, scale)
    else
      let m := Word.pushDigit n c
      if Nat.pow 2 63 < m then (n, scale) else fractionDigits m (scale * 10) cs

/-- `n / scale` units in whole nanoseconds, computed in binary numbers of 64 bits -/
def fractionNanos (n unit scale : Nat) : Nat :=
  match Binary64.ofRatio? false n 1, Binary64.ofRatio? false unit scale with
  | some a, some b =>
    let (p, q) := a.ratio
    let (r, s) := b.ratio
    ((Binary64.ofRatio? false (p * r) (q * s)).map fun x => x.truncate.toNat).getD 0
  | _, _ => 0

/-- a digit or a point: what ends a unit -/
def isNumeral (c : Char) : Bool := c.isDigit || c == '.'

/-- one number with its unit, and what follows -/
def part? (cs : List Char) : Option (Nat × List Char) := do
  let whole := cs.takeWhile Char.isDigit
  let rest := cs.drop whole.length
  let (frac, rest) := match rest with
    | '.' :: r => (r.takeWhile Char.isDigit, r.dropWhile Char.isDigit)
    | r => ([], r)
  if whole.isEmpty && frac.isEmpty then none
  else
    let v := whole.foldl Word.pushDigit 0
    let unit ← unit? (rest.takeWhile (!isNumeral ·))
    if Nat.pow 2 63 < v || Nat.pow 2 63 / unit < v then none
    else
      let (f, scale) := fractionDigits 0 1 frac
      let v := v * unit + (if 0 < f then fractionNanos f unit scale else 0)
      if Nat.pow 2 63 < v then none else some (v, rest.dropWhile (!isNumeral ·))

/-- the sum of the parts, at most `fuel` of them -/
def parts? : Nat → Nat → List Char → Option Nat
  | _, sum, [] => some sum
  | 0, _, _ => none
  | fuel + 1, sum, cs => do
    let (v, rest) ← part? cs
    if Nat.pow 2 63 < sum + v then none else parts? fuel (sum + v) rest

/-- an optional sign, then `0` or one number with a unit after the other -/
def parse? (s : String) : Option Int := do
  let (neg, cs) := Word.splitSign s.toList
  if cs = ['0'] then some 0
  else if cs.isEmpty then none
  else
    let n ← parts? cs.length 0 cs
    if neg then some (-(n : Int)) else if n < Nat.pow 2 63 then some n else none

/-- The whole seconds of a length, computed in binary numbers of 64 bits: the seconds and the
fraction are added and rounded before what is left of the fraction is dropped. -/
def seconds (nanos : Int) : Int :=
  let size := nanos.natAbs
  let whole := size / 1000000000
  let sum := (Binary64.ofRatio? false (size % 1000000000) 1000000000).bind fun f =>
    Binary64.ofRatio? false (whole * f.ratio.2 + f.ratio.1) f.ratio.2
  let n := (sum.map Binary64.truncate).getD whole
  if nanos < 0 then -n else n

end OrderDesk.Span
