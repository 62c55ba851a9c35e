/-!
# Whole numbers of 64 bits

Ids, quantities, offsets and durations are whole numbers between `-2^63` and `2^63 - 1`; the few
operations that can leave that range wrap around.

* `wrap`        the number of that range with the same remainder modulo `2^64`;
* `InRange`     the range itself;
* `ofDigits?`   the value of a list of decimal digits;
* `parseInt?`   reads an optional sign and decimal digits;
* `padded`      a number with leading zeros.
-/

namespace OrderDesk.Word

/-- the number between `-2^63` and `2^63 - 1` with the same remainder modulo `2^64` -/
def wrap (n : Int) : Int := Int.bmod n (Nat.pow 2 64)

/-- between `-2^63` and `2^63 - 1` -/
def InRange (n : Int) : Prop := -Int.pow 2 63 ≤ n ∧ n < Int.pow 2 63

instance (n : Int) : Decidable (InRange n) := inferInstanceAs (Decidable (_ ∧ _))

theorem wrap_of_inRange {n : Int} (h : InRange n) : wrap n = n := by
  have hwords : Nat.pow 2 64 = 18446744073709551616 := rfl
  have hhalf : Int.pow 2 63 = 9223372036854775808 := rfl
  obtain ⟨h₁, h₂⟩ := h
  unfold wrap
  rw [Int.bmod_def, hwords]
  omega

/-- one step of reading digits from the left -/
def pushDigit (n : Nat) (c : Char) : Nat := n * 10 + (c.toNat - 48)

/-- the value of a list of decimal digits, `none` for an empty list or another character -/
def ofDigits? (cs : List Char) : Option Nat :=
  if cs.isEmpty || !cs.all Char.isDigit then none else some (cs.foldl pushDigit 0)

/-- splits an optional sign off; `true` is minus -/
def splitSign : List Char → Bool × List Char
  | '-' :: cs => (true, cs)
  | '+' :: cs => (false, cs)
  | cs => (false, cs)

/-- An optional sign and decimal digits whose value fits 64 bits. -/
def parseInt? (s : String) : Option Int := do
  let (neg, cs) := splitSign s.toList
  let n ← ofDigits? cs
  let v : Int := if neg then -n else n
  if InRange v then some v else none

/-- a number with zeros before it, up to `width` digits -/
def padded (width n : Nat) : String :=
  let s := Nat.repr n
  String.ofList (List.replicate (width - s.length) '0') ++ s

end OrderDesk.Word
