import OrderDesk.Proofs.Decimal.Text

/-!
# Whole numbers as texts

* `toString_toList`       the text of a whole number: a minus if it is negative, and its digits;
* `toString_inj`          different numbers have different texts;
* `parseInt?_toString`    the text of a number of 64 bits reads back as the number.
-/

namespace OrderDesk.Word

open Decimal (minus)

theorem toString_toList (n : Int) :
    (toString n).toList = minus (decide (n < 0)) ++ Nat.toDigits 10 n.natAbs := by
  rw [Int.toString_eq_repr, Int.repr_eq_if]
  by_cases h : 0 ≤ n
  · have hneg : ¬ n < 0 := by omega
    have habs : n.toNat = n.natAbs := by omega
    rw [if_pos h, Nat.toList_repr, decide_eq_false hneg, habs]
    rfl
  · have hneg : n < 0 := by omega
    have habs : (-n).toNat = n.natAbs := by omega
    rw [if_neg h, String.toList_append, Nat.toList_repr, decide_eq_true hneg, habs]
    rfl

theorem digits_isDigit (n : Nat) : ∀ c ∈ Nat.toDigits 10 n, c.isDigit := fun _ hc =>
  Nat.isDigit_of_mem_toDigits (by decide) (by decide) hc

theorem splitSign_toString (n : Int) :
    splitSign (toString n).toList = (decide (n < 0), Nat.toDigits 10 n.natAbs) := by
  rw [toString_toList]
  exact Decimal.splitSign_minus _ Nat.toDigits_ne_nil (digits_isDigit _)

theorem toString_inj {m n : Int} : toString m = toString n ↔ m = n := by
  refine ⟨fun h => ?_, congrArg toString⟩
  have hsplit := splitSign_toString m
  rw [h, splitSign_toString n] at hsplit
  obtain ⟨hsign, hdigits⟩ := Prod.mk.inj hsplit
  have habs : n.natAbs = m.natAbs := by
    rw [← Nat.ofDigitChars_ten_toDigits (n := n.natAbs), hdigits, Nat.ofDigitChars_ten_toDigits]
  have hneg : n < 0 ↔ m < 0 := decide_eq_decide.mp hsign
  omega

theorem parseInt?_toString {n : Int} (h : InRange n) : parseInt? (toString n) = some n := by
  have hvalue : (if decide (n < 0) then -(n.natAbs : Int) else n.natAbs) = n := by
    split
    · next hneg =>
      have hneg : n < 0 := of_decide_eq_true hneg
      omega
    · next hneg =>
      have hneg : ¬ n < 0 := fun hn => hneg (decide_eq_true hn)
      omega
  unfold parseInt?
  rw [splitSign_toString]
  show (ofDigits? (Nat.toDigits 10 n.natAbs)).bind _ = _
  rw [Decimal.ofDigits?_of_digits Nat.toDigits_ne_nil (digits_isDigit _),
    Nat.ofDigitChars_ten_toDigits, Option.bind_some, hvalue, if_pos h]

end OrderDesk.Word
