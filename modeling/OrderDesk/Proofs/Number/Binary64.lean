import OrderDesk.Proofs.Number.Word

/-!
# Whole numbers as binary numbers of 64 bits

A whole number below `2 ^ 53` has a binary number of its own: no digit of it is rounded away.

* `ofRatio?_whole`         the binary number of a whole number, with its mantissa and exponent;
* `nearest_of_lt`          it is the nearest one of itself;
* `Counts`                 a binary number is that of a whole number;
* `parseJson?_toString`    the text of a whole number is read as that number.
-/

namespace OrderDesk.Binary64

open Decimal (isMark digit_ne)

theorem divHalfEven_one (n : Nat) : divHalfEven n 1 = n := by
  unfold divHalfEven
  simp [Nat.mod_one]

theorem scaled_whole {e : Int} (he : e ≤ 0) (n : Nat) : scaled n 1 e = (n * 2 ^ (-e).toNat, 1) := by
  unfold scaled
  split
  · next h =>
    obtain rfl : e = 0 := by omega
    exact congrArg (·, 1) (Nat.mul_one n).symm
  · rfl

theorem ratio_of_nonpos {x : Binary64} (h : x.exp ≤ 0) : x.ratio = (x.mant, 2 ^ (-x.exp).toNat) := by
  unfold ratio
  split
  · next hexp =>
    obtain hzero : x.exp = 0 := by omega
    rw [hzero]
    exact congrArg (·, 1) (Nat.mul_one x.mant)
  · rfl

section
variable {neg : Bool} {n : Nat} (hn : n ≠ 0) (h : n < 2 ^ 53)
include hn h

theorem log2_le : n.log2 ≤ 52 := Nat.le_of_lt_succ ((Nat.log2_lt hn).mpr h)

/-- **A whole number is moved to 53 bits**, and nothing is rounded. -/
theorem ofRatio?_whole :
    ofRatio? neg n 1 = some ⟨neg, n * 2 ^ (52 - n.log2), (n.log2 : Int) - 52⟩ := by
  have hlog := log2_le hn h
  -- the guess leaves one bit too many, so that the next exponent is taken, which is exact
  have hguess : scaled n 1 (n.log2 - Nat.log2 1 - 53) = (n * 2 ^ (53 - n.log2), 1) := by
    rw [show Nat.log2 1 = 0 by decide, scaled_whole (by omega)]
    congr 3
    omega
  have hexact : scaled n 1 (n.log2 - 52) = (n * 2 ^ (52 - n.log2), 1) := by
    rw [scaled_whole (by omega)]
    congr 3
    omega
  have hwide : ¬ n * 2 ^ (53 - n.log2) / 1 < Nat.pow 2 53 := by
    rw [Nat.div_one, Nat.not_lt]
    calc Nat.pow 2 53 = 2 ^ n.log2 * 2 ^ (53 - n.log2) := by
          rw [← Nat.pow_add, Nat.add_sub_cancel' (by omega), Nat.pow_eq]
      _ ≤ n * 2 ^ (53 - n.log2) := Nat.mul_le_mul_right _ (Nat.log2_self_le hn)
  have hnarrow : n * 2 ^ (52 - n.log2) < Nat.pow 2 53 :=
    calc n * 2 ^ (52 - n.log2) < 2 ^ (n.log2 + 1) * 2 ^ (52 - n.log2) :=
          Nat.mul_lt_mul_of_pos_right Nat.lt_log2_self (Nat.two_pow_pos _)
      _ = Nat.pow 2 53 := by
          rw [← Nat.pow_add, Nat.pow_eq]
          congr 1
          omega
  have hexp : max ((n.log2 : Int) - Nat.log2 1 - 53 + 1) (-1074) = n.log2 - 52 := by
    rw [show Nat.log2 1 = 0 by decide]
    omega
  unfold ofRatio?
  simp only [hn, hguess, hwide, hexp, hexact, divHalfEven_one, hnarrow.ne, if_false]
  rw [if_neg (by omega)]

theorem truncate_whole : truncate ⟨neg, n * 2 ^ (52 - n.log2), (n.log2 : Int) - 52⟩
    = if neg then -(n : Int) else n := by
  have hlog := log2_le hn h
  have hexp : (-((n.log2 : Int) - 52)).toNat = 52 - n.log2 := by omega
  unfold truncate
  rw [ratio_of_nonpos (by show (n.log2 : Int) - 52 ≤ 0; omega)]
  dsimp only
  rw [hexp, Nat.mul_div_cancel _ (Nat.two_pow_pos _)]

theorem fractionNanos_whole :
    fractionNanos ⟨neg, n * 2 ^ (52 - n.log2), (n.log2 : Int) - 52⟩ = 0 := by
  have hlog := log2_le hn h
  have hexp : (-((n.log2 : Int) - 52)).toNat = 52 - n.log2 := by omega
  unfold fractionNanos
  rw [ratio_of_nonpos (by show (n.log2 : Int) - 52 ≤ 0; omega)]
  dsimp only
  rw [hexp, Nat.mul_mod_left, Nat.zero_mul]
  unfold ofRatio?
  rw [if_pos rfl]
  cases neg <;> decide +kernel

end

/-- a whole number is its size with its sign -/
theorem ite_neg_natAbs (n : Int) :
    (if decide (n < 0) then -(n.natAbs : Int) else n.natAbs) = n := by
  by_cases hneg : n < 0
  · rw [decide_eq_true hneg, if_pos rfl]
    omega
  · rw [decide_eq_false hneg, if_neg (by decide)]
    omega

/-- **A whole number below `2 ^ 53`** is its own nearest number. -/
theorem nearest_of_lt {n : Int} (h : n.natAbs < 2 ^ 53) : nearest n = n := by
  by_cases hzero : n = 0
  · rw [hzero]
    decide +kernel
  have hn : n.natAbs ≠ 0 := Int.natAbs_ne_zero.mpr hzero
  unfold nearest
  rw [ofRatio?_whole hn h, Option.map_some, Option.getD_some, truncate_whole hn h, ite_neg_natAbs]

theorem not_mark_of_isDigit {c : Char} (h : c.isDigit) : isMark c = false := by
  have he : c ≠ 'e' := digit_ne h (by decide)
  have hE : c ≠ 'E' := digit_ne h (by decide)
  simp [isMark, he, hE]

/-- digits alone are read as the number they spell -/
theorem parseJson?_digits (n : Int) :
    parseJson? (toString n).toList = ofDecimal? (decide (n < 0)) n.natAbs 0 := by
  have hdigits := Word.digits_isDigit n.natAbs
  have htake : (Nat.toDigits 10 n.natAbs).takeWhile (!isMark ·) = Nat.toDigits 10 n.natAbs :=
    List.takeWhile_eq_self_iff.mpr fun c hc => by simp [not_mark_of_isDigit (hdigits c hc)]
  have hdrop : (Nat.toDigits 10 n.natAbs).dropWhile (!isMark ·) = [] :=
    List.dropWhile_eq_nil_iff.mpr fun c hc => by simp [not_mark_of_isDigit (hdigits c hc)]
  have hpoint : ∀ c ∈ Nat.toDigits 10 n.natAbs, (c != '.') = true := fun c hc =>
    bne_iff_ne.mpr (digit_ne (hdigits c hc) (by decide))
  have hwhole : (Nat.toDigits 10 n.natAbs).takeWhile (· != '.') = Nat.toDigits 10 n.natAbs :=
    List.takeWhile_eq_self_iff.mpr hpoint
  have hfrac : (Nat.toDigits 10 n.natAbs).dropWhile (· != '.') = [] :=
    List.dropWhile_eq_nil_iff.mpr hpoint
  have hvalue : Word.ofDigits? (Nat.toDigits 10 n.natAbs) = some n.natAbs := by
    rw [Decimal.ofDigits?_of_digits Nat.toDigits_ne_nil hdigits, Nat.ofDigitChars_ten_toDigits]
  unfold parseJson?
  rw [Word.splitSign_toString]
  unfold isMark at htake hdrop
  simp only [htake, hdrop, hwhole, hfrac, hvalue, List.drop_nil, List.append_nil, List.length_nil,
    Option.bind_eq_bind, Option.bind_some, Nat.cast_zero, sub_zero]

/-- The binary number of a whole number: nothing is lost, and only zero has no digits. -/
structure Counts (x : Binary64) (n : Int) : Prop where
  truncate : x.truncate = n
  fraction : x.fractionNanos = 0
  mant : x.mant = 0 ↔ n = 0

/-- **The text of a whole number below `2 ^ 53` is read as that number.** -/
theorem parseJson?_toString {n : Int} (h : n.natAbs < 2 ^ 53) :
    ∃ x, parseJson? (toString n).toList = some x ∧ x.Counts n := by
  rw [parseJson?_digits]
  have hlength : (Nat.toDigits 10 n.natAbs).length ≤ 16 :=
    (Nat.length_toDigits_le_iff (by decide) (by decide)).mpr (h.trans (by decide))
  unfold ofDecimal?
  dsimp only
  by_cases hzero : n = 0
  · subst hzero
    exact ⟨_, rfl, by decide +kernel, by decide +kernel, by decide⟩
  have hn : n.natAbs ≠ 0 := Int.natAbs_ne_zero.mpr hzero
  rw [if_neg (by omega), if_neg (by omega), if_pos le_rfl]
  rw [show n.natAbs * Nat.pow 10 (0 : Int).toNat = n.natAbs from Nat.mul_one _, ofRatio?_whole hn h]
  refine ⟨_, rfl, ?_, fractionNanos_whole hn h, iff_of_false ?_ hzero⟩
  · rw [truncate_whole hn h, ite_neg_natAbs]
  · exact Nat.mul_ne_zero hn (Nat.two_pow_pos _).ne'

end OrderDesk.Binary64
