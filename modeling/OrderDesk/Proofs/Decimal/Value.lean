import OrderDesk.Number.Decimal
import Mathlib.Algebra.Order.Floor.Ring
import Mathlib.Data.Rat.Floor
import Mathlib.Tactic.FieldSimp
import Mathlib.Tactic.Linarith
import Mathlib.Tactic.Positivity
import Mathlib.Tactic.Ring

/-!
# The number a decimal stands for

Two decimals of one value may differ in coefficient and exponent. Everything the service decides
or shows depends on the value alone.

* `value`                            the rational number;
* `value_add`, `value_mul`, `value_sum`   the arithmetic is exact;
* `eqv_iff`, `gt_iff`, `isNegative_iff`   the comparisons are those of values;
* `nearest`, `round_coeff`           rounding goes to the nearest whole number of units, a half away
                                     from zero;
* `fixed_congr`                      equal values have one text with two places.
-/

namespace OrderDesk.Decimal

/-- the number that a decimal stands for -/
def value (d : Decimal) : ℚ := d.coeff * (10 : ℚ) ^ d.exp

theorem ten_zpow_pos (e : ℤ) : (0 : ℚ) < 10 ^ e := zpow_pos (by norm_num) e

@[simp]
theorem value_zero : zero.value = 0 := by simp [value, zero]

@[simp]
theorem value_ofInt (n : Int) : (ofInt n).value = n := by simp [value, ofInt]

theorem coeffAt_mul {d : Decimal} {e : ℤ} : d.coeffAt e = d.coeff * 10 ^ (d.exp - e).toNat := by
  unfold coeffAt
  split
  · next h => rw [h, zero_mul]
  · rfl

/-- the coefficient at a lower exponent spells the same number -/
theorem coeffAt_value {d : Decimal} {e : Int} (h : e ≤ d.exp) :
    (d.coeffAt e : ℚ) * 10 ^ e = d.value := by
  have he : ((d.exp - e).toNat : ℤ) = d.exp - e := Int.toNat_of_nonneg (by omega)
  rw [coeffAt_mul, value]
  push_cast
  rw [mul_assoc, ← zpow_natCast, he, ← zpow_add₀ (by norm_num : (10 : ℚ) ≠ 0)]
  congr 2
  omega

@[simp]
theorem value_add (a b : Decimal) : (a.add b).value = a.value + b.value := by
  have ha := coeffAt_value (d := a) (min_le_left a.exp b.exp)
  have hb := coeffAt_value (d := b) (min_le_right a.exp b.exp)
  show ((a.coeffAt (min a.exp b.exp) + b.coeffAt (min a.exp b.exp) : ℤ) : ℚ)
    * 10 ^ min a.exp b.exp = _
  rw [Int.cast_add, add_mul, ha, hb]

@[simp]
theorem value_mul (a b : Decimal) : (a.mul b).value = a.value * b.value := by
  unfold value mul
  push_cast
  rw [zpow_add₀ (by norm_num : (10 : ℚ) ≠ 0)]
  ring

theorem value_foldl (ds : List Decimal) (a : Decimal) :
    (ds.foldl add a).value = a.value + (ds.map value).sum := by
  induction ds generalizing a with
  | nil => simp
  | cons d ds ih => rw [List.foldl_cons, ih, value_add, List.map_cons, List.sum_cons, add_assoc]

@[simp]
theorem value_sum (ds : List Decimal) : (sum ds).value = (ds.map value).sum := by
  rw [sum, value_foldl, value_zero, zero_add]

/-! ## comparisons -/

theorem difference_value (a b : Decimal) :
    (a.difference b : ℚ) * 10 ^ min a.exp b.exp = a.value - b.value := by
  have ha := coeffAt_value (d := a) (min_le_left a.exp b.exp)
  have hb := coeffAt_value (d := b) (min_le_right a.exp b.exp)
  show ((a.coeffAt (min a.exp b.exp) - b.coeffAt (min a.exp b.exp) : ℤ) : ℚ) * _ = _
  rw [Int.cast_sub, sub_mul, ha, hb]

theorem eqv_iff {a b : Decimal} : a.eqv b = true ↔ a.value = b.value := by
  have h := difference_value a b
  have hp := ten_zpow_pos (min a.exp b.exp)
  rw [eqv, beq_iff_eq]
  constructor
  · intro h0
    rw [h0, Int.cast_zero, zero_mul] at h
    linarith
  · intro hv
    rw [hv, sub_self] at h
    exact_mod_cast (mul_eq_zero.mp h).resolve_right hp.ne'

theorem gt_iff {a b : Decimal} : a.gt b = true ↔ b.value < a.value := by
  have h := difference_value a b
  have hp := ten_zpow_pos (min a.exp b.exp)
  rw [gt, decide_eq_true_iff]
  constructor
  · intro h0
    have : (0 : ℚ) < a.difference b := by exact_mod_cast h0
    have := mul_pos this hp
    linarith
  · intro hv
    have : (0 : ℚ) < a.difference b * 10 ^ min a.exp b.exp := by linarith
    exact_mod_cast pos_of_mul_pos_left this hp.le

theorem isNegative_iff {a : Decimal} : a.isNegative = true ↔ a.value < 0 := by
  have hp := ten_zpow_pos a.exp
  rw [isNegative, decide_eq_true_iff, value]
  constructor
  · intro h
    exact mul_neg_of_neg_of_pos (by exact_mod_cast h) hp
  · intro h
    by_contra hn
    have : (0 : ℚ) ≤ a.coeff := by exact_mod_cast not_lt.mp hn
    exact absurd (mul_nonneg this hp.le) (not_le.mpr h)

/-! ## rounding -/

/-- the nearest whole number, a half going away from zero -/
def nearest (q : ℚ) : ℤ := if q < 0 then -⌊-q + 1 / 2⌋ else ⌊q + 1 / 2⌋

theorem nearest_intCast (n : ℤ) : nearest n = n := by
  have half : ∀ m : ℤ, ⌊(m : ℚ) + 1 / 2⌋ = m := by
    intro m
    rw [Int.floor_eq_iff]
    constructor <;> linarith
  unfold nearest
  split
  · rw [← Int.cast_neg, half, neg_neg]
  · exact half n

theorem nearest_nonneg {q : ℚ} (h : 0 ≤ q) : 0 ≤ nearest q := by
  rw [nearest, if_neg (not_lt.mpr h), Int.floor_nonneg]
  linarith

/-- the quotient of doubled numbers is the floor that rounding asks for -/
theorem floor_half (m d : ℕ) (hd : 0 < d) :
    ⌊(m : ℚ) / d + 1 / 2⌋ = ((2 * m + d) / (2 * d) : ℕ) := by
  have h : (m : ℚ) / d + 1 / 2 = ((2 * m + d : ℕ) : ℤ) / ((2 * d : ℕ) : ℚ) := by
    push_cast
    field_simp
  rw [h, Rat.floor_intCast_div_natCast]
  norm_cast

theorem divHalfAway_eq (n : ℤ) {d : ℕ} (hd : 0 < d) : divHalfAway n d = nearest (n / d) := by
  have hd' : (0 : ℚ) < d := by exact_mod_cast hd
  unfold divHalfAway nearest
  by_cases hn : n < 0
  · have hq : (n : ℚ) / d < 0 := div_neg_of_neg_of_pos (by exact_mod_cast hn) hd'
    have ha : -((n : ℚ) / d) = (n.natAbs : ℚ) / d := by
      rw [← neg_div, Nat.cast_natAbs, abs_of_neg hn, Int.cast_neg]
    rw [if_pos hn, if_pos hq, ha, floor_half _ _ hd]
  · have hq : ¬ (n : ℚ) / d < 0 := by
      have : (0 : ℚ) ≤ n := by exact_mod_cast not_lt.mp hn
      exact not_lt.mpr (div_nonneg this hd'.le)
    have ha : (n : ℚ) / d = (n.natAbs : ℚ) / d := by
      rw [Nat.cast_natAbs, abs_of_nonneg (not_lt.mp hn)]
    rw [if_neg hn, if_neg hq, ha, floor_half _ _ hd]

theorem round_exp (places : ℕ) (a : Decimal) : (round places a).exp = -places := by
  unfold round
  split <;> rfl

/-- rounding keeps the nearest whole number of the last place -/
theorem round_coeff (places : ℕ) (a : Decimal) :
    (round places a).coeff = nearest (a.value * 10 ^ places) := by
  unfold round
  split
  · next h =>
    have hv : a.value * 10 ^ places = a.coeffAt (-places) := by
      rw [← coeffAt_value h, mul_assoc, zpow_neg, zpow_natCast, inv_mul_cancel₀ (by positivity),
        mul_one]
    show a.coeffAt (-places) = _
    rw [hv, nearest_intCast]
  · next h =>
    have he : (((-(places : ℤ) - a.exp).toNat : ℕ) : ℤ) = -(places : ℤ) - a.exp :=
      Int.toNat_of_nonneg (by omega)
    have hv : a.value * 10 ^ places
        = a.coeff / ((10 ^ (-(places : ℤ) - a.exp).toNat : ℕ) : ℚ) := by
      have h10 : (10 : ℚ) ≠ 0 := by norm_num
      rw [value, Nat.cast_pow, Nat.cast_ofNat, ← zpow_natCast (10 : ℚ) (Int.toNat _), he,
        div_eq_mul_inv, ← zpow_neg, ← zpow_natCast (10 : ℚ) places, mul_assoc, ← zpow_add₀ h10]
      congr 2
      omega
    show divHalfAway a.coeff (10 ^ (-(places : ℤ) - a.exp).toNat) = _
    rw [hv, divHalfAway_eq _ (by positivity)]

theorem value_round (places : ℕ) (a : Decimal) :
    (round places a).value = nearest (a.value * 10 ^ places) / 10 ^ places := by
  rw [value, round_coeff, round_exp, zpow_neg, zpow_natCast, div_eq_mul_inv]

theorem fixed_congr {a b : Decimal} (h : a.value = b.value) : a.fixed = b.fixed := by
  rw [fixed, fixed, round_coeff, round_coeff, h]

end OrderDesk.Decimal
