import OrderDesk.Proofs.Decimal.Text

/-!
# Amounts with two places

An amount is shown with two places. What is shown reads as the amount rounded to a whole number of
cents, and so as the amount itself just when it is one.

* `Denotes`              what number a text reads as;
* `InCents`              amounts that are a whole number of cents;
* `InCents.mul_intCast`, `InCents.sum`      multiples and sums of such amounts;
* `parse_plain_false`    a text with all its places reads as the number of its coefficient;
* `denotes_fixed`        what the text with two places reads as;
* `fixed_exact_iff`      when it reads as the amount itself.
-/

namespace OrderDesk.Decimal

/-! ## what a text reads as -/

/-- The text reads as a decimal of this value. -/
def Denotes (s : String) (q : ℚ) : Prop := ∃ a : Decimal, parse s = .ok a ∧ a.value = q

theorem Denotes.unique {s : String} {q q' : ℚ} (h : Denotes s q) (h' : Denotes s q') : q = q' := by
  obtain ⟨a, ha, rfl⟩ := h
  obtain ⟨b, hb, rfl⟩ := h'
  obtain rfl : a = b := Except.ok.inj (ha.symm.trans hb)
  rfl

/-! ## whole numbers of cents -/

/-- A whole number of cents. -/
def InCents (q : ℚ) : Prop := ∃ k : ℤ, q = k / 100

theorem InCents.zero : InCents 0 := ⟨0, by simp⟩

theorem InCents.add {q q' : ℚ} (h : InCents q) (h' : InCents q') : InCents (q + q') := by
  obtain ⟨k, rfl⟩ := h
  obtain ⟨k', rfl⟩ := h'
  exact ⟨k + k', by push_cast; ring⟩

theorem InCents.mul_intCast {q : ℚ} (h : InCents q) (n : ℤ) : InCents (q * n) := by
  obtain ⟨k, rfl⟩ := h
  exact ⟨k * n, by push_cast; ring⟩

theorem InCents.sum {qs : List ℚ} (h : ∀ q ∈ qs, InCents q) : InCents qs.sum := by
  induction qs with
  | nil => exact .zero
  | cons q qs ih =>
    rw [List.sum_cons]
    exact (h q List.mem_cons_self).add (ih fun x hx => h x (List.mem_cons_of_mem _ hx))

/-! ## the text with two places -/

theorem plain_false_eq (k : ℕ) (n : ℤ) : plain false k n = String.ofList
    (minus (decide (n < 0)) ++ (splitDigits k n.natAbs).1 ++
      pointed (splitDigits k n.natAbs).2) := by
  unfold plain pointed minus
  by_cases hn : n < 0 <;> simp only [hn, decide_true, decide_false, if_true, if_false,
    Bool.false_eq_true] <;> split <;> simp

/-- **A text with all its places reads as the number of its coefficient.** -/
theorem parse_plain_false {k : ℕ} (n : ℤ) (hk : k ≤ 2 ^ 31) :
    parse (plain false k n) = .ok ⟨n, -k⟩ := by
  have hlen := splitDigits_frac_length k n.natAbs
  have hparse := parse_plain (decide (n < 0))
    (fun c hc => splitDigits_digits k n.natAbs (c := c) (.inl hc))
    (fun c hc => splitDigits_digits k n.natAbs (c := c) (.inr hc))
    (splitDigits_whole_ne k n.natAbs) (by rw [hlen]; exact hk)
  rw [splitDigits_value, hlen] at hparse
  rw [plain_false_eq, hparse]
  have hcoeff : (if decide (n < 0) then -(n.natAbs : ℤ) else n.natAbs) = n := by
    by_cases h : n < 0
    · simp only [h, decide_true, if_true]
      omega
    · simp only [h, decide_false, Bool.false_eq_true, if_false]
      omega
  rw [hcoeff]

/-- **What is shown** reads as the amount rounded to a whole number of cents. -/
theorem denotes_fixed (a : Decimal) : Denotes a.fixed (nearest (a.value * 100) / 100) := by
  have hround := value_round 2 a
  refine ⟨_, parse_plain_false (round 2 a).coeff (by omega), ?_⟩
  have hvalue : (⟨(round 2 a).coeff, -(2 : ℕ)⟩ : Decimal).value = (round 2 a).value := by
    rw [value, value, round_exp]
  rw [hvalue, hround]
  norm_num

theorem nearest_of_inCents {q : ℚ} (h : InCents q) : (nearest (q * 100) : ℚ) / 100 = q := by
  obtain ⟨k, rfl⟩ := h
  have hk : (k : ℚ) / 100 * 100 = k := by ring
  rw [hk, nearest_intCast]

/-- **What is shown is exact** just when the amount is a whole number of cents. -/
theorem fixed_exact_iff {a : Decimal} : Denotes a.fixed a.value ↔ InCents a.value := by
  constructor
  · intro h
    exact ⟨nearest (a.value * 100), h.unique (denotes_fixed a)⟩
  · intro h
    have hshown := denotes_fixed a
    rw [nearest_of_inCents h] at hshown
    exact hshown

end OrderDesk.Decimal
