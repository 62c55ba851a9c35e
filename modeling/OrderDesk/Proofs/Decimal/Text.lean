import OrderDesk.Proofs.Decimal.Value
import OrderDesk.Store.Cell
import Mathlib.Data.List.DropRight
import Mathlib.Data.List.TakeWhile

/-!
# Amounts as texts

An amount is stored as its shortest plain text. Reading the text back gives the same number, and
equal numbers have one text, so nothing is lost or changed by storing an amount again and again.

* `parse_plain`      a text of digits, a point and digits reads as the number it spells;
* `parse_text`       the text of a decimal reads back as a decimal of the same value;
* `text_congr`       equal values have one text;
* `amount?_text`     the same, for a cell of a table.
-/

set_option linter.unusedSectionVars false

namespace OrderDesk.Decimal

/-! ## digits -/

theorem foldl_pushDigit (cs : List Char) : cs.foldl Word.pushDigit 0 = Nat.ofDigitChars 10 cs 0 := by
  have h : Word.pushDigit = fun n c => 10 * n + (c.toNat - '0'.toNat) := by
    funext n c
    show n * 10 + (c.toNat - 48) = 10 * n + (c.toNat - 48)
    rw [Nat.mul_comm]
  rw [Nat.ofDigitChars_eq_foldl, h]

theorem ofDigits?_of_digits {cs : List Char} (hne : cs ≠ []) (hd : ∀ c ∈ cs, c.isDigit) :
    Word.ofDigits? cs = some (Nat.ofDigitChars 10 cs 0) := by
  have h : (cs.isEmpty || !cs.all Char.isDigit) = false := by
    simp only [Bool.or_eq_false_iff, List.isEmpty_eq_false_iff, Bool.not_eq_false', List.all_eq_true]
    exact ⟨hne, hd⟩
  rw [Word.ofDigits?, if_neg (by simp [h]), foldl_pushDigit]

theorem digit_ne {c d : Char} (hc : c.isDigit) (hd : d.isDigit = false) : c ≠ d := by
  rintro rfl
  simp [hc] at hd

/-- a minus in front, or nothing -/
def minus (neg : Bool) : List Char := if neg then ['-'] else []

/-- a point and the digits after it, or nothing when there are none -/
def pointed (frac : List Char) : List Char := if frac.isEmpty then [] else '.' :: frac

theorem splitSign_minus (neg : Bool) {cs : List Char} (hne : cs ≠ []) (hd : ∀ c ∈ cs, c.isDigit) :
    Word.splitSign (minus neg ++ cs) = (neg, cs) := by
  cases neg with
  | true => rfl
  | false =>
    obtain ⟨c, cs, rfl⟩ := List.exists_cons_of_ne_nil hne
    have hc : c.isDigit := hd c List.mem_cons_self
    have h₁ : c ≠ '-' := digit_ne hc (by decide)
    have h₂ : c ≠ '+' := digit_ne hc (by decide)
    show Word.splitSign (c :: cs) = _
    unfold Word.splitSign
    split
    · next h => exact absurd (List.cons.inj h).1 h₁
    · next h => exact absurd (List.cons.inj h).1 h₂
    · rfl

theorem readCoeff?_minus (neg : Bool) {cs : List Char} (hne : cs ≠ [])
    (hd : ∀ c ∈ cs, c.isDigit) :
    readCoeff? (minus neg ++ cs) =
      some (if neg then -(Nat.ofDigitChars 10 cs 0 : ℤ) else Nat.ofDigitChars 10 cs 0) := by
  simp [readCoeff?, splitSign_minus neg hne hd, ofDigits?_of_digits hne hd]

section
variable (neg : Bool) {whole frac : List Char} (hw : ∀ c ∈ whole, c.isDigit)
  (hf : ∀ c ∈ frac, c.isDigit)
include hw hf

/-- the characters of a plain text are digits, a minus and a point -/
theorem plain_chars {c : Char} (h : c ∈ minus neg ++ whole ++ pointed frac) :
    c.isDigit ∨ c = '-' ∨ c = '.' := by
  rcases List.mem_append.mp h with h | h
  · rcases List.mem_append.mp h with h | h
    · cases neg <;> simp [minus] at h
      exact .inr (.inl h)
    · exact .inl (hw c h)
  · unfold pointed at h
    split at h
    · simp at h
    · rcases List.mem_cons.mp h with rfl | h
      · exact .inr (.inr rfl)
      · exact .inl (hf c h)

theorem plain_no_mark : (minus neg ++ whole ++ pointed frac).dropWhile (!isMark ·) = [] := by
  rw [List.dropWhile_eq_nil_iff]
  intro c hc
  rcases plain_chars neg hw hf hc with h | rfl | rfl
  · have h₁ : c ≠ 'e' := digit_ne h (by decide)
    have h₂ : c ≠ 'E' := digit_ne h (by decide)
    simp [isMark, h₁, h₂]
  · rfl
  · rfl

theorem no_point {c : Char} (h : c ∈ minus neg ++ whole) : (c != '.') = true := by
  rcases List.mem_append.mp h with h | h
  · cases neg <;> simp [minus] at h
    rw [h]
    rfl
  · simpa using digit_ne (hw c h) (by decide)

theorem takeWhile_whole :
    (minus neg ++ whole ++ pointed frac).takeWhile (· != '.') = minus neg ++ whole := by
  rw [List.takeWhile_append_of_pos fun c hc => no_point neg hw hf hc]
  have : (pointed frac).takeWhile (· != '.') = [] := by
    unfold pointed
    split <;> rfl
  rw [this, List.append_nil]

theorem dropWhile_frac :
    ((minus neg ++ whole ++ pointed frac).dropWhile (· != '.')).drop 1 = frac := by
  rw [List.dropWhile_append_of_pos fun c hc => no_point neg hw hf hc]
  unfold pointed
  split
  · next h => rw [List.isEmpty_iff.mp h]; rfl
  · rfl

theorem one_point : (minus neg ++ whole ++ pointed frac).filter (· == '.') = [] ∨
    (minus neg ++ whole ++ pointed frac).filter (· == '.') = ['.'] := by
  have h₁ : (minus neg ++ whole).filter (· == '.') = [] := by
    rw [List.filter_eq_nil_iff]
    intro c hc
    have := no_point neg hw hf hc
    simpa using this
  have h₂ : frac.filter (· == '.') = [] := by
    rw [List.filter_eq_nil_iff]
    intro c hc
    simpa using digit_ne (hf c hc) (by decide)
  rw [List.filter_append, h₁, List.nil_append]
  unfold pointed
  split
  · exact .inl rfl
  · refine .inr ?_
    show '.' :: frac.filter (· == '.') = _
    rw [h₂]

/-- **A text of digits, a point and digits reads as the number it spells.** -/
theorem parse_plain (hne : whole ≠ []) (hlen : frac.length ≤ 2 ^ 31) :
    parse (String.ofList (minus neg ++ whole ++ pointed frac)) =
      .ok ⟨if neg then -(Nat.ofDigitChars 10 (whole ++ frac) 0 : ℤ)
        else Nat.ofDigitChars 10 (whole ++ frac) 0, -frac.length⟩ := by
  have hd : ∀ c ∈ whole ++ frac, c.isDigit := fun c hc =>
    (List.mem_append.mp hc).elim (hw c) (hf c)
  have hr : -Int.pow 2 31 ≤ -(frac.length : ℤ) ∧ -(frac.length : ℤ) < Int.pow 2 31 := by
    have hlimit : Int.pow 2 31 = 2 ^ 31 := rfl
    omega
  have hcoeff := readCoeff?_minus neg (by simp [hne]) hd
  rw [← List.append_assoc] at hcoeff
  unfold parse
  simp only [String.toList_ofList]
  rw [plain_no_mark neg hw hf]
  show readMantissa _ (minus neg ++ whole ++ pointed frac) 0 = _
  unfold readMantissa
  rcases one_point neg hw hf with h | h <;>
    simp only [h, takeWhile_whole neg hw hf, dropWhile_frac neg hw hf, hcoeff, zero_sub,
      if_pos hr]

end

/-! ## the digits before and after the point -/

theorem splitDigits_of_lt {k n : ℕ} (h : k < (Nat.toDigits 10 n).length) :
    splitDigits k n = ((Nat.toDigits 10 n).take ((Nat.toDigits 10 n).length - k),
      (Nat.toDigits 10 n).drop ((Nat.toDigits 10 n).length - k)) := if_pos h

theorem splitDigits_of_le {k n : ℕ} (h : ¬ k < (Nat.toDigits 10 n).length) :
    splitDigits k n = (['0'],
      List.replicate (k - (Nat.toDigits 10 n).length) '0' ++ Nat.toDigits 10 n) := if_neg h

theorem splitDigits_digits (k n : ℕ) {c : Char}
    (h : c ∈ (splitDigits k n).1 ∨ c ∈ (splitDigits k n).2) : c.isDigit := by
  have hd : ∀ c ∈ Nat.toDigits 10 n, c.isDigit := fun c hc =>
    Nat.isDigit_of_mem_toDigits (by decide) (by decide) hc
  by_cases hk : k < (Nat.toDigits 10 n).length
  · rw [splitDigits_of_lt hk] at h
    rcases h with h | h
    · exact hd c (List.mem_of_mem_take h)
    · exact hd c (List.mem_of_mem_drop h)
  · rw [splitDigits_of_le hk] at h
    rcases h with h | h
    · rw [List.mem_singleton.mp h]; decide
    · rcases List.mem_append.mp h with h | h
      · rw [List.eq_of_mem_replicate h]; decide
      · exact hd c h

theorem splitDigits_whole_ne (k n : ℕ) : (splitDigits k n).1 ≠ [] := by
  by_cases hk : k < (Nat.toDigits 10 n).length
  · rw [splitDigits_of_lt hk]
    intro h0
    have hl := congrArg List.length h0
    rw [List.length_take, List.length_nil] at hl
    omega
  · rw [splitDigits_of_le hk]
    exact List.cons_ne_nil _ _

theorem splitDigits_frac_length (k n : ℕ) : (splitDigits k n).2.length = k := by
  by_cases hk : k < (Nat.toDigits 10 n).length
  · rw [splitDigits_of_lt hk, List.length_drop]; omega
  · rw [splitDigits_of_le hk, List.length_append, List.length_replicate]; omega

theorem splitDigits_value (k n : ℕ) :
    Nat.ofDigitChars 10 ((splitDigits k n).1 ++ (splitDigits k n).2) 0 = n := by
  by_cases hk : k < (Nat.toDigits 10 n).length
  · rw [splitDigits_of_lt hk, List.take_append_drop, Nat.ofDigitChars_ten_toDigits]
  · rw [splitDigits_of_le hk, List.singleton_append, Nat.ofDigitChars_cons,
      Nat.ofDigitChars_append]
    simp

/-- a further zero behind the coefficient is a further zero behind the point -/
theorem splitDigits_scale (k n : ℕ) :
    splitDigits (k + 1) (n * 10) = ((splitDigits k n).1, (splitDigits k n).2 ++ ['0']) := by
  rcases Nat.eq_zero_or_pos n with rfl | hn
  · cases k with
    | zero => rfl
    | succ k =>
      have h₁ : ¬ k + 1 < (Nat.toDigits 10 0).length := by simp
      have h₂ : ¬ k + 1 + 1 < (Nat.toDigits 10 0).length := by simp
      rw [Nat.zero_mul, splitDigits_of_le h₁, splitDigits_of_le h₂]
      simp [List.replicate_succ']
  · have hds : Nat.toDigits 10 (n * 10) = Nat.toDigits 10 n ++ ['0'] := by
      have h := Nat.toDigits_append_toDigits (b := 10) (d := 0) (by decide) hn (by decide)
      rw [Nat.toDigits_zero, Nat.add_zero, Nat.mul_comm] at h
      exact h.symm
    have hlen : (Nat.toDigits 10 (n * 10)).length = (Nat.toDigits 10 n).length + 1 := by
      rw [hds, List.length_append, List.length_singleton]
    by_cases hk : k < (Nat.toDigits 10 n).length
    · rw [splitDigits_of_lt hk, splitDigits_of_lt (by omega), hlen, Nat.add_sub_add_right, hds,
        List.take_append_of_le_length (by omega), List.drop_append_of_le_length (by omega)]
    · rw [splitDigits_of_le hk, splitDigits_of_le (by omega), hlen, Nat.add_sub_add_right, hds,
        List.append_assoc]

/-! ## the text of a coefficient -/

/-- the digits after the point without the zeros at their end -/
def trimmed (frac : List Char) : List Char := frac.rdropWhile (· == '0')

theorem plain_true_eq (k : ℕ) (n : ℤ) : plain true k n = String.ofList
    (minus (decide (n < 0)) ++ (splitDigits k n.natAbs).1 ++
      pointed (trimmed (splitDigits k n.natAbs).2)) := by
  unfold plain pointed minus trimmed List.rdropWhile
  simp only [if_true]
  by_cases hn : n < 0 <;> simp only [hn, decide_true, decide_false, if_true, if_false,
    Bool.false_eq_true] <;> split <;> simp

theorem plain_scale (k : ℕ) (n : ℤ) : plain true (k + 1) (n * 10) = plain true k n := by
  have hn : (n * 10).natAbs = n.natAbs * 10 := by rw [Int.natAbs_mul]; rfl
  have hneg : decide (n * 10 < 0) = decide (n < 0) := by
    by_cases h : n < 0
    · simp only [h, decide_true, decide_eq_true_eq]; omega
    · simp only [h, decide_false, decide_eq_false_iff_not]; omega
  rw [plain_true_eq, plain_true_eq, hn, hneg, splitDigits_scale]
  simp only [trimmed]
  rw [List.rdropWhile_concat_pos _ _ _ (by decide)]

theorem plain_scale_pow (k j : ℕ) (n : ℤ) : plain true (k + j) (n * 10 ^ j) = plain true k n := by
  induction j with
  | zero => simp
  | succ j ih => rw [pow_succ, ← mul_assoc, ← Nat.add_assoc, plain_scale, ih]

/-- the text may be taken at any number of places that suffices -/
theorem text_eq_plain {a : Decimal} {m : ℕ} (h : -(m : ℤ) ≤ a.exp) :
    a.text = plain true m (a.coeffAt (-m)) := by
  unfold text
  split
  · next h0 =>
    have hm : a.coeffAt (-m) = a.coeffAt 0 * 10 ^ m := by
      rw [coeffAt_mul, coeffAt_mul, mul_assoc, ← pow_add]
      congr 2
      omega
    rw [hm]
    have := plain_scale_pow 0 m (a.coeffAt 0)
    rw [Nat.zero_add] at this
    exact this.symm
  · obtain ⟨j, rfl⟩ : ∃ j, m = (-a.exp).toNat + j := ⟨(a.exp + m).toNat, by omega⟩
    have hc : a.coeffAt (-((-a.exp).toNat + j : ℕ)) = a.coeff * 10 ^ j := by
      rw [coeffAt_mul]
      congr 2
      omega
    rw [hc, plain_scale_pow]

/-- **Equal values have one text.** -/
theorem text_congr {a b : Decimal} (h : a.value = b.value) : a.text = b.text := by
  obtain ⟨m, ha, hb⟩ : ∃ m : ℕ, -(m : ℤ) ≤ a.exp ∧ -(m : ℤ) ≤ b.exp :=
    ⟨max (-a.exp).toNat (-b.exp).toNat, by omega, by omega⟩
  have hc : (a.coeffAt (-m) : ℚ) = b.coeffAt (-m) := by
    have := (coeffAt_value ha).trans (h.trans (coeffAt_value hb).symm)
    exact mul_right_cancel₀ (ten_zpow_pos _).ne' this
  rw [text_eq_plain ha, text_eq_plain hb, Int.cast_injective hc]

/-! ## reading a text back -/

theorem trimmed_append (frac : List Char) :
    ∃ k, frac = trimmed frac ++ List.replicate k '0' := by
  refine ⟨(frac.rtakeWhile (· == '0')).length, ?_⟩
  have h : frac.rtakeWhile (· == '0')
      = List.replicate (frac.rtakeWhile (· == '0')).length '0' := by
    rw [List.eq_replicate_iff]
    exact ⟨rfl, fun c hc => by simpa using List.mem_rtakeWhile_imp hc⟩
  rw [← h]
  exact List.rdropWhile_append_rtakeWhile.symm

/-- a plain text reads back as the number of its coefficient -/
theorem parse_plain_true {k : ℕ} (n : ℤ) (hk : k ≤ 2 ^ 31) :
    ∃ b : Decimal, parse (plain true k n) = .ok b ∧ b.value = n * (10 : ℚ) ^ (-(k : ℤ)) ∧
      -2 ^ 31 ≤ b.exp := by
  have hdig := fun c => splitDigits_digits k n.natAbs (c := c)
  have hne := splitDigits_whole_ne k n.natAbs
  have hlen := splitDigits_frac_length k n.natAbs
  have hval := splitDigits_value k n.natAbs
  rw [plain_true_eq]
  generalize (splitDigits k n.natAbs).1 = whole at *
  generalize (splitDigits k n.natAbs).2 = frac at *
  obtain ⟨z, hz⟩ := trimmed_append frac
  have hf : ∀ c ∈ trimmed frac, c.isDigit := fun c hc =>
    hdig c (.inr (by rw [hz]; exact List.mem_append_left _ hc))
  have hlen' : (trimmed frac).length + z = k := by
    rw [hz, List.length_append, List.length_replicate] at hlen
    exact hlen
  -- the zeros that were trimmed are a power of ten in the coefficient
  have hval' : Nat.ofDigitChars 10 (whole ++ trimmed frac) 0 * 10 ^ z = n.natAbs := by
    rw [hz, ← List.append_assoc, Nat.ofDigitChars_append, Nat.ofDigitChars_replicate_zero,
      Nat.mul_comm] at hval
    exact hval
  refine ⟨_, parse_plain (decide (n < 0)) (fun c hc => hdig c (.inl hc)) hf hne (by omega), ?_, ?_⟩
  · generalize Nat.ofDigitChars 10 (whole ++ trimmed frac) 0 = m at *
    have hn : ((if decide (n < 0) then -(m : ℤ) else m : ℤ) : ℚ) * 10 ^ z = n := by
      have : (if decide (n < 0) then -(m : ℤ) else m) * 10 ^ z = n := by
        have hm : (m : ℤ) * 10 ^ z = n.natAbs := by exact_mod_cast hval'
        by_cases h : n < 0
        · simp only [h, decide_true, if_true, neg_mul, hm]; omega
        · simp only [h, decide_false, Bool.false_eq_true, if_false, hm]; omega
      exact_mod_cast this
    have he : -((trimmed frac).length : ℤ) = z + -(k : ℤ) := by omega
    rw [← hn, mul_assoc, ← zpow_natCast, ← zpow_add₀ (by norm_num : (10 : ℚ) ≠ 0), ← he]
    rfl
  · show -2 ^ 31 ≤ -((trimmed frac).length : ℤ)
    omega

/-- **The text of a decimal reads back as a decimal of the same value.** -/
theorem parse_text {a : Decimal} (h : -2 ^ 31 ≤ a.exp) :
    ∃ b : Decimal, parse a.text = .ok b ∧ b.value = a.value ∧ -2 ^ 31 ≤ b.exp := by
  have ha : -((-a.exp).toNat : ℤ) ≤ a.exp := by omega
  obtain ⟨b, hb, hv, he⟩ := parse_plain_true (k := (-a.exp).toNat)
    (a.coeffAt (-((-a.exp).toNat : ℤ))) (by omega)
  rw [← text_eq_plain ha] at hb
  exact ⟨b, hb, hv.trans (coeffAt_value ha), he⟩

theorem exp_of_parse {s : String} {a : Decimal} (h : parse s = .ok a) : -2 ^ 31 ≤ a.exp := by
  have hm : ∀ (cs : List Char) (e : ℤ), readMantissa s cs e = .ok a → -2 ^ 31 ≤ a.exp := by
    intro cs e h
    unfold readMantissa at h
    split at h
    · simp at h
    · simp only at h
      split at h
      · simp at h
      · split at h
        · next hr =>
          rw [← Except.ok.inj h]
          exact hr.1
        · simp at h
  unfold parse at h
  simp only at h
  split at h
  · exact hm _ _ h
  · split at h
    · simp at h
    · simp at h
    · exact hm _ _ h

end OrderDesk.Decimal

namespace OrderDesk.Store

open Decimal (value)

/-- the text of a decimal does not start with a quote -/
theorem unquote_text (a : Decimal) : Cell.unquote a.text = a.text := by
  have ha : -((-a.exp).toNat : ℤ) ≤ a.exp := by omega
  rw [Decimal.text_eq_plain ha, Decimal.plain_true_eq]
  generalize hn : a.coeffAt (-((-a.exp).toNat : ℤ)) = n
  have hne := Decimal.splitDigits_whole_ne (-a.exp).toNat n.natAbs
  have hdig := fun c => Decimal.splitDigits_digits (-a.exp).toNat n.natAbs (c := c)
  generalize (Decimal.splitDigits (-a.exp).toNat n.natAbs).1 = whole at *
  obtain ⟨c, cs, rfl⟩ := List.exists_cons_of_ne_nil hne
  have hc : c ≠ '"' := Decimal.digit_ne (hdig c (.inl List.mem_cons_self)) (by decide)
  unfold Cell.unquote
  rw [String.toList_ofList]
  cases decide (n < 0) with
  | true => rfl
  | false =>
    simp only [Decimal.minus, Bool.false_eq_true, if_false, List.nil_append, List.cons_append]
    split
    · next h => exact absurd (List.cons.inj h).1 hc
    · rfl

/-- **A stored amount reads back as an amount of the same value.** -/
theorem amount?_text {a : Decimal} (h : -2 ^ 31 ≤ a.exp) :
    ∃ b : Decimal, (Cell.text a.text).amount? = some b ∧ b.value = a.value ∧ -2 ^ 31 ≤ b.exp := by
  obtain ⟨b, hb, hv, he⟩ := Decimal.parse_text h
  refine ⟨b, ?_, hv, he⟩
  show (Decimal.parse (Cell.unquote a.text)).toOption = some b
  rw [unquote_text, hb]
  rfl

theorem exp_of_amount? {s : String} {a : Decimal} (h : (Cell.text s).amount? = some a) :
    -2 ^ 31 ≤ a.exp := by
  have h : (Decimal.parse (Cell.unquote s)).toOption = some a := h
  cases hp : Decimal.parse (Cell.unquote s) with
  | error e => simp [hp, Except.toOption] at h
  | ok b =>
    rw [hp] at h
    obtain rfl : b = a := Option.some.inj h
    exact Decimal.exp_of_parse hp

end OrderDesk.Store
