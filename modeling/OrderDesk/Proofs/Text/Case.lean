import Mathlib.Data.String.Basic
import OrderDesk.Proofs.Text.Octets
import OrderDesk.Text.Blank
import OrderDesk.Text.Case

/-!
# Letters in lower case

There are two lower cases: one of all letters, and one of the letters of ASCII only. They agree on
ASCII. What a letter beyond ASCII becomes stays as it is, and is never a mark of a pattern.

* `CaseRun.Has`             the members of a run;
* `lowerRuns_tame`          where the images of a run lie;
* `lowerRuns_apart`         no run has the image of a member of another;
* `lowerChar_of_ascii`      the two agree on ASCII;
* `lowerChar_lands`         what becomes of a letter beyond ASCII;
* `asciiLowerChar_idem`, `lowerChar_idem`      both are done after one turn;
* `utf8Len_asciiLower`, `utf8ByteSize_lower_le`      how many octets they take;
* `asciiLower_eq_iff`       texts that differ in the case of ASCII only;
* `trim_of_recased`         such texts are trimmed if one of them is.
-/

namespace OrderDesk.Text

/-! ## runs -/

/-- The members of a run. -/
def CaseRun.Has (r : CaseRun) (n : Nat) : Prop := r.1 ≤ n ∧ n ≤ r.2.1 ∧ (n - r.1) % r.2.2.1 = 0

theorem caseShift_of_lacks {runs : List CaseRun} {n : Nat} (h : ∀ r ∈ runs, ¬ CaseRun.Has r n) :
    caseShift runs n = 0 := by
  induction runs with
  | nil => rfl
  | cons r runs ih =>
    obtain ⟨first, last, step, shift⟩ := r
    have hlacks := h _ List.mem_cons_self
    unfold CaseRun.Has at hlacks
    rw [caseShift]
    split
    · next hin => exact if_neg fun hmod => hlacks ⟨hin.1, hin.2, hmod⟩
    · exact ih fun r hr => h r (List.mem_cons_of_mem _ hr)

/-- a distance is none, or that of a run with the number -/
theorem caseShift_cases (runs : List CaseRun) (n : Nat) :
    caseShift runs n = 0 ∨ ∃ r ∈ runs, CaseRun.Has r n ∧ caseShift runs n = r.2.2.2 := by
  induction runs with
  | nil => exact .inl rfl
  | cons r runs ih =>
    obtain ⟨first, last, step, shift⟩ := r
    rw [caseShift]
    split
    · next hin =>
      split
      · next hmod => exact .inr ⟨_, List.mem_cons_self, ⟨hin.1, hin.2, hmod⟩, rfl⟩
      · exact .inl rfl
    · rcases ih with hzero | ⟨r, hr, hhas, hshift⟩
      · exact .inl hzero
      · exact .inr ⟨r, List.mem_cons_of_mem _ hr, hhas, hshift⟩

/-- The images of a run are characters beyond ASCII, or the run has one member and its image is a
small letter of ASCII. -/
def CaseRun.Tame (r : CaseRun) : Prop :=
  (0x80 ≤ r.1 + r.2.2.2 ∧ (r.2.1 + r.2.2.2 < 0xD800 ∨
    0xDFFF < r.1 + r.2.2.2 ∧ r.2.1 + r.2.2.2 < 0x110000)) ∨
  (r.1 = r.2.1 ∧ 0x61 ≤ r.1 + r.2.2.2 ∧ r.1 + r.2.2.2 ≤ 0x7A)

instance (r : CaseRun) : Decidable r.Tame := inferInstanceAs (Decidable (_ ∨ _))

theorem lowerRuns_tame : ∀ r ∈ lowerRuns, CaseRun.Tame r := by decide +kernel

/-- No number from `low` to `high`, in twos if there are several, is a member of a run: they lie on
one side of it, or between its members. -/
def CaseRun.misses (low high : Nat) (sparse : Bool) (s : CaseRun) : Bool :=
  Nat.blt high s.1 || Nat.blt s.2.1 low || (s.2.2.1 == 2 && sparse && (low + s.1) % 2 == 1)

/-- No image of `r` is a member of `s`. -/
def CaseRun.apart (r s : CaseRun) : Bool :=
  s.misses (r.1 + r.2.2.2).toNat (r.2.1 + r.2.2.2).toNat (r.2.2.1 == 2 || r.1 == r.2.1)

theorem lowerRuns_apart : (lowerRuns.all fun r => lowerRuns.all fun s => CaseRun.apart r s) = true := by
  decide +kernel

theorem CaseRun.apart_lacks {r s : CaseRun} {n : Nat} (h : CaseRun.apart r s = true)
    (hpos : 0 ≤ r.1 + r.2.2.2) (hn : CaseRun.Has r n) : ¬ CaseRun.Has s (n + r.2.2.2).toNat := by
  obtain ⟨first, last, step, shift⟩ := r
  obtain ⟨first', last', step', shift'⟩ := s
  simp only [apart, misses, Has, Bool.or_eq_true, Bool.and_eq_true, Nat.blt_eq, beq_iff_eq]
    at h hpos hn ⊢
  rintro ⟨hlow, hhigh, hmod⟩
  obtain ⟨hfirst, hlast, hstep⟩ := hn
  rcases h with (h | h) | ⟨⟨rfl, rfl | rfl⟩, h⟩ <;> omega

/-! ## ASCII -/

section
variable {c : Char}

theorem asciiLowerChar_eq (c : Char) : asciiLowerChar c
    = if 0x41 ≤ c.toNat ∧ c.toNat ≤ 0x5A then Char.ofNat (c.toNat + 32) else c := rfl

theorem lowerChar_of_ascii (h : c.toNat < 0x80) : lowerChar c = asciiLowerChar c := if_pos h

theorem asciiLowerChar_of_not_capital (h : ¬ (0x41 ≤ c.toNat ∧ c.toNat ≤ 0x5A)) :
    asciiLowerChar c = c := if_neg h

theorem toNat_ofNat {n : Nat} (h : n < 0xD800 ∨ 0xDFFF < n ∧ n < 0x110000) :
    (Char.ofNat n).toNat = n := by
  rw [Char.ofNat, dif_pos h]
  rfl

theorem toNat_asciiLowerChar (h : 0x41 ≤ c.toNat ∧ c.toNat ≤ 0x5A) :
    (asciiLowerChar c).toNat = c.toNat + 32 := by
  rw [asciiLowerChar_eq, if_pos h, toNat_ofNat (by omega)]

theorem asciiLowerChar_idem (c : Char) : asciiLowerChar (asciiLowerChar c) = asciiLowerChar c := by
  by_cases h : 0x41 ≤ c.toNat ∧ c.toNat ≤ 0x5A
  · have hnat := toNat_asciiLowerChar h
    exact asciiLowerChar_of_not_capital (by omega)
  · rw [asciiLowerChar_of_not_capital h]
    exact asciiLowerChar_of_not_capital h

/-- what is no letter of ASCII is made of itself only -/
theorem asciiLowerChar_eq_iff {d : Char}
    (hd : d.toNat < 0x41 ∨ 0x5A < d.toNat ∧ d.toNat < 0x61 ∨ 0x80 ≤ d.toNat) :
    asciiLowerChar c = d ↔ c = d := by
  by_cases h : 0x41 ≤ c.toNat ∧ c.toNat ≤ 0x5A
  · have hnat := toNat_asciiLowerChar h
    constructor <;> rintro rfl <;> omega
  · rw [asciiLowerChar_of_not_capital h]

theorem lowerChar_asciiLowerChar (h : c.toNat < 0x80) :
    lowerChar (asciiLowerChar c) = asciiLowerChar c := by
  have hascii : (asciiLowerChar c).toNat < 0x80 := by
    by_cases hc : 0x41 ≤ c.toNat ∧ c.toNat ≤ 0x5A
    · rw [toNat_asciiLowerChar hc]
      omega
    · rwa [asciiLowerChar_of_not_capital hc]
  rw [lowerChar_of_ascii hascii, asciiLowerChar_idem]

/-! ## beyond ASCII -/

theorem lowerChar_eq (h : 0x80 ≤ c.toNat) :
    lowerChar c = Char.ofNat (c.toNat + caseShift lowerRuns c.toNat).toNat := if_neg (by omega)

/-- **A letter beyond ASCII** becomes one that stays as it is, beyond ASCII or small. -/
theorem lowerChar_lands (h : 0x80 ≤ c.toNat) :
    (0x80 ≤ (lowerChar c).toNat ∧ caseShift lowerRuns (lowerChar c).toNat = 0) ∨
    (0x61 ≤ (lowerChar c).toNat ∧ (lowerChar c).toNat ≤ 0x7A) := by
  rw [lowerChar_eq h]
  rcases caseShift_cases lowerRuns c.toNat with hzero | ⟨r, hr, hhas, hshift⟩
  · rw [hzero, Int.add_zero, Int.toNat_natCast, Char.ofNat_toNat]
    exact .inl ⟨h, hzero⟩
  · have htame := lowerRuns_tame r hr
    have hmem := hhas
    unfold CaseRun.Tame at htame
    unfold CaseRun.Has at hmem
    have hnat : (Char.ofNat (c.toNat + r.2.2.2).toNat).toNat = (c.toNat + r.2.2.2).toNat :=
      toNat_ofNat (by omega)
    rw [hshift, hnat]
    rcases htame with ⟨hlow, -⟩ | hletter
    · refine .inl ⟨by omega, caseShift_of_lacks fun s hs => ?_⟩
      have hapart := List.all_eq_true.mp (List.all_eq_true.mp lowerRuns_apart r hr) s hs
      exact CaseRun.apart_lacks hapart (by omega) hhas
    · exact .inr (by omega)

/-- a mark is made of itself only -/
theorem lowerChar_eq_iff {d : Char} (hd : d.toNat < 0x41 ∨ 0x5A < d.toNat ∧ d.toNat < 0x61) :
    lowerChar c = d ↔ c = d := by
  by_cases h : c.toNat < 0x80
  · rw [lowerChar_of_ascii h]
    exact asciiLowerChar_eq_iff (hd.imp_right .inl)
  · have hlands := lowerChar_lands (Nat.le_of_not_lt h)
    constructor <;> rintro rfl <;> omega

theorem asciiLowerChar_lowerChar (c : Char) : asciiLowerChar (lowerChar c) = lowerChar c := by
  by_cases h : c.toNat < 0x80
  · rw [lowerChar_of_ascii h, asciiLowerChar_idem]
  · have hlands := lowerChar_lands (Nat.le_of_not_lt h)
    exact asciiLowerChar_of_not_capital (by omega)

theorem lowerChar_idem (c : Char) : lowerChar (lowerChar c) = lowerChar c := by
  by_cases h : c.toNat < 0x80
  · rw [lowerChar_of_ascii h, lowerChar_asciiLowerChar h]
  · rcases lowerChar_lands (Nat.le_of_not_lt h) with ⟨hbeyond, hzero⟩ | hletter
    · rw [lowerChar_eq hbeyond, hzero, Int.add_zero, Int.toNat_natCast, Char.ofNat_toNat]
    · rw [lowerChar_of_ascii (by omega)]
      exact asciiLowerChar_of_not_capital (by omega)

end

/-! ## octets -/

theorem utf8Size_asciiLowerChar (c : Char) : (asciiLowerChar c).utf8Size = c.utf8Size := by
  by_cases h : 0x41 ≤ c.toNat ∧ c.toNat ≤ 0x5A
  · have hnat := toNat_asciiLowerChar h
    have hone : ∀ d : Char, d.toNat ≤ 0x7F → d.utf8Size = 1 := fun d hd =>
      Char.utf8Size_eq_one_iff.mpr hd
    rw [hone c (by omega), hone _ (by omega)]
  · rw [asciiLowerChar_of_not_capital h]

/-- without the case of ASCII a text has as many octets as with it -/
theorem utf8Len_asciiLower (cs : List Char) :
    String.utf8Len (cs.map asciiLowerChar) = String.utf8Len cs := by
  induction cs with
  | nil => rfl
  | cons c cs ih =>
    rw [List.map_cons, String.utf8Len_cons, String.utf8Len_cons, ih, utf8Size_asciiLowerChar]

theorem utf8ByteSize_eq (s : String) : s.utf8ByteSize = String.utf8Len s.toList := by
  rw [← String.utf8ByteSize_ofList, String.ofList_toList]

theorem utf8ByteSize_lower_of_ascii {s : String} (h : ∀ c ∈ s.toList, c.toNat < 0x80) :
    (lower s).utf8ByteSize = s.utf8ByteSize := by
  rw [lower, String.utf8ByteSize_ofList, utf8ByteSize_eq s,
    List.map_congr_left fun c hc => lowerChar_of_ascii (h c hc), utf8Len_asciiLower]

/-- the lower case of a text may take more octets, but no more than four times as many -/
theorem utf8ByteSize_lower_le (s : String) : (lower s).utf8ByteSize ≤ 4 * s.utf8ByteSize := by
  have hlist : ∀ cs : List Char,
      String.utf8Len (cs.map lowerChar) ≤ 4 * String.utf8Len cs := fun cs => by
    induction cs with
    | nil => exact Nat.le_refl 0
    | cons c cs ih =>
      have hfour := (lowerChar c).utf8Size_le_four
      have hpos := c.utf8Size_pos
      rw [List.map_cons, String.utf8Len_cons, String.utf8Len_cons]
      omega
  rw [utf8ByteSize_eq s, lower, String.utf8ByteSize_ofList]
  exact hlist s.toList

/-! ## texts in another case -/

section
variable {a b : String}

theorem asciiLower_eq_iff : asciiLower a = asciiLower b ↔
    a.toList.map asciiLowerChar = b.toList.map asciiLowerChar := by
  rw [asciiLower, asciiLower, String.ofList_inj]

theorem utf8ByteSize_of_recased (h : asciiLower a = asciiLower b) :
    a.utf8ByteSize = b.utf8ByteSize := by
  rw [utf8ByteSize_eq, utf8ByteSize_eq, ← utf8Len_asciiLower, asciiLower_eq_iff.mp h,
    utf8Len_asciiLower]

/-- no letter is a blank -/
theorem isBlank_asciiLowerChar (c : Char) : isBlank (asciiLowerChar c) = isBlank c := by
  by_cases h : 0x41 ≤ c.toNat ∧ c.toNat ≤ 0x5A
  · have hnat := toNat_asciiLowerChar h
    have hletter : ∀ d : Char, 0x21 ≤ d.toNat → d.toNat < 0x85 → isBlank d = false := by
      intro d hlow hhigh
      simp only [isBlank, Bool.or_eq_false_iff, Bool.and_eq_false_iff, decide_eq_false_iff_not,
        beq_eq_false_iff_ne]
      omega
    rw [hletter c (by omega) (by omega), hletter _ (by omega) (by omega)]
  · rw [asciiLowerChar_of_not_capital h]

theorem trimChars_sublist (cs : List Char) : (trimChars cs).Sublist cs := by
  have hback := (List.dropWhile_sublist isBlank (l := (cs.dropWhile isBlank).reverse)).reverse
  rw [List.reverse_reverse] at hback
  exact hback.trans (List.dropWhile_sublist isBlank)

theorem trimChars_map (cs : List Char) :
    trimChars (cs.map asciiLowerChar) = (trimChars cs).map asciiLowerChar := by
  have hsame : isBlank ∘ asciiLowerChar = isBlank := funext isBlank_asciiLowerChar
  unfold trimChars
  rw [List.dropWhile_map, hsame, ← List.map_reverse, List.dropWhile_map, hsame, ← List.map_reverse]

/-- **A trimmed text is trimmed in any case of its letters.** -/
theorem trim_of_recased (h : asciiLower a = asciiLower b) (hb : trim b = b) : trim a = a := by
  have hlower := asciiLower_eq_iff.mp h
  have htrimmed : trimChars b.toList = b.toList :=
    String.toList_ofList.symm.trans (congrArg String.toList hb)
  have hlength : (trimChars a.toList).length = a.toList.length := calc
    (trimChars a.toList).length
      = (trimChars (a.toList.map asciiLowerChar)).length := by rw [trimChars_map, List.length_map]
    _ = (trimChars b.toList).length := by rw [hlower, trimChars_map, List.length_map]
    _ = b.toList.length := by rw [htrimmed]
    _ = a.toList.length := by rw [← List.length_map, ← hlower, List.length_map]
  rw [trim, (trimChars_sublist a.toList).eq_of_length hlength, String.ofList_toList]

end

end OrderDesk.Text
