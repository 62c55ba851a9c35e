import OrderDesk.Proofs.Desk.Steps
import OrderDesk.Proofs.Store.Sound
import Mathlib.Data.List.DropRight

/-!
# What the catalog takes

A draft that passed its check makes a product that the tables can hold.

* `Text.trim_trim`        trimming twice is trimming once;
* `checkName_ok_iff`      a name passes if it is not empty and short, once it is trimmed;
* `ProductDraft.sound_of_check`     a draft that passed makes a sound product.
-/

namespace OrderDesk

/-! ## trimming -/

namespace Text

/-- what is left starts with no blank, and ends with none -/
theorem trimChars_trimChars (cs : List Char) : trimChars (trimChars cs) = trimChars cs := by
  have hstart : (trimChars cs).dropWhile isBlank = trimChars cs := by
    rw [List.dropWhile_eq_self_iff]
    intro hpos
    -- the first character is that of the list without the blanks before it
    have hprefix : trimChars cs <+: cs.dropWhile isBlank :=
      List.rdropWhile_prefix isBlank _
    have hpos' : 0 < (cs.dropWhile isBlank).length := Nat.lt_of_lt_of_le hpos hprefix.length_le
    have hsame : (trimChars cs)[0] = (cs.dropWhile isBlank)[0] := hprefix.getElem hpos
    rw [hsame]
    exact List.dropWhile_get_zero_not isBlank cs hpos'
  show ((trimChars cs).dropWhile isBlank).rdropWhile isBlank = trimChars cs
  rw [hstart]
  exact List.rdropWhile_idempotent isBlank (cs.dropWhile isBlank)

theorem trim_trim (s : String) : trim (trim s) = trim s := by
  show String.ofList (trimChars (String.ofList (trimChars s.toList)).toList) = _
  rw [String.toList_ofList, trimChars_trimChars]
  rfl

end Text

namespace Desk

/-! ## drafts -/

theorem checkName_ok_iff {limit : Nat} {raw name : String} : checkName limit raw = .ok name ↔
    name = Text.trim raw ∧ name ≠ "" ∧ name.utf8ByteSize ≤ limit := by
  unfold checkName
  dsimp only
  split
  · next hblank =>
    constructor
    · intro h
      cases h
    · rintro ⟨rfl, hne, -⟩
      exact absurd hblank hne
  split
  · next hlong =>
    constructor
    · intro h
      cases h
    · rintro ⟨rfl, -, hshort⟩
      omega
  · next hne hshort =>
    constructor
    · intro h
      obtain rfl := Except.ok.inj h
      exact ⟨rfl, hne, not_lt.mp hshort⟩
    · rintro ⟨rfl, -⟩
      rfl

theorem checkName_ok {limit : Nat} {raw name : String} (h : checkName limit raw = .ok name) :
    IsName limit name := by
  obtain ⟨rfl, hne, hshort⟩ := checkName_ok_iff.mp h
  exact ⟨Text.trim_trim raw, hne, hshort⟩

/-- rounding to two places makes a price of what is not negative -/
theorem isPrice_round {a : Decimal} (h : a.isNegative = false) : (a.round 2).IsPrice := by
  have h0 : 0 ≤ a.value := by
    have hneg : ¬ a.value < 0 := fun hlt => by simp [Decimal.isNegative_iff.mpr hlt] at h
    exact not_lt.mp hneg
  rw [Decimal.IsPrice, Decimal.value_round]
  refine ⟨?_, Decimal.nearest (a.value * 10 ^ 2), by norm_num⟩
  have hn : 0 ≤ Decimal.nearest (a.value * 10 ^ 2) := Decimal.nearest_nonneg (by positivity)
  positivity

/-- **A draft that passed its check makes a sound product.** -/
theorem ProductDraft.sound_of_check {draft new : ProductDraft} (h : draft.check = .ok new)
    (id : Int) (created updated : Stamp) :
    Product.Sound ⟨id, new.name, new.price, new.stock, created, updated⟩ := by
  unfold ProductDraft.check at h
  cases hname : checkName 120 draft.name with
  | error f => simp [hname, bind, Except.bind] at h
  | ok name =>
    simp only [hname, bind, Except.bind] at h
    by_cases hprice : draft.price.isNegative = true
    · simp [hprice] at h
    by_cases hstock : draft.stock < 0
    · simp [hprice, hstock] at h
    rw [if_neg hprice, if_neg hstock] at h
    obtain rfl := Except.ok.inj h
    refine ⟨checkName_ok hname, isPrice_round (by simpa using hprice), ?_, by simpa using hstock⟩
    show -2 ^ 31 ≤ (draft.price.round 2).exp
    rw [Decimal.round_exp]
    decide

end Desk

end OrderDesk
