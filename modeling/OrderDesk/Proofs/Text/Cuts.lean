import OrderDesk.Proofs.Text.Octets
import Mathlib.Data.List.Infix

/-!
# Octets that are cut

What octets spell depends on few of those that follow. So octets can be cut in front of any octet
below 0x80, and if they are cut elsewhere, nothing but strays is left of the character at the cut.

* `lead_local`          a character depends on its own octets only;
* `lead_append`         an octet that is no tail ends every character in front of it;
* `lossy_append`        octets that are cut in front of an octet below 0x80;
* `lossy_take`          octets that are cut anywhere.
-/

namespace OrderDesk.Octets

/-- an octet above 0x7F that starts no character -/
theorem lead_tail {b : UInt8} (h : isTail b = true) (rest : Octets) : lead b rest = none := by
  simp only [isTail, Bool.and_eq_true, decide_eq_true_eq, UInt8.le_iff_toNat_le,
    UInt8.reduceToNat] at h
  simp only [lead, UInt8.lt_iff_toNat_lt, UInt8.le_iff_toNat_le, UInt8.reduceToNat,
    Bool.and_eq_true, decide_eq_true_eq]
  grind

theorem isTail_of_between {low high b : UInt8} (hl : 0x80 ≤ low) (hh : high ≤ 0xBF)
    (h : (low ≤ b && b ≤ high) = true) : isTail b = true := by
  simp only [isTail, Bool.and_eq_true, decide_eq_true_eq, UInt8.le_iff_toNat_le] at *
  omega

/-- **A character depends on its own octets only**, and all but the first of them are tails. -/
theorem lead_local {a : UInt8} {rest : Octets} {c : Char} {n : Nat}
    (h : lead a rest = some (c, n)) : n ≤ rest.length ∧ (∀ b ∈ rest.take n, isTail b = true) ∧
      ∀ rest', rest.take n <+: rest' → lead a rest' = some (c, n) := by
  unfold lead at h
  split at h
  case isTrue ha =>
    obtain ⟨rfl, rfl⟩ := Prod.mk.inj (Option.some.inj h)
    refine ⟨Nat.zero_le _, fun b hb => (nomatch hb), fun rest' _ => if_pos ha⟩
  case isFalse ha =>
  split at h
  case isTrue ha₂ =>
    cases rest with
    | nil => cases h
    | cons b rest =>
      obtain ⟨hb, h⟩ := Option.ite_none_right_eq_some.mp h
      obtain ⟨rfl, rfl⟩ := Prod.mk.inj (Option.some.inj h)
      refine ⟨by simp, by simpa using hb, fun rest' hp => ?_⟩
      obtain ⟨t, rfl⟩ := hp
      simp [lead, ha, ha₂, hb]
  case isFalse ha₂ =>
  split at h
  case isTrue ha₃ =>
    rcases rest with _ | ⟨b, _ | ⟨d, rest⟩⟩
    case nil => cases h
    case cons.nil => cases h
    case cons.cons =>
      obtain ⟨hb, h⟩ := Option.ite_none_right_eq_some.mp h
      obtain ⟨rfl, rfl⟩ := Prod.mk.inj (Option.some.inj h)
      have htails : isTail b = true ∧ isTail d = true := by
        rw [Bool.and_eq_true] at hb
        exact ⟨isTail_of_between (by split <;> decide) (by split <;> decide) hb.1, hb.2⟩
      refine ⟨by simp, by simpa using htails, fun rest' hp => ?_⟩
      obtain ⟨t, rfl⟩ := hp
      simp only [lead, if_neg ha, if_neg ha₂, if_pos ha₃, List.take_succ_cons, List.take_zero,
        List.cons_append, List.nil_append]
      exact if_pos hb
  case isFalse ha₃ =>
  split at h
  case isTrue ha₄ =>
    rcases rest with _ | ⟨b, _ | ⟨d, _ | ⟨e, rest⟩⟩⟩
    case nil => cases h
    case cons.nil => cases h
    case cons.cons.nil => cases h
    case cons.cons.cons =>
      obtain ⟨hb, h⟩ := Option.ite_none_right_eq_some.mp h
      obtain ⟨rfl, rfl⟩ := Prod.mk.inj (Option.some.inj h)
      have htails : isTail b = true ∧ isTail d = true ∧ isTail e = true := by
        rw [Bool.and_eq_true, Bool.and_eq_true] at hb
        exact ⟨isTail_of_between (by split <;> decide) (by split <;> decide) hb.1.1, hb.1.2, hb.2⟩
      refine ⟨by simp, by simpa using htails, fun rest' hp => ?_⟩
      obtain ⟨t, rfl⟩ := hp
      simp only [lead, if_neg ha, if_neg ha₂, if_neg ha₃, if_pos ha₄, List.take_succ_cons,
        List.take_zero, List.cons_append, List.nil_append]
      exact if_pos hb
  case isFalse => cases h

section
variable {a : UInt8} {rest rest' : Octets} {c : Char} {n : Nat}

/-- a character stays where octets are added at the end -/
theorem lead_mono (hp : rest <+: rest') (h : lead a rest = some (c, n)) :
    lead a rest' = some (c, n) :=
  (lead_local h).2.2 rest' ((List.take_prefix n rest).trans hp)

/-- what starts no character starts none after a cut -/
theorem lead_none_of_cut (hp : rest <+: rest') (h : lead a rest' = none) :
    lead a rest = none := by
  cases hcut : lead a rest with
  | none => rfl
  | some found => cases h.symm.trans (lead_mono hp hcut)

/-- An octet that is no tail ends every character in front of it. -/
theorem lead_append (a : UInt8) (bs : Octets) {o : UInt8} (ho : isTail o = false) (rest : Octets) :
    lead a (bs ++ o :: rest) = lead a bs := by
  cases hlong : lead a (bs ++ o :: rest) with
  | none => exact (lead_none_of_cut (List.prefix_append bs _) hlong).symm
  | some found =>
    obtain ⟨c, n⟩ := found
    obtain ⟨-, htails, hlocal⟩ := lead_local hlong
    -- either the character ends before the cut, or the octet after it would be a tail
    have hle : n ≤ bs.length := by
      by_contra hgt
      have hmem : o ∈ (bs ++ o :: rest).take n := by
        obtain ⟨k, rfl⟩ := Nat.exists_eq_add_of_lt (not_le.mp hgt)
        rw [Nat.add_assoc, List.take_length_add_append, List.take_succ_cons]
        simp
      rw [htails o hmem] at ho
      cases ho
    rw [List.take_append_of_le_length hle] at hlocal
    exact (hlocal bs (List.take_prefix n bs)).symm

/-- A cut that goes through a character leaves none there. -/
theorem lead_take_none {k : Nat} (h : lead a rest = some (c, n)) (hk : k < n) :
    lead a (rest.take k) = none := by
  cases hcut : lead a (rest.take k) with
  | none => rfl
  | some found =>
    obtain ⟨c', n'⟩ := found
    have hfull := h.symm.trans (lead_mono (List.take_prefix k rest) hcut)
    obtain ⟨-, rfl⟩ := Prod.mk.inj (Option.some.inj hfull)
    have hle := (lead_local hcut).1
    rw [List.length_take] at hle
    omega

end

/-- the stand-in for a stray octet -/
def stray : Char := Char.ofNat 0xFFFD

theorem lossy_nil : lossy [] = [] := by
  unfold lossy
  rw [decode]
  rfl

section
variable {a : UInt8} {rest : Octets} {c : Char} {n : Nat}

theorem lossy_some (h : lead a rest = some (c, n)) : lossy (a :: rest) = c :: lossy (rest.drop n) := by
  unfold lossy
  rw [decode, h]
  rfl

theorem lossy_none (h : lead a rest = none) : lossy (a :: rest) = stray :: lossy rest := by
  unfold lossy
  rw [decode, h]
  rfl

end

/-- tails on their own are strays -/
theorem lossy_tails {bs : Octets} (h : ∀ b ∈ bs, isTail b = true) :
    lossy bs = List.replicate bs.length stray := by
  induction bs with
  | nil => exact lossy_nil
  | cons b bs ih =>
    rw [lossy_none (lead_tail (h b List.mem_cons_self) bs),
      ih fun b hb => h b (List.mem_cons_of_mem _ hb)]
    rfl

/-- **Octets can be cut in front of an octet below 0x80**, since that is no tail. -/
theorem lossy_append (bs : Octets) {o : UInt8} (ho : o < 0x80) (rest : Octets) :
    lossy (bs ++ o :: rest) = lossy bs ++ lossy (o :: rest) := by
  have htail : isTail o = false := by
    simp only [isTail, Bool.and_eq_false_iff, decide_eq_false_iff_not, UInt8.not_le]
    exact .inl ho
  induction hn : bs.length using Nat.strongRecOn generalizing bs with
  | _ k ih =>
    cases bs with
    | nil => rw [lossy_nil]; rfl
    | cons a bs =>
      have ih : ∀ bs' : Octets, bs'.length ≤ bs.length →
          lossy (bs' ++ o :: rest) = lossy bs' ++ lossy (o :: rest) := fun bs' hlen =>
        ih bs'.length (by rw [← hn, List.length_cons]; omega) bs' rfl
      rw [List.cons_append]
      cases hlead : lead a bs with
      | some found =>
        obtain ⟨c, n⟩ := found
        have hle := (lead_local hlead).1
        rw [lossy_some hlead, lossy_some ((lead_append a bs htail rest).trans hlead),
          List.drop_append_of_le_length hle, ih _ (by rw [List.length_drop]; omega)]
        rfl
      | none =>
        rw [lossy_none hlead, lossy_none ((lead_append a bs htail rest).trans hlead), ih bs le_rfl]
        rfl

/-- **Octets that are cut anywhere** spell a part of what they spelled, and then strays. -/
theorem lossy_take (bs : Octets) (k : Nat) :
    ∃ cs j, cs <+: lossy bs ∧ lossy (bs.take k) = cs ++ List.replicate j stray := by
  induction hn : bs.length using Nat.strongRecOn generalizing bs k with
  | _ m ih =>
    match bs, k with
    | [], k => exact ⟨[], 0, List.nil_prefix, by rw [List.take_nil, lossy_nil]; rfl⟩
    | a :: bs, 0 => exact ⟨[], 0, List.nil_prefix, by rw [List.take_zero, lossy_nil]; rfl⟩
    | a :: bs, k + 1 =>
      have ih : ∀ (bs' : Octets) k, bs'.length ≤ bs.length →
          ∃ cs j, cs <+: lossy bs' ∧ lossy (bs'.take k) = cs ++ List.replicate j stray :=
        fun bs' k hlen => ih bs'.length (by rw [← hn, List.length_cons]; omega) bs' k rfl
      rw [List.take_succ_cons]
      cases hlead : lead a bs with
      | none =>
        have hcut := lead_none_of_cut (List.take_prefix k bs) hlead
        obtain ⟨cs, j, hcs, htake⟩ := ih bs k le_rfl
        refine ⟨stray :: cs, j, ?_, ?_⟩
        · rw [lossy_none hlead]
          exact List.cons_prefix_cons.mpr ⟨rfl, hcs⟩
        · rw [lossy_none hcut, htake]
          rfl
      | some found =>
        obtain ⟨c, n⟩ := found
        obtain ⟨hle, htails, hlocal⟩ := lead_local hlead
        by_cases hn : n ≤ k
        · have hcut := hlocal (bs.take k) (List.take_prefix_take_left hn)
          obtain ⟨cs, j, hcs, htake⟩ := ih (bs.drop n) (k - n) (by rw [List.length_drop]; omega)
          refine ⟨c :: cs, j, ?_, ?_⟩
          · rw [lossy_some hlead]
            exact List.cons_prefix_cons.mpr ⟨rfl, hcs⟩
          · rw [lossy_some hcut, List.drop_take, htake]
            rfl
        · -- the cut goes through the character: its first octet is a stray, and its tails are
          have hcut := lead_take_none hlead (not_le.mp hn)
          refine ⟨[], (bs.take k).length + 1, List.nil_prefix, ?_⟩
          rw [lossy_none hcut, lossy_tails fun b hb => htails b ?_]
          · rfl
          · exact (List.take_prefix_take_left (by omega)).subset hb

end OrderDesk.Octets
