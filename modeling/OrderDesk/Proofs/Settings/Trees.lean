import Mathlib.Data.List.Nodup
import OrderDesk.Settings.Tree

/-!
# Looking up settings

A tree of settings is looked up by name, one map after the other. What is found after one tree was
laid over another is what was found in them, the upper one first.

* `child?_putChild`          the children after one was put;
* `Orderly`                  no map has a name twice;
* `laid?`                    one finding laid over another;
* `child?_mergeChildren`     the children of maps laid over each other;
* `mention?`                 what is found under a section and a key;
* `Sectioned`                whatever lies in a section lies under a key of it;
* `mention?_mergeChildren`, `mention?_putText`      what is found after a layer or a text is laid
                             over.
-/

namespace OrderDesk.Settings

/-! ## children by name -/

/-- No name is used twice. -/
def Distinct (ms : List (String × Tree)) : Prop := (ms.map Prod.fst).Nodup

section
variable {ms us ls : List (String × Tree)} {name j k : String} {t u : Tree}

@[simp]
theorem child?_nil : child? name [] = none := rfl

theorem child?_cons : child? name ((k, t) :: ms) = if k = name then some t else child? name ms := rfl

theorem mem_of_child? (h : child? name ms = some t) : (name, t) ∈ ms := by
  induction ms with
  | nil => cases h
  | cons c ms ih =>
    obtain ⟨k, u⟩ := c
    rw [child?_cons] at h
    by_cases hk : k = name
    · rw [if_pos hk] at h
      rw [← hk, ← Option.some.inj h]
      exact List.mem_cons_self
    · rw [if_neg hk] at h
      exact List.mem_cons_of_mem _ (ih h)

theorem child?_eq_none_iff : child? name ms = none ↔ name ∉ ms.map Prod.fst := by
  induction ms with
  | nil => simp
  | cons c ms ih =>
    obtain ⟨k, u⟩ := c
    rw [child?_cons, List.map_cons, List.mem_cons, not_or]
    by_cases hk : k = name
    · simp [hk]
    · rw [if_neg hk, ih]
      exact ⟨fun h => ⟨Ne.symm hk, h⟩, fun h => h.2⟩

theorem child?_putChild : child? j (putChild k t ms) = if k = j then some t else child? j ms := by
  induction ms with
  | nil => rfl
  | cons c ms ih =>
    obtain ⟨i, u⟩ := c
    rw [putChild]
    by_cases hi : i = k
    · rw [if_pos hi, child?_cons, child?_cons, hi]
      split <;> rfl
    · rw [if_neg hi, child?_cons, child?_cons, ih]
      by_cases hij : i = j
      · have hkj : k ≠ j := by
          rintro rfl
          exact hi hij
        rw [if_pos hij, if_pos hij, if_neg hkj]
      · rw [if_neg hij, if_neg hij]

theorem mem_putChild {c : String × Tree} (h : c ∈ putChild k t ms) : c = (k, t) ∨ c ∈ ms := by
  induction ms with
  | nil => exact .inl (List.mem_singleton.mp h)
  | cons d ms ih =>
    obtain ⟨i, u⟩ := d
    rw [putChild] at h
    by_cases hi : i = k
    · rw [if_pos hi, hi] at h
      rcases List.mem_cons.mp h with rfl | h
      · exact .inl rfl
      · exact .inr (List.mem_cons_of_mem _ h)
    · rw [if_neg hi] at h
      rcases List.mem_cons.mp h with rfl | h
      · exact .inr List.mem_cons_self
      · exact (ih h).imp_right (List.mem_cons_of_mem _)

theorem putChild_ne_nil : putChild k t ms ≠ [] := by
  intro h
  have hput : child? k (putChild k t ms) = some t := child?_putChild.trans (if_pos rfl)
  rw [h] at hput
  cases hput

theorem names_putChild : (putChild k t ms).map Prod.fst
    = if k ∈ ms.map Prod.fst then ms.map Prod.fst else ms.map Prod.fst ++ [k] := by
  induction ms with
  | nil => rfl
  | cons c ms ih =>
    obtain ⟨i, u⟩ := c
    rw [putChild]
    by_cases hi : i = k
    · simp [hi]
    · rw [if_neg hi, List.map_cons, ih, List.map_cons]
      have hmem : k ∈ i :: ms.map Prod.fst ↔ k ∈ ms.map Prod.fst := by
        simp [Ne.symm hi]
      split
      · next h => rw [if_pos (hmem.mpr h)]
      · next h => rw [if_neg (h ∘ hmem.mp), List.cons_append]

theorem Distinct.putChild (h : Distinct ms) : Distinct (putChild k t ms) := by
  rw [Distinct, names_putChild]
  split
  · exact h
  · next hk => exact List.nodup_append.mpr ⟨h, List.nodup_singleton k, by
      intro a ha b hb hab
      rw [List.mem_singleton.mp hb] at hab
      exact hk (hab ▸ ha)⟩

/-! ## trees laid over each other -/

/-- one finding laid over another -/
def laid? : Option Tree → Option Tree → Option Tree
  | some u, some l => some (u.merge l)
  | some u, none => some u
  | none, l => l

/-- **The children of maps laid over each other** are those that were found, laid over each other. -/
theorem child?_mergeChildren (h : Distinct us) :
    child? name (mergeChildren us ls) = laid? (child? name us) (child? name ls) := by
  induction us generalizing ls with
  | nil => rw [mergeChildren]; rfl
  | cons c us ih =>
    obtain ⟨k, u⟩ := c
    have hdistinct : k ∉ us.map Prod.fst ∧ Distinct us := List.nodup_cons.mp h
    rw [mergeChildren, ih hdistinct.2, child?_putChild, child?_cons]
    by_cases hk : k = name
    · have hnone : child? name us = none := child?_eq_none_iff.mpr (hk ▸ hdistinct.1)
      rw [hnone, if_pos hk, if_pos hk, hk]
      cases child? name ls <;> rfl
    · rw [if_neg hk, if_neg hk]

theorem mergeChildren_nil (ls : List (String × Tree)) : mergeChildren [] ls = ls := by
  rw [mergeChildren]

theorem mergeChildren_ne_nil (h : ls ≠ []) : mergeChildren us ls ≠ [] := by
  induction us generalizing ls with
  | nil => rwa [mergeChildren_nil]
  | cons c us ih =>
    rw [mergeChildren]
    exact ih putChild_ne_nil

theorem eq_nil_of_mergeChildren (h : mergeChildren us ls = []) : us = [] := by
  cases us with
  | nil => rfl
  | cons c us =>
    rw [mergeChildren] at h
    exact absurd h (mergeChildren_ne_nil putChild_ne_nil)

theorem merge_map : (Tree.map us).merge (.map ls) = .map (mergeChildren us ls) := by
  rw [Tree.merge]

/-- a tree laid over another replaces it, unless both are maps -/
theorem merge_eq_or (u l : Tree) :
    u.merge l = u ∨ ∃ us ls, u = .map us ∧ l = .map ls ∧ u.merge l = .map (mergeChildren us ls) := by
  cases u with
  | map us =>
    cases l with
    | map ls => exact .inr ⟨us, ls, rfl, rfl, merge_map⟩
    | _ => exact .inl (by rw [Tree.merge]; nofun)
  | _ => exact .inl (by rw [Tree.merge]; nofun)

end

/-! ## sections -/

/-- No name is used twice, neither for a section nor in one. -/
structure Orderly (ms : List (String × Tree)) : Prop where
  sections : Distinct ms
  keys : ∀ c ∈ ms, ∀ us, c.2 = .map us → Distinct us

/-- what is found under a section and a key -/
def mention? (ms : List (String × Tree)) (heading key : String) : Option Tree :=
  match child? heading ms with
  | some (.map us) => child? key us
  | _ => none

/-- Where it is there, the section is a map. -/
def Sectioned (heading : String) (ms : List (String × Tree)) : Prop :=
  ∀ t, child? heading ms = some t → ∃ us, t = .map us

section
variable {ms us ls : List (String × Tree)} {heading key : String} {value : String}

theorem Orderly.nil : Orderly [] := ⟨List.nodup_nil, nofun⟩

theorem mention?_of_map (h : child? heading ms = some (.map us)) :
    mention? ms heading key = child? key us := by
  rw [mention?, h]

theorem mention?_of_none (h : child? heading ms = none) : mention? ms heading key = none := by
  rw [mention?, h]

/-- a section that is a map is there with its keys, or not at all -/
theorem Sectioned.cases (h : Sectioned heading ms) :
    child? heading ms = none ∨ ∃ us, child? heading ms = some (.map us) := by
  cases hc : child? heading ms with
  | none => exact .inl rfl
  | some t =>
    obtain ⟨us, rfl⟩ := h t hc
    exact .inr ⟨us, rfl⟩

/-- **What is found after one layer was laid over another** is what was found in them, the upper
one first. -/
theorem mention?_mergeChildren (ho : Orderly us) (hu : Sectioned heading us)
    (hl : Sectioned heading ls) : mention? (mergeChildren us ls) heading key
      = laid? (mention? us heading key) (mention? ls heading key) := by
  have hchild : child? heading (mergeChildren us ls)
      = laid? (child? heading us) (child? heading ls) := child?_mergeChildren ho.sections
  rcases hu.cases with hus | ⟨us', hus⟩ <;> rcases hl.cases with hls | ⟨ls', hls⟩ <;>
    rw [hus, hls] at hchild
  · rw [mention?_of_none hus, mention?_of_none hls, mention?_of_none hchild]
    rfl
  · rw [mention?_of_none hus, mention?_of_map hls, mention?_of_map hchild]
    rfl
  · rw [mention?_of_map hus, mention?_of_none hls, mention?_of_map hchild]
    cases child? key us' <;> rfl
  · have hdistinct : Distinct us' := ho.keys _ (mem_of_child? hus) us' rfl
    have hmerged : child? heading (mergeChildren us ls) = some (.map (mergeChildren us' ls')) := by
      rw [hchild, laid?, merge_map]
    rw [mention?_of_map hus, mention?_of_map hls, mention?_of_map hmerged,
      child?_mergeChildren hdistinct]

/-! ## texts under a path -/

theorem Distinct.putText (h : Distinct ms) (path : List String) :
    Distinct (putText value path ms) := by
  unfold Settings.putText
  split
  · exact h
  · exact h.putChild
  · split
    · exact h.putChild
    · exact h.putChild
    · exact h

/-- an empty map, or one without a name twice, is without one after a text was set -/
theorem Orderly.putText (h : Orderly ms) (path : List String) :
    Orderly (putText value path ms) := by
  refine ⟨h.sections.putText path, fun c hc us hus => ?_⟩
  unfold Settings.putText at hc
  split at hc
  · exact h.keys c hc us hus
  · rcases mem_putChild hc with rfl | hc
    · cases hus
    · exact h.keys c hc us hus
  · split at hc
    · rcases mem_putChild hc with rfl | hc
      · rw [← Tree.map.inj hus]
        have hnil : Distinct [] := List.nodup_nil
        exact hnil.putText _
      · exact h.keys c hc us hus
    · next hchild =>
      rcases mem_putChild hc with rfl | hc
      · rw [← Tree.map.inj hus]
        exact (h.keys _ (mem_of_child? hchild) _ rfl).putText _
      · exact h.keys c hc us hus
    · exact h.keys c hc us hus

/-- the section of a text, after it was set -/
theorem child?_putText (value key : String) (h : Sectioned heading ms) : ∃ us,
    putText value [heading, key] ms = putChild heading (.map (putChild key (.text value) us)) ms ∧
      ∀ j, mention? ms heading j = child? j us := by
  rcases h.cases with hnone | ⟨us, hus⟩
  · refine ⟨[], ?_, fun j => mention?_of_none hnone⟩
    rw [putText, hnone]
    · rfl
    · nofun
  · refine ⟨us, ?_, fun j => mention?_of_map hus⟩
    rw [putText, hus]
    · rfl
    · nofun

/-- **What is found after a text was set** is the text, and what was found elsewhere before. -/
theorem mention?_putText (h : Sectioned heading ms) (i j : String) :
    mention? (putText value [heading, key] ms) i j
      = if heading = i ∧ key = j then some (.text value) else mention? ms i j := by
  obtain ⟨us, hput, hbefore⟩ := child?_putText value key h
  rw [hput]
  by_cases hi : heading = i
  · subst hi
    have hchild : child? heading (putChild heading (.map (putChild key (.text value) us)) ms)
        = some (.map (putChild key (.text value) us)) := by
      rw [child?_putChild, if_pos rfl]
    rw [mention?_of_map hchild, child?_putChild, hbefore]
    simp only [true_and]
  · rw [if_neg fun hboth => hi hboth.1, mention?, child?_putChild, if_neg hi, mention?]

end

end OrderDesk.Settings
