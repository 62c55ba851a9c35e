import Mathlib.Tactic.IntervalCases
import OrderDesk.Proofs.Settings.Trees
import OrderDesk.Settings.Leaf

/-!
# Filling the settings leaf by leaf

Every leaf is a place of its own: what is put in it is found in it, and nothing else changes. So the
settings are filled with what the tree has for each leaf, whatever the order of the leaves.

* `values`, `values_set`     the values of all leaves, and what setting one does to them;
* `Apart`, `leaves_apart`    no leaf lies in another;
* `eq_of_leaves`             settings with the same leaves are the same;
* `Leaf.Filled`              what becomes of one leaf;
* `Leaf.fill?_some`, `foldlM_fill?`      one leaf is filled, and a list of leaves;
* `fill?_some`               all leaves are filled.
-/

namespace OrderDesk.Settings

/-! ## leaves as places -/

/-- Values of one kind. -/
def LeafValue.Alike : LeafValue → LeafValue → Prop
  | .text _, .text _ | .whole _, .whole _ | .span _, .span _ | .flag _, .flag _
  | .ratio _, .ratio _ | .texts _, .texts _ => True
  | _, _ => False

theorem LeafValue.Alike.refl (v : LeafValue) : v.Alike v := by cases v <;> trivial

/-- a value that is read is of the kind of the old one -/
theorem LeafValue.read?_alike {old v : LeafValue} {t : Tree} (h : old.read? t = some v) :
    v.Alike old := by
  unfold read? at h
  split at h
  · rw [← Option.some.inj h]
    exact .refl old
  · cases old
    all_goals
      obtain ⟨a, -, rfl⟩ := Option.map_eq_some_iff.mp h
      trivial

/-- the values of all leaves -/
def values (c : Settings) : List LeafValue := leaves.map (·.get c)

/-- **Setting a leaf changes its own value** and no other. -/
theorem values_set {i : Nat} (h : i < leaves.length) (c : Settings) {v : LeafValue}
    (hv : v.Alike (leaves[i].get c)) : values (leaves[i].set c v) = (values c).set i v := by
  have hlt : i < 45 := h
  -- a value of another kind is ruled out before the two lists are compared
  interval_cases i <;> cases v <;> first | exact hv.elim | rfl

/-- Neither of two leaves changes when the other one is set. -/
def Apart (l l' : Leaf) : Prop := ∀ c v, (v.Alike (l.get c) → l'.get (l.set c v) = l'.get c) ∧
  (v.Alike (l'.get c) → l.get (l'.set c v) = l.get c)

section
variable {c c' : Settings} {l : Leaf} {v : LeafValue} {root : List (String × Tree)}

theorem values_getElem {i : Nat} (h : i < leaves.length) (c : Settings) :
    (values c)[i]? = some (leaves[i].get c) := by
  rw [values, List.getElem?_map, List.getElem?_eq_getElem h]
  rfl

theorem get_set (hl : l ∈ leaves) (hv : v.Alike (l.get c)) : l.get (l.set c v) = v := by
  obtain ⟨i, hi, rfl⟩ := List.getElem_of_mem hl
  have hset := congrArg (·[i]?) (values_set hi c hv)
  have hlen : i < (values c).length := by rwa [values, List.length_map]
  rw [values_getElem hi, List.getElem?_set_self hlen] at hset
  exact Option.some.inj hset

theorem get_set_ne {i j : Nat} (hi : i < leaves.length) (hj : j < leaves.length) (hne : i ≠ j)
    (hv : v.Alike (leaves[i].get c)) : leaves[j].get (leaves[i].set c v) = leaves[j].get c := by
  have hset := congrArg (·[j]?) (values_set hi c hv)
  rw [values_getElem hj, List.getElem?_set_ne hne, values_getElem hj] at hset
  exact Option.some.inj hset

theorem leaves_apart : leaves.Pairwise Apart := by
  rw [List.pairwise_iff_getElem]
  intro i j hi hj hij c v
  exact ⟨get_set_ne hi hj (Nat.ne_of_lt hij), get_set_ne hj hi (Nat.ne_of_gt hij)⟩

/-- **Settings with the same leaves** are the same. -/
theorem eq_of_leaves (h : ∀ l ∈ leaves, l.get c = l.get c') : c = c' := by
  rcases c with ⟨⟨⟩, ⟨⟩, ⟨⟩, ⟨⟩, ⟨⟩, ⟨⟩, ⟨⟩, ⟨⟩, ⟨⟩, ⟨⟩, ⟨⟩, ⟨⟩, ⟨⟩⟩
  rcases c' with ⟨⟨⟩, ⟨⟩, ⟨⟩, ⟨⟩, ⟨⟩, ⟨⟩, ⟨⟩, ⟨⟩, ⟨⟩, ⟨⟩, ⟨⟩, ⟨⟩, ⟨⟩⟩
  simp only [leaves, textLeaf, wholeLeaf, spanLeaf, flagLeaf, List.forall_mem_cons,
    LeafValue.text.injEq, LeafValue.whole.injEq, LeafValue.span.injEq, LeafValue.flag.injEq,
    LeafValue.texts.injEq, LeafValue.ratio.injEq] at h
  simp only [h]

/-! ## filling -/

/-- What becomes of a leaf: it keeps its value when the tree has nothing for it, and else has what
the tree gives. -/
def Leaf.Filled (root : List (String × Tree)) (c c' : Settings) (l : Leaf) : Prop :=
  ∃ found, leafTree? l.heading l.key root = some found ∧
    match found with
    | none => l.get c' = l.get c
    | some t => (l.get c).read? t = some (l.get c')

/-- **One leaf is filled**, and the others stay as they are. -/
theorem Leaf.fill?_some (hl : l ∈ leaves) (h : l.fill? root c = some c') :
    l.Filled root c c' ∧ ∀ l', Apart l l' → l'.get c' = l'.get c := by
  unfold Leaf.fill? at h
  split at h
  · cases h
  · next hnone =>
    obtain rfl : c = c' := Option.some.inj h
    exact ⟨⟨none, hnone, rfl⟩, fun _ _ => rfl⟩
  · next t ht =>
    obtain ⟨v, hread, rfl⟩ := Option.map_eq_some_iff.mp h
    have hv : v.Alike (l.get c) := LeafValue.read?_alike hread
    refine ⟨⟨some t, ht, ?_⟩, fun l' hapart => (hapart c v).1 hv⟩
    rw [get_set hl hv]
    exact hread

/-- **Leaves that lie apart are all filled**, and those apart from them stay as they are. -/
theorem foldlM_fill? {ls : List Leaf} (hapart : ls.Pairwise Apart) (hls : ∀ l ∈ ls, l ∈ leaves)
    (h : ls.foldlM (Leaf.fill? root) c = some c') :
    (∀ l ∈ ls, l.Filled root c c') ∧ ∀ l', (∀ l ∈ ls, Apart l l') → l'.get c' = l'.get c := by
  induction ls generalizing c with
  | nil =>
    obtain rfl : c = c' := Option.some.inj h
    exact ⟨nofun, fun _ _ => rfl⟩
  | cons l ls ih =>
    rw [List.foldlM_cons] at h
    obtain ⟨c₁, hfill, hrest⟩ := Option.bind_eq_some_iff.mp h
    obtain ⟨hfirst, hothers⟩ := List.pairwise_cons.mp hapart
    obtain ⟨hfilled, hkept⟩ := Leaf.fill?_some (hls l List.mem_cons_self) hfill
    obtain ⟨hfilled', hkept'⟩ := ih hothers (fun l hl => hls l (List.mem_cons_of_mem _ hl)) hrest
    refine ⟨fun l' hl' => ?_, fun l' hl' => ?_⟩
    · rcases List.mem_cons.mp hl' with rfl | hl'
      · -- the leaves that come later leave this one alone
        have hstays : l'.get c' = l'.get c₁ :=
          hkept' l' fun l hl c v => ⟨(hfirst l hl c v).2, (hfirst l hl c v).1⟩
        obtain ⟨found, hfound, hvalue⟩ := hfilled
        exact ⟨found, hfound, by rwa [hstays]⟩
      · have hbefore : l'.get c₁ = l'.get c := hkept l' (hfirst l' hl')
        obtain ⟨found, hfound, hvalue⟩ := hfilled' l' hl'
        exact ⟨found, hfound, by rwa [hbefore] at hvalue⟩
    · rw [hkept' l' fun l hl => hl' l (List.mem_cons_of_mem _ hl)]
      exact hkept l' (hl' l List.mem_cons_self)

/-- **All leaves are filled.** -/
theorem fill?_some (h : fill? root c = some c') : ∀ l ∈ leaves, l.Filled root c c' :=
  (foldlM_fill? leaves_apart (fun _ hl => hl) h).1

end

end OrderDesk.Settings
