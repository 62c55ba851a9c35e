import OrderDesk.Store.Tables

/-!
# Tables

What each change does to the look-up by id, and that a new row gets an id of its own.

* `id_lt_nextId`, `nextId_insert`          the next id is fresh and counts up;
* `nextId_erase_le`                        a removal does not make it greater;
* `get?_insert`, `get?_update`             the look-up after a change;
* `ids_update`                             a change of a row leaves the ids as they were;
* `count_id_eq_zero_iff`                   counting the rows with an id;
* `erase_of_count_eq_zero`                 removing nothing changes nothing;
* `Keyed`                                  ids are positive and unique, after every change;
* `Counted`                                every id was given out, after every change.
-/

set_option linter.unusedSectionVars false

namespace OrderDesk.Store.Table

variable {ρ : Type} [HasId ρ] {t : Table ρ}

/-! ## ids -/

theorem foldl_max_le (rows : List ρ) (m : Int) :
    m ≤ rows.foldl (fun m r => max m (HasId.id r)) m ∧
      ∀ r ∈ rows, HasId.id r ≤ rows.foldl (fun m r => max m (HasId.id r)) m := by
  induction rows generalizing m with
  | nil => simp
  | cons r rows ih =>
    obtain ⟨h₁, h₂⟩ := ih (max m (HasId.id r))
    rw [List.foldl_cons]
    refine ⟨by omega, ?_⟩
    intro x hx
    rcases List.mem_cons.mp hx with rfl | hx
    · omega
    · exact h₂ x hx

theorem id_lt_nextId {r : ρ} (h : r ∈ t.rows) : HasId.id r < t.nextId := by
  have := (foldl_max_le t.rows t.lastId).2 r h
  unfold nextId
  omega

theorem lastId_lt_nextId (t : Table ρ) : t.lastId < t.nextId := by
  have := (foldl_max_le t.rows t.lastId).1
  unfold nextId
  omega

/-- the next id is the least above what was given out and what is there -/
theorem nextId_le_iff {n : Int} :
    t.nextId ≤ n ↔ t.lastId < n ∧ ∀ r ∈ t.rows, HasId.id r < n := by
  constructor
  · intro h
    have hlast : t.lastId < t.nextId := t.lastId_lt_nextId
    refine ⟨by omega, fun r hr => ?_⟩
    have hid : HasId.id r < t.nextId := id_lt_nextId hr
    omega
  · rintro ⟨hlast, hrows⟩
    unfold nextId
    generalize t.lastId = m at hlast
    generalize t.rows = rows at hrows
    induction rows generalizing m with
    | nil => exact hlast
    | cons r rows ih =>
      have hid : HasId.id r < n := hrows r List.mem_cons_self
      have hmax : max m (HasId.id r) < n := by omega
      exact ih _ hmax fun x hx => hrows x (List.mem_cons_of_mem _ hx)

theorem nextId_erase_le (t : Table ρ) (p : ρ → Bool) : (t.erase p).nextId ≤ t.nextId := by
  refine nextId_le_iff.mpr ⟨t.lastId_lt_nextId, fun r hr => ?_⟩
  exact id_lt_nextId (List.mem_filter.mp hr).1

theorem nextId_insert {make : Int → ρ} (hm : HasId.id (make t.nextId) = t.nextId) :
    (t.insert make).nextId = t.nextId + 1 := by
  have hle : ∀ (rows : List ρ) (m : Int), (∀ r ∈ rows, HasId.id r ≤ m) →
      rows.foldl (fun m r => max m (HasId.id r)) m = m := by
    intro rows
    induction rows with
    | nil => intro m _; rfl
    | cons r rows ih =>
      intro m h
      have hr := h r List.mem_cons_self
      rw [List.foldl_cons, Int.max_eq_left hr]
      exact ih m fun x hx => h x (List.mem_cons_of_mem _ hx)
  show (t.rows ++ [make t.nextId]).foldl _ t.nextId + 1 = _
  rw [hle _ _ fun r hr => ?_]
  rcases List.mem_append.mp hr with hr | hr
  · exact Int.le_of_lt (id_lt_nextId hr)
  · have he : HasId.id r = t.nextId := by rw [List.mem_singleton.mp hr, hm]
    exact Int.le_of_eq he

/-! ## look-up -/

theorem get?_some {id : Int} {r : ρ} (h : t.get? id = some r) : r ∈ t.rows ∧ HasId.id r = id :=
  ⟨List.mem_of_find?_eq_some h, by simpa using List.find?_some h⟩

theorem get?_eq_none_iff {id : Int} : t.get? id = none ↔ ∀ r ∈ t.rows, HasId.id r ≠ id := by
  unfold get?
  rw [List.find?_eq_none]
  simp

/-- a row whose id no other has is found by it -/
theorem get?_of_mem {r : ρ} (hn : (t.rows.map HasId.id).Nodup) (h : r ∈ t.rows) :
    t.get? (HasId.id r) = some r := by
  unfold get?
  generalize t.rows = rows at *
  induction rows with
  | nil => simp at h
  | cons x rows ih =>
    rw [List.map_cons, List.nodup_cons] at hn
    rw [List.find?_cons]
    rcases List.mem_cons.mp h with rfl | h
    · simp
    · have hne : HasId.id x ≠ HasId.id r := fun e => hn.1 (e ▸ List.mem_map_of_mem h)
      have hb : (HasId.id x == HasId.id r) = false := by simpa using hne
      rw [hb]
      exact ih hn.2 h

theorem get?_insert_new {make : Int → ρ} (hm : HasId.id (make t.nextId) = t.nextId) :
    (t.insert make).get? t.nextId = some (make t.nextId) := by
  have hnone : t.rows.find? (HasId.id · == t.nextId) = none := by
    rw [List.find?_eq_none]
    intro r hr
    have := id_lt_nextId hr
    simp only [beq_iff_eq]
    omega
  show (t.rows ++ [make t.nextId]).find? _ = _
  rw [List.find?_append, hnone]
  simp [hm]

theorem get?_insert_old {make : Int → ρ} {id : Int} {r : ρ} (h : t.get? id = some r) :
    (t.insert make).get? id = some r := by
  show (t.rows ++ [make t.nextId]).find? _ = _
  rw [List.find?_append, show t.rows.find? _ = some r from h]
  rfl

theorem get?_insert_ne {make : Int → ρ} {j : Int} (hm : HasId.id (make t.nextId) = t.nextId)
    (hne : j ≠ t.nextId) : (t.insert make).get? j = t.get? j := by
  have hnew : ¬ HasId.id (make t.nextId) = j := by
    rw [hm]
    exact Ne.symm hne
  show (t.rows ++ [make t.nextId]).find? _ = t.rows.find? _
  rw [List.find?_append, List.find?_cons_of_neg (by simpa using hnew), List.find?_nil]
  exact Option.or_none

/-- the look-up after a change of a row that keeps its id -/
theorem get?_update {id j : Int} {f : ρ → ρ} (hf : ∀ r, HasId.id (f r) = HasId.id r) :
    (t.update id f).get? j = if j = id then (t.get? j).map f else t.get? j := by
  show (t.rows.map _).find? _ = _
  unfold get?
  induction t.rows with
  | nil => simp
  | cons r rows ih =>
    have hid : HasId.id (if HasId.id r == id then f r else r) = HasId.id r := by
      split
      · exact hf r
      · rfl
    rw [List.map_cons, List.find?_cons, List.find?_cons, hid, ih]
    by_cases hj : HasId.id r = j
    · subst hj
      by_cases hi : HasId.id r = id
      · simp [hi]
      · simp [hi]
    · have hb : (HasId.id r == j) = false := by simpa using hj
      simp only [hb]

theorem get?_update_ne {id j : Int} {f : ρ → ρ} (hf : ∀ r, HasId.id (f r) = HasId.id r)
    (hne : j ≠ id) : (t.update id f).get? j = t.get? j := by
  rw [get?_update hf, if_neg hne]

theorem ids_update {id : Int} {f : ρ → ρ} (hf : ∀ r, HasId.id (f r) = HasId.id r) :
    (t.update id f).rows.map HasId.id = t.rows.map HasId.id := by
  show (t.rows.map _).map _ = _
  rw [List.map_map]
  apply List.map_congr_left
  intro r _
  show HasId.id (if HasId.id r == id then f r else r) = _
  split
  · exact hf r
  · rfl

theorem mem_update {id : Int} {f : ρ → ρ} {r' : ρ} (h : r' ∈ (t.update id f).rows) :
    ∃ r ∈ t.rows, (HasId.id r = id ∧ r' = f r) ∨ (HasId.id r ≠ id ∧ r' = r) := by
  obtain ⟨r, hr, he⟩ := List.mem_map.mp h
  refine ⟨r, hr, ?_⟩
  by_cases hi : HasId.id r = id
  · exact .inl ⟨hi, by rw [← he, if_pos (by simpa using hi)]⟩
  · exact .inr ⟨hi, by rw [← he, if_neg (by simpa using hi)]⟩

/-! ## removal -/

theorem mem_erase {p : ρ → Bool} {r : ρ} : r ∈ (t.erase p).rows ↔ r ∈ t.rows ∧ p r = false := by
  show r ∈ t.rows.filter _ ↔ _
  rw [List.mem_filter]
  simp

theorem get?_erase_ne {id j : Int} (hne : j ≠ id) :
    (t.erase (HasId.id · == id)).get? j = t.get? j := by
  show (t.rows.filter _).find? _ = t.rows.find? _
  rw [List.find?_filter]
  congr 1
  funext r
  by_cases hr : HasId.id r = j
  · simp [hr, hne]
  · simp [hr]

theorem get?_erase_self (t : Table ρ) (id : Int) : (t.erase (HasId.id · == id)).get? id = none := by
  rw [get?_eq_none_iff]
  exact fun r hr => beq_eq_false_iff_ne.mp (mem_erase.mp hr).2

/-- no row has an id exactly if none is found by it -/
theorem count_id_eq_zero_iff {id : Int} : t.count (HasId.id · == id) = 0 ↔ t.get? id = none := by
  rw [get?_eq_none_iff]
  show ((t.rows.countP (HasId.id · == id) : Nat) : Int) = 0 ↔ _
  rw [Int.ofNat_eq_zero, List.countP_eq_zero]
  exact forall₂_congr fun r _ => by simp

theorem erase_of_count_eq_zero {p : ρ → Bool} (h : t.count p = 0) : t.erase p = t := by
  have h0 : t.rows.countP p = 0 := Int.ofNat_eq_zero.mp h
  have hf : t.rows.filter (!p ·) = t.rows := by
    rw [List.filter_eq_self]
    intro r hr
    have := List.countP_eq_zero.mp h0 r hr
    simpa using this
  show { t with rows := t.rows.filter (!p ·) } = t
  rw [hf]

/-! ## positive and unique ids -/

/-- Ids are positive and unique. -/
structure Keyed (t : Table ρ) : Prop where
  unique : (t.rows.map HasId.id).Nodup
  positive : ∀ r ∈ t.rows, 0 < HasId.id r
  counter : 0 ≤ t.lastId

namespace Keyed

theorem empty : Keyed ({} : Table ρ) where
  unique := List.nodup_nil
  positive := fun _ h => nomatch h
  counter := Int.le_refl 0

theorem insert {make : Int → ρ} (h : t.Keyed) (hm : HasId.id (make t.nextId) = t.nextId) :
    (t.insert make).Keyed where
  unique := by
    show ((t.rows ++ [make t.nextId]).map HasId.id).Nodup
    rw [List.map_append, List.map_singleton, hm, List.nodup_append]
    refine ⟨h.unique, List.pairwise_singleton _ _, ?_⟩
    intro a ha b hb
    obtain ⟨r, hr, rfl⟩ := List.mem_map.mp ha
    rw [List.mem_singleton.mp hb]
    exact Int.ne_of_lt (id_lt_nextId hr)
  positive := by
    intro r hr
    rcases List.mem_append.mp hr with hr | hr
    · exact h.positive r hr
    · rw [List.mem_singleton.mp hr, hm]
      have := lastId_lt_nextId t
      have := h.counter
      omega
  counter := by
    show 0 ≤ t.nextId
    have := lastId_lt_nextId t
    have := h.counter
    omega

theorem update {id : Int} {f : ρ → ρ} (h : t.Keyed) (hf : ∀ r, HasId.id (f r) = HasId.id r) :
    (t.update id f).Keyed where
  unique := by
    rw [ids_update hf]
    exact h.unique
  positive := by
    intro r hr
    obtain ⟨r₀, hr₀, ⟨-, rfl⟩ | ⟨-, rfl⟩⟩ := mem_update hr
    · rw [hf]
      exact h.positive r₀ hr₀
    · exact h.positive r hr₀
  counter := h.counter

theorem erase {p : ρ → Bool} (h : t.Keyed) : (t.erase p).Keyed where
  unique := h.unique.sublist (List.filter_sublist.map _)
  positive r hr := h.positive r (mem_erase.mp hr).1
  counter := h.counter

end Keyed

/-! ## ids that were given out -/

/-- Every id was given out. -/
def Counted (t : Table ρ) : Prop := ∀ r ∈ t.rows, HasId.id r ≤ t.lastId

namespace Counted

theorem empty : Counted ({} : Table ρ) := fun _ h => nomatch h

theorem insert {make : Int → ρ} (hm : HasId.id (make t.nextId) = t.nextId) :
    (t.insert make).Counted := by
  intro r hr
  show HasId.id r ≤ t.nextId
  rcases List.mem_append.mp hr with hr | hr
  · exact Int.le_of_lt (id_lt_nextId hr)
  · have hid : HasId.id r = t.nextId := by rw [List.mem_singleton.mp hr, hm]
    exact Int.le_of_eq hid

theorem update {id : Int} {f : ρ → ρ} (h : t.Counted) (hf : ∀ r, HasId.id (f r) = HasId.id r) :
    (t.update id f).Counted := by
  intro r hr
  show HasId.id r ≤ t.lastId
  obtain ⟨r₀, hr₀, ⟨-, rfl⟩ | ⟨-, rfl⟩⟩ := mem_update hr
  · rw [hf]
    exact h r₀ hr₀
  · exact h r hr₀

theorem erase {p : ρ → Bool} (h : t.Counted) : (t.erase p).Counted :=
  fun r hr => h r (mem_erase.mp hr).1

/-- the next id is the one after the greatest that was given out -/
theorem nextId_eq (h : t.Counted) : t.nextId = t.lastId + 1 := by
  have hle : t.nextId ≤ t.lastId + 1 := nextId_le_iff.mpr
    ⟨by omega, fun r hr => by have := h r hr; omega⟩
  have hlt := t.lastId_lt_nextId
  omega

end Counted

end OrderDesk.Store.Table
