import OrderDesk.Proofs.Store.Calls
import OrderDesk.Store.Repair
import Mathlib.Logic.Relation

/-!
# Rows by ascending id

The tables of the embedded engine keep their rows by ascending id, which is the order that a listing
shows them in. Nothing that can happen to a database changes that: no statement, no transaction that
is kept or undone, and no change by hand.

* `Table.Ordered`            rows by ascending id, after every change of a table;
* `Tables.answer_ordered`    after every statement;
* `Tables.setCell_ordered`   after a change by hand;
* `Database.Happens`         what can happen to a database;
* `Database.ordered_of_happens`      whatever happens.
-/

namespace OrderDesk.Store

/-! ## one table -/

namespace Table

variable {ρ : Type} [HasId ρ] {t t' : Table ρ} {id : Int}

def Ordered (t : Table ρ) : Prop := (t.rows.map HasId.id).Pairwise (· < ·)

instance (t : Table ρ) : Decidable t.Ordered := inferInstanceAs (Decidable (List.Pairwise _ _))

namespace Ordered

theorem empty : Ordered ({} : Table ρ) := List.Pairwise.nil

theorem nodup (h : t.Ordered) : (t.rows.map HasId.id).Nodup := h.imp Int.ne_of_lt

theorem insert {make : Int → ρ} (h : t.Ordered) (hm : HasId.id (make t.nextId) = t.nextId) :
    (t.insert make).Ordered := by
  show ((t.rows ++ [make t.nextId]).map HasId.id).Pairwise (· < ·)
  rw [List.map_append, List.map_singleton, hm, List.pairwise_append]
  refine ⟨h, List.pairwise_singleton _ _, ?_⟩
  intro a ha b hb
  obtain ⟨r, hr, rfl⟩ := List.mem_map.mp ha
  rw [List.mem_singleton.mp hb]
  exact id_lt_nextId hr

theorem update {f : ρ → ρ} (h : t.Ordered) (hf : ∀ r, HasId.id (f r) = HasId.id r) :
    (t.update id f).Ordered := by
  unfold Ordered
  rw [ids_update hf]
  exact h

theorem getD {slot : Option (Table ρ)} (h : ∀ t, slot = some t → t.Ordered) :
    (slot.getD {}).Ordered := by
  cases slot with
  | none => exact empty
  | some t => exact h t rfl

theorem erase {p : ρ → Bool} (h : t.Ordered) : (t.erase p).Ordered :=
  h.sublist (List.filter_sublist.map _)

theorem change (h : t.Ordered) (hc : t.Change t') : t'.Ordered := by
  cases hc with
  | same => exact h
  | insert hm => exact h.insert hm
  | update id hf => exact h.update hf
  | erase p => exact h.erase

theorem tryUpdate {f : ρ → Except Failure ρ} (h : t.Ordered)
    (hf : ∀ r r', f r = .ok r' → HasId.id r' = HasId.id r) (ht : t.tryUpdate id f = .ok t') :
    t'.Ordered := by
  unfold Table.tryUpdate at ht
  cases hget : t.get? id with
  | none =>
    rw [hget] at ht
    rw [← Except.ok.inj ht]
    exact h
  | some r =>
    rw [hget] at ht
    cases hr : f r with
    | error e => simp [hr, Except.map] at ht
    | ok r' =>
      simp only [hr, Except.map] at ht
      rw [← Except.ok.inj ht]
      -- the row that is put there has the id of the row that was found
      have hid : HasId.id r' = id := (hf r r' hr).trans (get?_some hget).2
      have hsame : (t.update id fun _ => r').rows.map HasId.id = t.rows.map HasId.id := by
        show (t.rows.map _).map _ = _
        rw [List.map_map]
        refine List.map_congr_left fun x _ => ?_
        show HasId.id (if HasId.id x == id then r' else x) = HasId.id x
        split
        · next hx => exact hid.trans (eq_of_beq hx).symm
        · rfl
      unfold Ordered
      rw [hsame]
      exact h

theorem renumber {name : String} {c : Cell} {put : ρ → Int → ρ} (h : t.Ordered)
    (hput : ∀ r n, HasId.id (put r n) = n) (ht : t.renumber name id c put = .ok t') :
    t'.Ordered := by
  unfold Table.renumber at ht
  split at ht
  · rw [← Except.ok.inj ht]
    exact h
  · cases ht
  · next r n _ _ =>
    split at ht
    · cases ht
    next hfree =>
    rw [← Except.ok.inj ht]
    set rows := put r n :: (t.erase (HasId.id · == id)).rows with hrows
    have hsorted : (rows.mergeSort fun a b => HasId.id a ≤ HasId.id b).Pairwise
        fun a b => HasId.id a ≤ HasId.id b := by
      refine (List.pairwise_mergeSort (fun a b c hab hbc => ?_) (fun a b => ?_) rows).imp
        of_decide_eq_true
      · simp only [decide_eq_true_eq] at hab hbc ⊢
        exact Int.le_trans hab hbc
      · simpa using Int.le_total (HasId.id a) (HasId.id b)
    have hnew : ∀ r' ∈ (t.erase (HasId.id · == id)).rows, HasId.id r' ≠ n := by
      intro r' hr' he
      obtain ⟨hmem, hne⟩ := mem_erase.mp hr'
      have hother : HasId.id r' ≠ id := by simpa using hne
      refine hfree ⟨he ▸ hother, ?_⟩
      rw [← he, get?_of_mem h.nodup hmem]
      rfl
    have hnodup : ((rows.mergeSort fun a b => HasId.id a ≤ HasId.id b).map HasId.id).Nodup := by
      refine ((List.mergeSort_perm rows _).map HasId.id).nodup_iff.mpr ?_
      rw [hrows, List.map_cons, hput, List.nodup_cons]
      refine ⟨fun hmem => ?_, (h.erase (p := (HasId.id · == id))).nodup⟩
      obtain ⟨r', hr', he⟩ := List.mem_map.mp hmem
      exact hnew r' hr' he
    exact ((List.pairwise_map.mpr hsorted).and hnodup).imp
      fun hle => Int.lt_iff_le_and_ne.mpr hle

end Ordered

end Table

/-! ## all tables -/

/-- The rows of every table are by ascending id. -/
structure Tables.Ordered (ts : Tables) : Prop where
  products : ∀ t, ts.products = some t → t.Ordered
  orders : ∀ t, ts.orders = some t → t.Ordered
  items : ∀ t, ts.items = some t → t.Ordered
  categories : ∀ t, ts.categories = some t → t.Ordered

namespace Tables

variable {ts ts' : Tables} {q : Statement} {r : Reply}

theorem Ordered.change (h : ts.Ordered) (hc : ts.Change ts') : ts'.Ordered where
  products t ht := by simpa [ht] using (Table.Ordered.getD h.products).change hc.products
  orders t ht := by simpa [ht] using (Table.Ordered.getD h.orders).change hc.orders
  items t ht := by simpa [ht] using (Table.Ordered.getD h.items).change hc.items
  categories t ht := by simpa [ht] using (Table.Ordered.getD h.categories).change hc.categories

/-- **A statement** leaves rows in order. -/
theorem answer_ordered (h : ts.Ordered) (ha : ts.answer q = .ok (r, ts')) : ts'.Ordered :=
  h.change (answer_change ha)

end Tables

/-! ## changes by hand -/

section
variable {ε α β : Type} {x : Except ε α} {b : β}

theorem bind_ok_iff {f : α → Except ε β} :
    x >>= f = .ok b ↔ ∃ a, x = .ok a ∧ f a = .ok b := by
  cases x <;> simp [bind, Except.bind]

theorem map_ok_iff {f : α → β} : x.map f = .ok b ↔ ∃ a, x = .ok a ∧ f a = b := by
  cases x <;> simp [Except.map]

end

section
variable {column : String} {c : Cell}

-- a column that is put by hand is not the one of ids
theorem ProductRow.put_id {r r' : ProductRow} (h : r.put column c = .ok r') : r'.id = r.id := by
  unfold ProductRow.put at h
  split at h
  case h_3 =>
    obtain ⟨v, -, h⟩ := bind_ok_iff.mp h
    split at h
    · cases h
    · cases h
      rfl
  case h_6 => cases h
  all_goals
    obtain ⟨v, -, rfl⟩ := map_ok_iff.mp h
    rfl

theorem OrderRow.put_id {r r' : OrderRow} (h : r.put column c = .ok r') : r'.id = r.id := by
  unfold OrderRow.put at h
  split at h
  case h_1 =>
    cases h
    rfl
  case h_6 => cases h
  all_goals
    obtain ⟨v, -, rfl⟩ := map_ok_iff.mp h
    rfl

theorem ItemRow.put_id {r r' : ItemRow} (h : r.put column c = .ok r') : r'.id = r.id := by
  unfold ItemRow.put at h
  split at h
  case h_7 => cases h
  all_goals
    obtain ⟨v, -, rfl⟩ := map_ok_iff.mp h
    rfl

theorem CategoryRow.put_id {r r' : CategoryRow} (h : r.put column c = .ok r') : r'.id = r.id := by
  unfold CategoryRow.put at h
  split at h
  case h_4 => cases h
  all_goals
    obtain ⟨v, -, rfl⟩ := map_ok_iff.mp h
    rfl

end

namespace Tables

variable {ts ts' : Tables} {name column : String} {id : Int} {c : Cell}

theorem table_ok_iff {ρ : Type} {slot : Option (Table ρ)} {t : Table ρ} :
    table name slot = .ok t ↔ slot = some t := by
  cases slot <;> simp [table]

theorem setId_ordered (h : ts.Ordered) (hs : ts.setId name id c = .ok ts') : ts'.Ordered := by
  simp only [setId] at hs
  split at hs
  case h_5 => cases hs
  all_goals
    obtain ⟨t, ht, hs⟩ := bind_ok_iff.mp hs
    obtain ⟨t', ht', hs⟩ := bind_ok_iff.mp hs
    cases hs
  · exact { h with products := fun _ he => Option.some.inj he ▸
      (h.products t (table_ok_iff.mp ht)).renumber (fun _ _ => rfl) ht' }
  · exact { h with orders := fun _ he => Option.some.inj he ▸
      (h.orders t (table_ok_iff.mp ht)).renumber (fun _ _ => rfl) ht' }
  · exact { h with items := fun _ he => Option.some.inj he ▸
      (h.items t (table_ok_iff.mp ht)).renumber (fun _ _ => rfl) ht' }
  · exact { h with categories := fun _ he => Option.some.inj he ▸
      (h.categories t (table_ok_iff.mp ht)).renumber (fun _ _ => rfl) ht' }

theorem putCell_ordered (h : ts.Ordered) (hs : ts.putCell name column id c = .ok ts') :
    ts'.Ordered := by
  unfold putCell at hs
  split at hs
  case h_5 => cases hs
  all_goals obtain ⟨t, ht, hs⟩ := bind_ok_iff.mp hs
  case h_1 =>
    obtain ⟨t', ht', hs⟩ := bind_ok_iff.mp hs
    cases hs
    exact { h with products := fun _ he => Option.some.inj he ▸
      (h.products t (table_ok_iff.mp ht)).tryUpdate (fun _ _ => ProductRow.put_id) ht' }
  case h_2 =>
    split at hs
    · cases hs
    obtain ⟨t', ht', hs⟩ := bind_ok_iff.mp hs
    cases hs
    exact { h with orders := fun _ he => Option.some.inj he ▸
      (h.orders t (table_ok_iff.mp ht)).tryUpdate (fun _ _ => OrderRow.put_id) ht' }
  case h_3 =>
    obtain ⟨t', ht', hs⟩ := bind_ok_iff.mp hs
    cases hs
    exact { h with items := fun _ he => Option.some.inj he ▸
      (h.items t (table_ok_iff.mp ht)).tryUpdate (fun _ _ => ItemRow.put_id) ht' }
  case h_4 =>
    split at hs
    · cases hs
    obtain ⟨t', ht', hs⟩ := bind_ok_iff.mp hs
    cases hs
    exact { h with categories := fun _ he => Option.some.inj he ▸
      (h.categories t (table_ok_iff.mp ht)).tryUpdate (fun _ _ => CategoryRow.put_id) ht' }

/-- **A change by hand** leaves rows in order. -/
theorem setCell_ordered (h : ts.Ordered) (hs : ts.setCell name column id c = .ok ts') :
    ts'.Ordered := by
  simp only [setCell] at hs
  split at hs
  · cases hs
  split at hs
  · cases hs
  split at hs
  · cases hs
  split at hs
  · cases hs
  split at hs
  · exact setId_ordered h hs
  · exact putCell_ordered h hs

theorem drop_ordered (h : ts.Ordered) (hs : ts.drop name = .ok ts') : ts'.Ordered := by
  simp only [drop] at hs
  split at hs
  case h_5 =>
    split at hs
    · cases hs
      exact { h with }
    · cases hs
  case h_6 | h_7 | h_8 => cases hs
  all_goals
    obtain ⟨_, -, rfl⟩ := map_ok_iff.mp hs
  · exact { h with products := nofun }
  · exact { h with orders := nofun }
  · exact { h with items := nofun }
  · exact { h with categories := nofun }

end Tables

/-! ## a database over time -/

namespace Database

/-- What can happen to a database: a statement, a transaction that begins, is kept or is undone, a
change by hand, and its end. -/
inductive Happens (db : Database) : Database → Prop
  | statement (q : Statement) : Happens db (db.answer q).2
  | begin {db'} (h : db.begin = .ok db') : Happens db db'
  | commit : Happens db db.commit.2
  | rollback : Happens db db.rollback.2
  | drop {name db'} (h : db.drop name = .ok db') : Happens db db'
  | setCell {name column id c db'} (h : db.setCell name column id c = .ok db') : Happens db db'
  | close : Happens db { db with closed := true }

/-- The rows of a database are in order, and so are those to return to. -/
def Ordered (db : Database) : Prop :=
  db.tables.Ordered ∧ ∀ ts, db.saved = some (.start ts) → ts.Ordered

theorem Happens.ordered {db db' : Database} (h : db.Happens db') (ho : db.Ordered) :
    db'.Ordered := by
  obtain ⟨hnow, hsaved⟩ := ho
  cases h with
  | statement q =>
    unfold answer
    split
    · exact ⟨hnow, hsaved⟩
    · split
      · next ha => exact ⟨Tables.answer_ordered hnow ha, hsaved⟩
      · next f _ =>
        rcases db.refuse_cases f with heq | ⟨-, ts, hs, heq⟩
        · rw [heq]
          exact ⟨hnow, hsaved⟩
        · rw [heq]
          exact ⟨hsaved ts hs, nofun⟩
  | begin h =>
    unfold Database.begin at h
    split at h
    · cases h
    · cases h
      exact ⟨hnow, fun ts he => Savepoint.start.inj (Option.some.inj he) ▸ hnow⟩
  | commit => exact ⟨hnow, nofun⟩
  | rollback =>
    unfold Database.rollback
    split
    · next ts hs => exact ⟨hsaved ts hs, nofun⟩
    · exact ⟨hnow, nofun⟩
    · exact ⟨hnow, hsaved⟩
  | drop h =>
    unfold Database.drop at h
    split at h
    · cases h
    · obtain ⟨ts, hts, rfl⟩ := map_ok_iff.mp h
      exact ⟨Tables.drop_ordered hnow hts, hsaved⟩
  | setCell h =>
    unfold Database.setCell at h
    split at h
    · cases h
    · obtain ⟨ts, hts, rfl⟩ := map_ok_iff.mp h
      exact ⟨Tables.setCell_ordered hnow hts, hsaved⟩
  | close => exact ⟨hnow, hsaved⟩

/-- **Whatever happens to a new database**, its rows stay in order. -/
theorem ordered_of_happens {db : Database} (h : Relation.ReflTransGen Happens {} db) :
    db.Ordered := by
  induction h with
  | refl => exact ⟨⟨nofun, nofun, nofun, nofun⟩, nofun⟩
  | tail _ hstep ih => exact hstep.ordered ih

end Database

end OrderDesk.Store
