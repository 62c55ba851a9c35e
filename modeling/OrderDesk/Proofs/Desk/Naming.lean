import OrderDesk.Proofs.Desk.Conservation
import OrderDesk.Proofs.Store.Categories

/-!
# The names of categories

The service asks the engine whether a name is in use before it saves a category, in one transaction.
The names stay apart over every run of calls, and a clash is told as a conflict. But the index knows
less of a name with a NUL than the service asks about, and can refuse it though it is not in use.

* `saveCategory_ok`, `saveCategory_undone`      what a save made of the table, or left as it was;
* `saveCategory_ends`       how a save of a fit name ends when nothing is out of order;
* `LabelFailure`            every way in which a save can fail then;
* `Request.OnCategories`    the calls on categories;
* `Roster.performed`, `Roster.after`        one such call, and a run of them;
* `categories_stay_apart`   names, conflicts and listings after every run.
-/

namespace OrderDesk.Desk

open Store.Categories (Filing)
open Store (Backend Database Table CategoryRow Clashes Indexed Starts Relabels Labelled inside)

/-! ## saving a category -/

theorem checkName_error {limit : Nat} {raw : String} {f : Failure}
    (h : checkName limit raw = .error f) : ∃ why, f = .cause (.validation "name" why) := by
  unfold checkName at h
  dsimp only at h
  split at h
  · exact ⟨_, (Except.error.inj h).symm⟩
  split at h
  · exact ⟨_, (Except.error.inj h).symm⟩
  · cases h

section
variable {d d' : Desk} {db : Database} {t : Table CategoryRow} {id : Int} {c : Category}
  {raw name : String} (hs : d.store = .embedded db) (hdb : Filing db t)

include hs hdb

theorem categoryToSave_ok_iff {now : Stamp} :
    categoryToSave id now d = (.ok c, d') ↔ d' = d ∧ Starts now t id c := by
  unfold categoryToSave Starts
  by_cases h0 : id = 0
  · rw [if_pos h0]
    simp [h0, eq_comm, and_comm]
  · have hsame : { d with store := .embedded db } = d := by rw [← hs]
    rw [if_neg h0, onStore_eq_iff, hs]
    simp only [Store.Categories.get_ok_iff hdb]
    constructor
    · rintro ⟨b, ⟨rfl, hr⟩, rfl⟩
      exact ⟨hsame, .inr ⟨h0, hr⟩⟩
    · rintro ⟨rfl, ⟨h, -⟩ | ⟨-, hr⟩⟩
      · exact absurd h h0
      · exact ⟨_, ⟨rfl, hr⟩, hsame.symm⟩

/-- once there is something to save, a name that clashes is a conflict -/
theorem nameCategory_of_start (hstart : categoryToSave id d.clock.utc d = (.ok c, d))
    (hout : d.outages.lookup .nameTaken = none) : nameCategory id name d =
      if Clashes t name id then (.failed (.cause (.conflict "category" "name" name)), d)
      else stored .saveCategory
        (Store.Categories.save { c with name, updatedAt := d.clock.utc }) d := by
  have htaken : stored .nameTaken (Store.Categories.nameTaken name id) d
      = (.ok (decide (Clashes t name id)), d) := by
    refine stored_ok_iff.mpr ⟨hout, .embedded db, ?_, by rw [← hs]⟩
    rw [hs]
    exact Store.Categories.nameTaken_eq hdb name id
  unfold nameCategory
  rw [Action.bind_of_ok now_apply, Action.bind_of_ok hstart, Action.bind_of_ok htaken]
  by_cases hclash : Clashes t name id <;> simp [hclash]

theorem nameCategory_ok (hkeyed : t.Keyed) (h : nameCategory id name d = (.ok c, d')) :
    ¬ Indexed t name id ∧ ∃ t', Relabels d.clock.utc name t id c t' ∧
      d' = { d with store := .embedded (db.refiled t') } := by
  have hrun := h
  unfold nameCategory at hrun
  rw [Action.bind_of_ok now_apply] at hrun
  obtain ⟨c₀, d₁, hstart, hrun⟩ := Action.bind_ok_iff.mp hrun
  obtain ⟨taken, d₂, htaken, -⟩ := Action.bind_ok_iff.mp hrun
  obtain ⟨rfl, hstarts⟩ := (categoryToSave_ok_iff hs hdb).mp hstart
  rw [nameCategory_of_start hs hdb hstart (stored_ok_iff.mp htaken).1] at h
  split at h
  · cases h
  · obtain ⟨-, b, hsave, rfl⟩ := stored_ok_iff.mp h
    rw [hs] at hsave
    obtain ⟨hfree, t', hlabel, rfl⟩ :=
      (Store.Categories.save_ok_iff hdb hkeyed hstarts).mp hsave
    exact ⟨hfree, t', hlabel, rfl⟩

variable (hrest : db.saved = none)

include hrest

/-- **A save that went through** gave a fit name that the index lacked. -/
theorem saveCategory_ok (hkeyed : t.Keyed) (h : saveCategory id raw d = (.ok c, d')) :
    IsName 100 (Text.trim raw) ∧ ¬ Indexed t (Text.trim raw) id ∧
      ∃ t', Relabels d.clock.utc (Text.trim raw) t id c t' ∧
        d'.store = .embedded (db.refiled t') := by
  obtain ⟨name, d₁, hname, -⟩ := Action.bind_ok_iff.mp h
  have hname := (Action.ofExcept_ok_iff.mp hname).1
  obtain rfl := (checkName_ok_iff.mp hname).1
  rw [saveCategory_of_name hname] at h
  obtain ⟨-, -, d₂, ts, hbody, hts, rfl⟩ := transaction_ok (nameCategory_works _ _) hs hrest h
  obtain ⟨hfree, t', hlabel, rfl⟩ := nameCategory_ok rfl hdb.inside hkeyed hbody
  have htables : ({ db.tables with categories := some t' } : Store.Tables) = ts :=
    congrArg Database.tables (Backend.embedded.inj hts)
  exact ⟨checkName_ok hname, hfree, t', hlabel, by rw [← htables]; rfl⟩

omit hdb

theorem saveCategory_undone (h : ∀ c, (saveCategory id raw d).1 ≠ .ok c) :
    (saveCategory id raw d).2.store = d.store := by
  cases hname : checkName 100 raw with
  | error f =>
    unfold saveCategory
    rw [hname]
    rfl
  | ok name =>
    rw [saveCategory_of_name hname] at h ⊢
    exact transaction_undone (nameCategory_works id name) hs hrest h

end

/-! ## how a save ends -/

section
variable {d : Desk} {db : Database} {t : Table CategoryRow} {id : Int} {raw name : String}
  (hs : d.store = .embedded db) (hdb : Filing db t) (hrest : db.saved = none) (hlab : Labelled t)
  (hout : d.outages = []) (hname : checkName 100 raw = .ok name)

include hs hdb hrest hout hname

/-- a save ends as its body does, if that leaves the transaction open -/
theorem saveCategory_outcome {o : Outcome Category} {d₁ : Desk} {ts : Store.Tables}
    (h : nameCategory id name { d with store := .embedded (inside db db.tables) } = (o, d₁))
    (hts : d₁.store = .embedded (inside db ts)) : (saveCategory id raw d).1 = o := by
  rw [saveCategory_of_name hname]
  have hend : (transaction (nameCategory id name) d).1 = _ :=
    transaction_outcome (by rw [hout]; rfl) hs hrest hdb.isOpen (by rw [h]; exact hts)
  rw [hend, h]

theorem saveCategory_missing (h0 : id ≠ 0) (hget : t.get? id = none) :
    (saveCategory id raw d).1 = .failed (.cause (Store.Categories.missing id)) := by
  have hread : categoryToSave id d.clock.utc { d with store := .embedded (inside db db.tables) }
      = (.failed (.cause (Store.Categories.missing id)),
        { d with store := .embedded (inside db db.tables) }) := by
    unfold categoryToSave
    rw [if_neg h0]
    exact onStore_eq_iff.mpr ⟨_, Store.Categories.get_missing hdb.inside hget, rfl⟩
  have hbody : nameCategory id name { d with store := .embedded (inside db db.tables) } = _ :=
    (Action.bind_of_ok now_apply).trans (Action.bind_of_failed hread)
  exact saveCategory_outcome hs hdb hrest hout hname hbody rfl

include hlab

omit hs hrest hname in
/-- in its transaction a category that is new or there is saved, unless its name clashes -/
theorem nameCategory_there (name : String) (hthere : id = 0 ∨ (t.get? id).isSome) :
    ∃ c, Starts d.clock.utc t id c ∧
      (Clashes t name id → nameCategory id name { d with store := .embedded (inside db db.tables) }
        = (.failed (.cause (.conflict "category" "name" name)),
          { d with store := .embedded (inside db db.tables) })) ∧
      ∀ o b, ¬ Clashes t name id → Store.Categories.save { c with name, updatedAt := d.clock.utc }
          (.embedded (inside db db.tables)) = (o, b) →
        nameCategory id name { d with store := .embedded (inside db db.tables) }
          = (o, { d with store := b }) := by
  obtain ⟨c, hstart⟩ : ∃ c, Starts d.clock.utc t id c := hlab.starts hthere
  have hread : categoryToSave id d.clock.utc { d with store := .embedded (inside db db.tables) }
      = (.ok c, { d with store := .embedded (inside db db.tables) }) :=
    (categoryToSave_ok_iff rfl hdb.inside).mpr ⟨rfl, hstart⟩
  have hrun : nameCategory id name { d with store := .embedded (inside db db.tables) } = _ :=
    nameCategory_of_start rfl hdb.inside hread (by rw [hout]; rfl)
  have hreach : reach .saveCategory { d with store := .embedded (inside db db.tables) }
      = (.ok (), { d with store := .embedded (inside db db.tables) }) :=
    reach_ok_iff.mpr ⟨by rw [hout]; rfl, rfl⟩
  refine ⟨c, hstart, fun hclash => hrun.trans (if_pos hclash), fun o b hfree hsave => ?_⟩
  rw [hrun, if_neg hfree]
  exact (Action.bind_of_ok hreach).trans (onStore_eq_iff.mpr ⟨b, hsave, rfl⟩)

theorem saveCategory_clashes (hthere : id = 0 ∨ (t.get? id).isSome) (hclash : Clashes t name id) :
    (saveCategory id raw d).1 = .failed (.cause (.conflict "category" "name" name)) := by
  obtain ⟨c, -, hend, -⟩ := nameCategory_there (d := d) hdb hlab hout name hthere
  exact saveCategory_outcome hs hdb hrest hout hname (hend hclash) rfl

theorem saveCategory_full (h0 : id = 0) (hfree : ¬ Clashes t name id) (hfull : 2 ^ 63 ≤ t.nextId) :
    (saveCategory id raw d).1
      = .failed (Store.unended (.within "insert category" Store.idsExhausted)) := by
  obtain ⟨c, hstart, -, hend⟩ := nameCategory_there (d := d) hdb hlab hout name (.inl h0)
  have hbody := hend _ _ hfree (Store.Categories.save_full hdb.inside hstart h0 hfull)
  have htx : transaction (nameCategory id name) d = _ :=
    transaction_of_forsaken (by rw [hout]; rfl) hs hrest hdb.isOpen hbody rfl
  rw [saveCategory_of_name hname, htx]

theorem saveCategory_refused (hthere : id = 0 ∨ (t.get? id).isSome) (hfree : ¬ Clashes t name id)
    (hroom : id = 0 → t.nextId < 2 ^ 63) (htaken : Indexed t name id) : (saveCategory id raw d).1
      = .failed (.within (Store.Categories.saving id) (Store.notUnique "categories.name")) := by
  obtain ⟨c, hstart, -, hend⟩ := nameCategory_there (d := d) hdb hlab hout name hthere
  exact saveCategory_outcome hs hdb hrest hout hname (hend _ _ hfree
    (Store.Categories.save_refused hdb.inside hlab.keyed hstart hroom htaken)) rfl

theorem saveCategory_goes (hthere : id = 0 ∨ (t.get? id).isSome) (hfree : ¬ Indexed t name id)
    (hroom : id = 0 → t.nextId < 2 ^ 63) : ∃ c, (saveCategory id raw d).1 = .ok c := by
  obtain ⟨c, hstart, -, hend⟩ := nameCategory_there (d := d) hdb hlab hout name hthere
  obtain ⟨c', t', hlabel⟩ := hstart.relabels hroom
  have hsave := (Store.Categories.save_ok_iff hdb.inside hlab.keyed hstart).mpr
    ⟨hfree, t', hlabel, rfl⟩
  exact ⟨c', saveCategory_outcome hs hdb hrest hout hname
    (hend _ _ (fun h => hfree h.indexed) hsave) rfl⟩

end

/-- Why a category is not saved under a name when nothing is out of order. -/
inductive LabelFailure (t : Table CategoryRow) (id : Int) (name : String) : Failure → Prop
  | unfit (why : Reason) : LabelFailure t id name (.cause (.validation "name" why))
  | missing : LabelFailure t id name (.cause (Store.Categories.missing id))
  | inUse : LabelFailure t id name (.cause (.conflict "category" "name" name))
  | refused (hfree : ¬ Clashes t name id) (htaken : Indexed t name id) : LabelFailure t id name
      (.within (Store.Categories.saving id) (Store.notUnique "categories.name"))
  | full : LabelFailure t id name
      (Store.unended (.within "insert category" Store.idsExhausted))

/-- the index is the cause of a failure only where it has a name that does not clash -/
theorem LabelFailure.by_index {t : Table CategoryRow} {id : Int} {name : String} {f : Failure}
    {c : Cause} (h : LabelFailure t id name f) (hc : c ∈ f.causes)
    (hindex : .cause c = Store.notUnique "categories.name") :
    ¬ Clashes t name id ∧ Indexed t name id := by
  cases h with
  | refused hfree htaken => exact ⟨hfree, htaken⟩
  | full =>
    -- neither the want of an id nor the transaction that is gone is of that cause
    rcases List.mem_pair.mp (show c ∈ [_, _] from hc) with rfl | rfl <;>
      exact absurd hindex (by decide)
  | unfit | missing | inUse =>
    rw [List.mem_singleton.mp (show c ∈ [_] from hc)] at hindex
    cases hindex

section
variable {d : Desk} {db : Database} {t : Table CategoryRow} {id : Int} {raw : String}
  (hs : d.store = .embedded db) (hdb : Filing db t) (hrest : db.saved = none) (hlab : Labelled t)
  (hout : d.outages = [])

include hs hdb hrest hlab hout

/-- **How a save of a fit name ends**, of a new category or of one that is there. -/
theorem saveCategory_ends (hne : Text.trim raw ≠ "") (hshort : (Text.trim raw).utf8ByteSize ≤ 100)
    (hthere : id = 0 ∨ (t.get? id).isSome) : (quietly (saveCategory id raw) d).1 =
      if Clashes t (Text.trim raw) id then
        .failed (.cause (.conflict "category" "name" (Text.trim raw)))
      else if id = 0 ∧ 2 ^ 63 ≤ t.nextId then
        .failed (Store.unended (.within "insert category" Store.idsExhausted))
      else if Indexed t (Text.trim raw) id then
        .failed (.within (Store.Categories.saving id) (Store.notUnique "categories.name"))
      else .ok () := by
  have hname : checkName 100 raw = .ok (Text.trim raw) := checkName_ok_iff.mpr ⟨rfl, hne, hshort⟩
  by_cases hclash : Clashes t (Text.trim raw) id
  · rw [if_pos hclash]
    exact quietly_fails_iff.mpr (saveCategory_clashes hs hdb hrest hlab hout hname hthere hclash)
  rw [if_neg hclash]
  by_cases hfull : id = 0 ∧ 2 ^ 63 ≤ t.nextId
  · rw [if_pos hfull]
    exact quietly_fails_iff.mpr
      (saveCategory_full hs hdb hrest hlab hout hname hfull.1 hclash hfull.2)
  rw [if_neg hfull]
  have hroom : id = 0 → t.nextId < 2 ^ 63 := fun h0 => not_le.mp fun hle => hfull ⟨h0, hle⟩
  by_cases htaken : Indexed t (Text.trim raw) id
  · rw [if_pos htaken]
    exact quietly_fails_iff.mpr
      (saveCategory_refused hs hdb hrest hlab hout hname hthere hclash hroom htaken)
  · rw [if_neg htaken]
    obtain ⟨c, hc⟩ := saveCategory_goes hs hdb hrest hlab hout hname hthere htaken hroom
    exact quietly_of_ok hc

theorem saveCategory_failure {f : Failure} (h : (saveCategory id raw d).1 = .failed f) :
    LabelFailure t id (Text.trim raw) f := by
  cases hname : checkName 100 raw with
  | error f₁ =>
    have hrun : (saveCategory id raw d).1 = .failed f₁ := by
      unfold saveCategory
      rw [hname]
      rfl
    obtain rfl := Outcome.failed.inj (hrun.symm.trans h)
    obtain ⟨why, rfl⟩ := checkName_error hname
    exact .unfit why
  | ok name =>
    by_cases hthere : id = 0 ∨ (t.get? id).isSome
    · obtain ⟨rfl, hne, hshort⟩ := checkName_ok_iff.mp hname
      have hend := saveCategory_ends hs hdb hrest hlab hout hne hshort hthere
      rw [quietly_fails_iff.mpr h] at hend
      split at hend
      · exact Outcome.failed.inj hend ▸ .inUse
      split at hend
      · exact Outcome.failed.inj hend ▸ .full
      split at hend
      · next hfree _ htaken => exact Outcome.failed.inj hend ▸ .refused hfree htaken
      · cases hend
    · obtain ⟨h0, hget⟩ := not_or.mp hthere
      have hmissing := saveCategory_missing hs hdb hrest hout hname h0
        (Option.not_isSome_iff_eq_none.mp hget)
      exact Outcome.failed.inj (hmissing.symm.trans h) ▸ .missing

/-- **A category takes its own name** with other letters of ASCII in capitals. -/
theorem renameCategory_recased {r : CategoryRow} (hr : r ∈ t.rows)
    (hcase : Text.asciiLower raw = Text.asciiLower r.name) :
    ∃ c, (renameCategory r.id raw d).1 = .ok c ∧ c.name = raw := by
  have hfit := hlab.named r hr
  have htrim : Text.trim raw = raw := Text.trim_of_recased hcase hfit.trimmed
  have hsize : raw.utf8ByteSize = r.name.utf8ByteSize := Text.utf8ByteSize_of_recased hcase
  have hname : checkName 100 raw = .ok raw := by
    refine checkName_ok_iff.mpr ⟨htrim.symm, fun hempty => hfit.nonempty ?_, hsize ▸ hfit.short⟩
    rw [hempty] at hsize
    exact String.utf8ByteSize_eq_zero_iff.mp hsize.symm
  have hown : Store.sameName raw r.name = true :=
    Store.sameName_of_folded_eq (Store.folded_eq_iff.mpr hcase)
  have hfree : ¬ Indexed t raw r.id := fun ⟨r', hr', hsame, hid⟩ =>
    hid (hlab.apart r' hr' r hr (Store.sameName_trans hsame hown))
  have hget : t.get? r.id = some r := Table.get?_of_mem hlab.keyed.unique hr
  have hpos : r.id ≠ 0 := (hlab.keyed.positive r hr).ne'
  obtain ⟨c, hc⟩ := saveCategory_goes hs hdb hrest hlab hout hname
    (.inr (Option.isSome_of_eq_some hget)) hfree fun h0 => absurd h0 hpos
  obtain ⟨-, -, t', hlabel, -⟩ :=
    saveCategory_ok hs hdb hrest hlab.keyed (Action.apply_of_outcome hc)
  exact ⟨c, hc, hlabel.name_eq.trans htrim⟩

omit hrest hlab hout

theorem deleteCategory_failure {f : Failure} (h : (deleteCategory id d).1 = .failed f) :
    f = .cause (Store.Categories.missing id) := by
  replace h : (Store.Categories.delete id d.store).1 = .failed f := h
  rw [hs] at h
  cases hget : t.get? id with
  | none =>
    rw [Store.Categories.delete_missing hdb hget] at h
    exact (Outcome.failed.inj h).symm
  | some r =>
    rw [Store.Categories.delete_there hdb (Option.isSome_of_eq_some hget)] at h
    cases h

end

/-! ## runs on categories -/

/-- The call saves or deletes a category, or it only looks. -/
def Request.OnCategories : Request → Prop
  | .change (.createCategory _) | .change (.renameCategory ..) | .change (.deleteCategory _)
  | .look _ => True
  | _ => False

/-- the category that a call saves and the name it is to have; the id zero is that of a new one -/
def Operation.label? : Operation → Option (Int × String)
  | .createCategory raw => some (0, raw)
  | .renameCategory id raw => some (id, raw)
  | _ => none

theorem Operation.perform_of_label {op : Operation} {id : Int} {raw : String}
    (h : op.label? = some (id, raw)) : op.perform = quietly (saveCategory id raw) := by
  cases op <;> cases h <;> rfl

/-- An open engine at rest with names that are apart, which gave out at most `n` ids. -/
def Roster (n : Nat) (b : Backend) : Prop :=
  ∃ db t, b = .embedded db ∧ Filing db t ∧ db.saved = none ∧ Labelled t ∧ t.nextId ≤ n + 1

namespace Roster

variable {n : Nat} {b : Backend} {d : Desk}

theorem fresh : Roster 0 Store.fresh :=
  ⟨_, {}, Store.fresh_eq, ⟨rfl, rfl⟩, rfl, .empty, by decide⟩

theorem saved (h : Roster n d.store) (hclock : d.clock.utc.InCalendar) (id : Int) (raw : String) :
    Roster (n + 1) (saveCategory id raw d).2.store := by
  obtain ⟨db, t, hs, hdb, hrest, hlab, hn⟩ := h
  by_cases hok : ∃ c, (saveCategory id raw d).1 = .ok c
  · obtain ⟨c, hc⟩ := hok
    obtain ⟨hname, hfree, t', hlabel, hs'⟩ :=
      saveCategory_ok hs hdb hrest hlab.keyed (Action.apply_of_outcome hc)
    have hlab' := hlab.relabels hname hfree (Store.time?_stored hclock) hlabel
    have hnext := hlab.nextId_le hlab' hlabel
    exact ⟨_, t', hs', ⟨hdb.isOpen, rfl⟩, hrest, hlab', by push_cast; omega⟩
  · rw [saveCategory_undone hs hrest fun c hc => hok ⟨c, hc⟩]
    exact ⟨db, t, hs, hdb, hrest, hlab, by push_cast; omega⟩

theorem deleted (h : Roster n d.store) (id : Int) :
    Roster (n + 1) (deleteCategory id d).2.store := by
  obtain ⟨db, t, hs, hdb, hrest, hlab, hn⟩ := h
  show Roster (n + 1) (Store.Categories.delete id d.store).2
  rw [hs]
  cases hget : t.get? id with
  | none =>
    rw [Store.Categories.delete_missing hdb hget]
    exact ⟨db, t, rfl, hdb, hrest, hlab, by push_cast; omega⟩
  | some r =>
    rw [Store.Categories.delete_there hdb (Option.isSome_of_eq_some hget)]
    have hnext := t.nextId_erase_le (·.id == id)
    exact ⟨_, _, rfl, ⟨hdb.isOpen, rfl⟩, hrest, hlab.erase _, by push_cast; omega⟩

/-- **One call on categories** keeps the names apart. -/
theorem performed (h : Roster n d.store) (hclock : d.clock.utc.InCalendar) {r : Request}
    (hr : r.OnCategories) : Roster (n + 1) (r.perform d).2.store := by
  cases r with
  | look q =>
    obtain ⟨db, t, hs, hdb, hrest, hlab, hn⟩ := h
    exact ⟨db, t, (q.looks d ⟨db, hs⟩).store.trans hs, hdb, hrest, hlab, by push_cast; omega⟩
  | change op =>
    show Roster (n + 1) (op.perform d).2.store
    have hsaves : ∀ id raw, op.label? = some (id, raw) →
        Roster (n + 1) (op.perform d).2.store := fun id raw hop => by
      rw [Operation.perform_of_label hop, quietly_state]
      exact h.saved hclock id raw
    cases op with
    | createCategory raw => exact hsaves 0 raw rfl
    | renameCategory id raw => exact hsaves id raw rfl
    | deleteCategory id => exact h.deleted id
    | _ => exact hr.elim

/-- **Every run of such calls** does. -/
theorem after (h : Roster n b) {calls : List (Desk × Request)}
    (hcalls : ∀ c ∈ calls, c.2.OnCategories ∧ c.1.clock.utc.InCalendar) :
    Roster (n + calls.length) (after b calls) := by
  induction calls generalizing n b with
  | nil => exact h
  | cons c calls ih =>
    obtain ⟨hc, hclock⟩ := hcalls c List.mem_cons_self
    have hstep : Roster (n + 1) (callAt b c).2.store :=
      performed (d := { c.1 with store := b }) h hclock hc
    have hrun := ih hstep fun x hx => hcalls x (List.mem_cons_of_mem _ hx)
    rwa [Nat.add_assoc, Nat.add_comm 1] at hrun

end Roster

/-- **The names of categories stay apart.** After every run of calls on categories of a new store

* no two categories have the same name in lower case;
* a save of a fit name, of a new category or of one that is there, ends in a conflict if the name
  clashes, and else goes through, as long as there are ids, unless the index has the name;
* what the index refuses is a name with a NUL that does not clash, and nothing else;
* a category takes its own name with other letters in capitals;
* a listing shows each category once, by the octets of its name in lower case. -/
theorem categories_stay_apart (calls : List (Desk × Request))
    (hcalls : ∀ c ∈ calls, c.2.OnCategories ∧ c.1.clock.utc.InCalendar) :
    ∃ db t, after Store.fresh calls = .embedded db ∧ db.tables.categories = some t ∧
      t.nextId ≤ calls.length + 1 ∧
      (∀ r ∈ t.rows, ∀ r' ∈ t.rows, Store.folded r.name = Store.folded r'.name → r = r') ∧
      ∀ d : Desk, d.store = .embedded db → d.outages = [] →
        (∀ (op : Operation) (id : Int) (raw : String), op.label? = some (id, raw) →
          Text.trim raw ≠ "" → (Text.trim raw).utf8ByteSize ≤ 100 →
          (id = 0 ∨ ∃ r ∈ t.rows, r.id = id) → (op.perform d).1 =
            if Clashes t (Text.trim raw) id then
              .failed (.cause (.conflict "category" "name" (Text.trim raw)))
            else if id = 0 ∧ 2 ^ 63 ≤ t.nextId then
              .failed (Store.unended (.within "insert category" Store.idsExhausted))
            else if Indexed t (Text.trim raw) id then
              .failed (.within (Store.Categories.saving id) (Store.notUnique "categories.name"))
            else .ok ()) ∧
        (∀ op : Operation, (Request.change op).OnCategories → ∀ f, (op.perform d).1 = .failed f →
          ∀ c ∈ f.causes, .cause c = Store.notUnique "categories.name" →
            ∃ id raw, op.label? = some (id, raw) ∧ '\x00' ∈ (Text.trim raw).toList ∧
              ¬ Clashes t (Text.trim raw) id ∧ Indexed t (Text.trim raw) id) ∧
        (∀ r ∈ t.rows, ∀ raw, Text.asciiLower raw = Text.asciiLower r.name →
          ∃ c, (renameCategory r.id raw d).1 = .ok c ∧ c.name = raw) ∧
        ∃ cs, listCategories d = (.ok cs, d) ∧
          (cs.map some).Perm (t.rows.map CategoryRow.category?) ∧
          cs.Pairwise fun c c' => Store.lowered c.name < Store.lowered c'.name := by
  obtain ⟨db, t, hdb, hfiling, hrest, hlab, hn⟩ := Roster.fresh.after hcalls
  rw [Nat.zero_add] at hn
  have happart : ∀ r ∈ t.rows, ∀ r' ∈ t.rows, Store.folded r.name = Store.folded r'.name → r = r' :=
    fun r hr r' hr' heq => List.inj_on_of_nodup_map hlab.keyed.unique hr hr'
      (hlab.apart r hr r' hr' (Store.sameName_of_folded_eq heq))
  refine ⟨db, t, hdb, hfiling.categories, hn, happart, fun d hs hout => ⟨?_, ?_, ?_, ?_⟩⟩
  · intro op id raw hop hne hshort hthere
    rw [Operation.perform_of_label hop]
    refine saveCategory_ends hs hfiling hrest hlab hout hne hshort (hthere.imp_right ?_)
    rintro ⟨r, hr, rfl⟩
    exact Option.isSome_of_eq_some (Table.get?_of_mem hlab.keyed.unique hr)
  · intro op hop f hf c hc hindex
    have hsave : ∀ id raw, op.label? = some (id, raw) →
        ∃ id raw, op.label? = some (id, raw) ∧ '\x00' ∈ (Text.trim raw).toList ∧
          ¬ Clashes t (Text.trim raw) id ∧ Indexed t (Text.trim raw) id := by
      intro id raw hlabel
      rw [Operation.perform_of_label hlabel] at hf
      have hfail := saveCategory_failure hs hfiling hrest hlab hout (quietly_fails_iff.mp hf)
      obtain ⟨hfree, htaken⟩ := hfail.by_index hc hindex
      exact ⟨id, raw, hlabel, not_imp_comm.mp htaken.clashes hfree, hfree, htaken⟩
    cases op with
    | createCategory raw => exact hsave 0 raw rfl
    | renameCategory id raw => exact hsave id raw rfl
    | deleteCategory id =>
      rw [deleteCategory_failure hs hfiling hf] at hc
      rw [List.mem_singleton.mp (show c ∈ [_] from hc)] at hindex
      cases hindex
    | _ => exact hop.elim
  · intro r hr raw hcase
    exact renameCategory_recased hs hfiling hrest hlab hout hr hcase
  · obtain ⟨cs, hcs, hall, hsorted⟩ := hlab.lists hfiling
    refine ⟨cs, onStore_eq_iff.mpr ⟨.embedded db, ?_, by rw [← hs]⟩, hall, hsorted⟩
    rw [hs]
    exact hcs

/-- two categories, a name that is in use, and one that is the same but for its capitals -/
def labelling : List (Desk × Request) :=
  [.createCategory "  a\x00b ", .createCategory "Games", .renameCategory 2 "A\x00B",
    .renameCategory 2 "gAMES"].map fun op => (shopWith {} {}, .change op)

def twoLabels : Table CategoryRow :=
  { rows := [⟨1, "a\x00b", .time .zero, .time .zero⟩, ⟨2, "gAMES", .time .zero, .time .zero⟩]
    lastId := 2 }

theorem labels_stay_apart : ∃ db, after Store.fresh labelling = .embedded db ∧
    db.tables.categories = some twoLabels ∧
    ∀ d : Desk, d.store = .embedded db → d.outages = [] →
      ((Operation.createCategory " GAMES").perform d).1
        = .failed (.cause (.conflict "category" "name" "GAMES")) ∧
      ((Operation.createCategory "a\x00cc").perform d).1 = .ok () ∧
      ((Operation.renameCategory 2 "a\x00c").perform d).1
        = .failed (.within "update category 2" (Store.notUnique "categories.name")) ∧
      (∃ c, (renameCategory 1 "A\x00b" d).1 = .ok c ∧ c.name = "A\x00b") ∧
      listCategories d = (.ok [⟨1, "a\x00b", .zero, .zero⟩, ⟨2, "gAMES", .zero, .zero⟩], d) := by
  have hclock : (shopWith {} {}).clock.utc.InCalendar := by
    show Stamp.InCalendar Stamp.zero.utc
    decide
  have hrun : (tablesOf (after Store.fresh labelling)).categories = some twoLabels := by
    decide +kernel
  obtain ⟨db, t, hdb, ht, -, -, hdesk⟩ := categories_stay_apart labelling fun c hc => by
    obtain ⟨op, hop, rfl⟩ := List.mem_map.mp hc
    refine ⟨?_, hclock⟩
    simp only [List.mem_cons, List.not_mem_nil, or_false] at hop
    rcases hop with rfl | rfl | rfl | rfl <;> trivial
  obtain rfl : twoLabels = t := by
    rw [hdb] at hrun
    exact Option.some.inj (hrun.symm.trans ht)
  refine ⟨db, hdb, ht, fun d hs hout => ?_⟩
  obtain ⟨hsave, -, hrecase, cs, hlist, hall, hsorted⟩ := hdesk d hs hout
  have hread : twoLabels.rows.map CategoryRow.category?
      = [⟨1, "a\x00b", .zero, .zero⟩, ⟨2, "gAMES", .zero, .zero⟩].map some := by decide +kernel
  rw [hread, List.map_perm_map_iff (Option.some_injective _)] at hall
  have hcs := hall.eq_of_pairwise (fun _ _ _ _ h h' => absurd h' (List.lt_asymm h)) hsorted
    (List.pairwise_pair.mpr (by decide +kernel))
  rw [hcs] at hlist
  refine ⟨?_, ?_, ?_, ?_, hlist⟩
  · rw [hsave _ 0 " GAMES" rfl (by decide +kernel) (by decide +kernel) (.inl rfl),
      show Text.trim " GAMES" = "GAMES" by decide +kernel, if_pos (by decide +kernel)]
  · rw [hsave _ 0 "a\x00cc" rfl (by decide +kernel) (by decide +kernel) (.inl rfl),
      if_neg (by decide +kernel), if_neg (by decide +kernel), if_neg (by decide +kernel)]
  · rw [hsave _ 2 "a\x00c" rfl (by decide +kernel) (by decide +kernel)
      (.inr ⟨⟨2, "gAMES", .time .zero, .time .zero⟩, by decide, rfl⟩),
      if_neg (by decide +kernel), if_neg (by decide +kernel), if_pos (by decide +kernel),
      show Store.Categories.saving 2 = "update category 2" by decide +kernel]
  · exact hrecase ⟨1, "a\x00b", .time .zero, .time .zero⟩ (by decide) "A\x00b" (by decide +kernel)

/-- a category whose name has a NUL -/
def nulLabel : List (Desk × Request) :=
  [(shopWith {} {}, .change (.createCategory "a\x00b"))]

/-- **A name that is not in use is refused**: of what follows a NUL the index knows the size only. -/
theorem free_name_refused : ∃ t, (tablesOf (after Store.fresh nulLabel)).categories = some t ∧
    (∀ r ∈ t.rows, Store.folded r.name ≠ Store.folded "a\x00c") ∧
    (Operation.createCategory "a\x00c").perform.failure?
        { shopWith {} {} with store := after Store.fresh nulLabel }
      = some (.within "insert category" (Store.notUnique "categories.name")) :=
  ⟨⟨[⟨1, "a\x00b", .time .zero, .time .zero⟩], 1⟩, by decide +kernel, by decide +kernel,
    by decide +kernel⟩

end OrderDesk.Desk
