import Mathlib.Data.Char
import Mathlib.Data.List.Lex
import OrderDesk.Proofs.Store.Saving
import OrderDesk.Proofs.Store.Sound
import OrderDesk.Proofs.Text.Case

/-!
# Categories in the tables

Two notions of equal names meet here. The service looks for another name of the same lower case,
and the index compares names up to the first NUL and by their size. What is the same in lower case is
one entry of the index, so that the names stay apart; the converse fails for names with a NUL.

* `sameName_of_folded_eq`, `folded_eq_of_sameName`      the two notions;
* `Clashes`, `Indexed`          a category other than one has such a name;
* `CategoryRow.category?`       the category that a row spells;
* `Starts`, `Relabels`          what a save starts with, and what it makes of the table;
* `Filing`                      an open engine with its table of categories;
* `nameTaken_eq`, `get_ok_iff`, `save_ok_iff`, `save_refused`, `save_full`, `delete_there`,
  `list_ok_iff`                 the calls on it;
* `Labelled`                    names that are apart in the index, in rows that can be read;
* `Labelled.relabels`, `Labelled.lists`     a save keeps them apart, and a listing is in order.
-/

namespace OrderDesk.Store

open Text (asciiLowerChar)

/-! ## names -/

/-- the octets of a name as the engine puts it into lower case -/
def lowered (name : String) : Octets := Octets.ofText (String.ofList (folded name))

theorem indexed_map (cs : List Char) : indexed (cs.map asciiLowerChar) = indexed cs := by
  induction cs with
  | nil => rfl
  | cons c cs ih =>
    have hnul : asciiLowerChar c = '\x00' ↔ c = '\x00' := Text.asciiLowerChar_eq_iff (by decide)
    by_cases hc : c = '\x00'
    · rw [List.map_cons, indexed, indexed, if_pos (hnul.mpr hc), if_pos hc, hnul.mpr hc, hc]
    · rw [List.map_cons, indexed, indexed, if_neg (mt hnul.mp hc), if_neg hc, ih,
        Text.asciiLowerChar_idem]

theorem nul_mem_indexed {cs : List Char} : '\x00' ∈ indexed cs ↔ '\x00' ∈ cs := by
  induction cs with
  | nil => exact Iff.rfl
  | cons c cs ih =>
    by_cases hc : c = '\x00'
    · simp [indexed, hc]
    · have hlower : '\x00' ≠ asciiLowerChar c := fun h =>
        hc ((Text.asciiLowerChar_eq_iff (by decide)).mp h.symm)
      rw [indexed, if_neg hc, List.mem_cons, List.mem_cons, ih, or_iff_right hlower,
        or_iff_right (Ne.symm hc)]

theorem indexed_eq_map {cs : List Char} (h : '\x00' ∉ cs) :
    indexed cs = cs.map asciiLowerChar := by
  induction cs with
  | nil => rfl
  | cons c cs ih =>
    have hc : c ≠ '\x00' := fun hc => h (hc ▸ List.mem_cons_self)
    rw [indexed, if_neg hc, ih fun hcs => h (List.mem_cons_of_mem _ hcs), List.map_cons]

section
variable {a b c : String}

theorem folded_eq_iff : folded a = folded b ↔ Text.asciiLower a = Text.asciiLower b :=
  Text.asciiLower_eq_iff.symm

theorem sameName_iff : sameName a b = true ↔
    a.utf8ByteSize = b.utf8ByteSize ∧ indexed a.toList = indexed b.toList := decide_eq_true_iff

theorem sameName_symm (h : sameName a b = true) : sameName b a = true :=
  sameName_iff.mpr ((sameName_iff.mp h).imp Eq.symm Eq.symm)

theorem sameName_trans (h : sameName a b = true) (h' : sameName b c = true) :
    sameName a c = true := by
  obtain ⟨hsize, hindexed⟩ := sameName_iff.mp h
  obtain ⟨hsize', hindexed'⟩ := sameName_iff.mp h'
  exact sameName_iff.mpr ⟨hsize.trans hsize', hindexed.trans hindexed'⟩

/-- **Names of one lower case are one entry of the index.** -/
theorem sameName_of_folded_eq (h : folded a = folded b) : sameName a b = true := by
  have hindexed : indexed a.toList = indexed b.toList := calc
    indexed a.toList = indexed (folded a) := (indexed_map _).symm
    _ = indexed (folded b) := by rw [h]
    _ = indexed b.toList := indexed_map _
  exact sameName_iff.mpr ⟨Text.utf8ByteSize_of_recased (folded_eq_iff.mp h), hindexed⟩

/-- without a NUL there is no other entry than of names of the same lower case -/
theorem folded_eq_of_sameName (hplain : '\x00' ∉ b.toList) (h : sameName a b = true) :
    folded a = folded b := by
  have hindexed := (sameName_iff.mp h).2
  have hplain' : '\x00' ∉ a.toList := by rwa [← nul_mem_indexed, hindexed, nul_mem_indexed]
  rw [indexed_eq_map hplain, indexed_eq_map hplain'] at hindexed
  exact hindexed

end

/-! ## clashes -/

section
variable {t : Table CategoryRow} {name : String} {besides : Int}

/-- A category other than `besides` has the name, up to the case of ASCII. -/
def Clashes (t : Table CategoryRow) (name : String) (besides : Int) : Prop :=
  ∃ r ∈ t.rows, folded r.name = folded name ∧ r.id ≠ besides

/-- The index has the name already, for a category other than `besides`. -/
def Indexed (t : Table CategoryRow) (name : String) (besides : Int) : Prop :=
  ∃ r ∈ t.rows, sameName r.name name = true ∧ r.id ≠ besides

instance : Decidable (Clashes t name besides) := inferInstanceAs (Decidable (∃ r ∈ t.rows, _ ∧ _))

instance : Decidable (Indexed t name besides) := inferInstanceAs (Decidable (∃ r ∈ t.rows, _ ∧ _))

theorem Clashes.indexed (h : Clashes t name besides) : Indexed t name besides := by
  obtain ⟨r, hr, hname, hid⟩ := h
  exact ⟨r, hr, sameName_of_folded_eq hname, hid⟩

/-- **The index refuses a name without a NUL only if it clashes.** -/
theorem Indexed.clashes (h : Indexed t name besides) (hplain : '\x00' ∉ name.toList) :
    Clashes t name besides := by
  obtain ⟨r, hr, hname, hid⟩ := h
  exact ⟨r, hr, folded_eq_of_sameName hplain hname, hid⟩

theorem nameTaken_iff : Tables.nameTaken t name besides = true ↔ Indexed t name besides := by
  unfold Tables.nameTaken Indexed
  simp only [List.any_eq_true, Bool.and_eq_true, bne_iff_ne]

/-- a new category is none of those that are there, whatever id it is to have -/
theorem indexed_nextId_iff (h : t.Keyed) : Indexed t name t.nextId ↔ Indexed t name 0 := by
  have hnew : ∀ r ∈ t.rows, r.id ≠ t.nextId ∧ r.id ≠ 0 := fun r hr =>
    ⟨Int.ne_of_lt (Table.id_lt_nextId hr), (h.positive r hr).ne'⟩
  constructor
  · rintro ⟨r, hr, hname, -⟩
    exact ⟨r, hr, hname, (hnew r hr).2⟩
  · rintro ⟨r, hr, hname, -⟩
    exact ⟨r, hr, hname, (hnew r hr).1⟩

theorem count_clashes : 0 < t.count (fun r => folded r.name == folded name && r.id != besides) ↔
    Clashes t name besides := by
  show 0 < ((t.rows.countP _ : Nat) : Int) ↔ _
  rw [Int.natCast_pos, List.countP_pos_iff]
  unfold Clashes
  simp only [Bool.and_eq_true, beq_iff_eq, bne_iff_ne]

end

/-! ## rows -/

def CategoryRow.category? (r : CategoryRow) : Option Category := do
  some ⟨r.id, r.name, ← (stored r.createdAt).time?, ← (stored r.updatedAt).time?⟩

def CategoryRow.ofNew (c : Category) (id : Int) : CategoryRow :=
  ⟨id, c.name, .time c.createdAt, .time c.updatedAt⟩

/-- a row with everything of a category but its id and its first day -/
def CategoryRow.update (c : Category) (r : CategoryRow) : CategoryRow :=
  { r with name := c.name, updatedAt := .time c.updatedAt }

theorem CategoryRow.category?_eq_some_iff {r : CategoryRow} {c : Category} :
    r.category? = some c ↔ c.id = r.id ∧ c.name = r.name ∧
      (stored r.createdAt).time? = some c.createdAt ∧
      (stored r.updatedAt).time? = some c.updatedAt := by
  obtain ⟨id, name, createdAt, updatedAt⟩ := c
  simp only [category?, bind, Option.bind_eq_some_iff, Option.some.injEq, Category.mk.injEq]
  constructor
  · rintro ⟨_, hc, _, hu, rfl, rfl, rfl, rfl⟩
    exact ⟨rfl, rfl, hc, hu⟩
  · rintro ⟨rfl, rfl, hc, hu⟩
    exact ⟨_, hc, _, hu, rfl, rfl, rfl, rfl⟩

theorem Categories.scan_ok_iff {r : CategoryRow} {c : Category} :
    Categories.scan r.cells = .ok c ↔ r.category? = some c := by
  unfold Categories.scan
  rw [scanRow_ok_iff, and_iff_right (show r.cells.length = 4 from rfl)]
  rfl

theorem CategoryRow.before_iff {r r' : CategoryRow} :
    r.before r' = true ↔ folded r.name ≤ folded r'.name := by
  simp [before]

/-- What a save makes of a category and of the table; the id zero is that of a new one. -/
inductive Relabels (now : Stamp) (name : String) (t : Table CategoryRow) :
    Int → Category → Table CategoryRow → Prop
  | new (hroom : t.nextId < 2 ^ 63) :
    Relabels now name t 0 ⟨t.nextId, name, now, now⟩ (t.insert (.ofNew ⟨0, name, now, now⟩))
  | old {id : Int} {r : CategoryRow} {c : Category} (h0 : id ≠ 0) (hget : t.get? id = some r)
      (hc : r.category? = some c) :
    Relabels now name t id { c with name, updatedAt := now }
      (t.update id (.update { c with name, updatedAt := now }))

/-- The category that a save starts with: a new one, or the one that is there. -/
def Starts (now : Stamp) (t : Table CategoryRow) (id : Int) (c : Category) : Prop :=
  id = 0 ∧ c = ⟨0, "", now, now⟩ ∨ id ≠ 0 ∧ ∃ r, t.get? id = some r ∧ r.category? = some c

section
variable {now : Stamp} {name : String} {t t' : Table CategoryRow} {id : Int} {c : Category}

theorem Starts.relabels (h : Starts now t id c) (hroom : id = 0 → t.nextId < 2 ^ 63) :
    ∃ c' t', Relabels now name t id c' t' := by
  rcases h with ⟨rfl, -⟩ | ⟨h0, r, hget, hc⟩
  · exact ⟨_, _, .new (hroom rfl)⟩
  · exact ⟨_, _, .old h0 hget hc⟩

theorem Relabels.name_eq (h : Relabels now name t id c t') : c.name = name := by
  cases h <;> rfl

end

/-- the engine with another table of categories -/
def Database.refiled (db : Database) (t : Table CategoryRow) : Database :=
  { db with tables := { db.tables with categories := some t } }

/-! ## calls -/

namespace Categories

/-- where a save of a category fails -/
def saving (id : Int) : String :=
  if id = 0 then "insert category" else "update category " ++ toString id

/-- An open engine with its table of categories. -/
structure Filing (db : Database) (t : Table CategoryRow) : Prop where
  isOpen : db.closed = false
  categories : db.tables.categories = some t

theorem Filing.inside {db : Database} {t : Table CategoryRow} (h : Filing db t) :
    Filing (inside db db.tables) t := ⟨h.isOpen, h.categories⟩

section
variable {db : Database} {b : Backend} {t : Table CategoryRow} {c : Category} {id : Int}
  (hdb : Filing db t)

include hdb

theorem nameTaken_eq (name : String) (besides : Int) :
    nameTaken name besides (.embedded db)
      = (.ok (decide (Clashes t name besides)), .embedded db) := by
  have hcount : (firstRow scanInt (.countCategories name besides)).context "check category name"
      (.embedded db) = (.ok (t.count fun r => folded r.name == folded name && r.id != besides),
        .embedded db) := by
    refine Action.context_ok_iff.mpr (firstRow_ok_iff.mpr ⟨.number _, _, [], ?_, rfl, rfl⟩)
    exact (query_ok_iff (answer_categories rfl) (fun _ => rfl) fun t ht => by rw [← ht]).mpr
      ⟨hdb.isOpen, rfl, t, hdb.categories, rfl⟩
  refine (Action.bind_of_ok hcount).trans ?_
  rw [decide_eq_decide.mpr count_clashes]
  rfl

theorem get_ok_iff : get id (.embedded db) = (.ok c, b) ↔
    b = .embedded db ∧ ∃ r, t.get? id = some r ∧ r.category? = some c := by
  unfold get
  rw [readRow_ok_iff (answer_categories rfl) (fun _ => rfl) fun t ht => by rw [← ht]]
  simp only [scan_ok_iff, hdb.categories, Option.some.injEq]
  constructor
  · rintro ⟨-, rfl, _, r, rfl, hget, hc⟩
    exact ⟨rfl, r, hget, hc⟩
  · rintro ⟨rfl, r, hget, hc⟩
    exact ⟨hdb.isOpen, rfl, t, r, rfl, hget, hc⟩

theorem get_missing (hget : t.get? id = none) :
    get id (.embedded db) = (.failed (.cause (missing id)), .embedded db) :=
  readRow_missing (answer_categories rfl) (fun _ => rfl) (fun t ht => by rw [← ht]) hdb.isOpen
    hdb.categories hget

theorem insert_ok (h0 : c.id = 0) (hfree : Tables.nameTaken t c.name t.nextId = false)
    (hroom : t.nextId < 2 ^ 63) :
    save c (.embedded db)
      = (.ok { c with id := t.nextId }, .embedded (db.refiled (t.insert (.ofNew c)))) := by
  have hanswer : Tables.onCategories t (.insertCategory c.name c.createdAt c.updatedAt)
      = .ok ({ affected := .ok 1, id := t.nextId }, t.insert (.ofNew c)) := by
    simp only [Tables.onCategories, hfree]
    exact inserted_ok_iff.mpr ⟨rfl, hroom, rfl, rfl⟩
  have hsend := (send_through (answer_categories rfl)).mpr
    ⟨hdb.isOpen, t, _, hdb.categories, hanswer, rfl⟩
  have hnew := (insertNew_ok_iff rfl).mpr ⟨_, hsend, rfl⟩
  unfold save
  rw [if_pos h0, Action.context_bind_of_ok hnew]
  rfl

/-- what the table refuses, the engine does -/
theorem send_failed {q : Statement} {f : Failure}
    (hq : ∀ ts : Tables, ts.answer q = through "categories" ts.categories
      (fun t => { ts with categories := some t }) fun t => Tables.onCategories t q)
    (h : Tables.onCategories t q = .error f) :
    send q (.embedded db) = (.failed f, .embedded (db.refuse f)) := by
  refine send_failed_iff.mpr (.inr ⟨hdb.isOpen, ?_, rfl⟩)
  rw [hq]
  exact through_error_iff.mpr (.inr ⟨t, hdb.categories, h⟩)

theorem insert_failed {f : Failure} (h0 : c.id = 0)
    (h : Tables.onCategories t (.insertCategory c.name c.createdAt c.updatedAt) = .error f) :
    save c (.embedded db) = (.failed (.within "insert category" f), .embedded (db.refuse f)) := by
  unfold save
  rw [if_pos h0]
  refine Action.bind_of_failed (Action.context_failed_iff.mpr ⟨f, ?_, rfl⟩)
  rw [insertNew_embedded rfl]
  exact Action.bind_of_failed (send_failed hdb (fun _ => answer_categories rfl) h)

theorem update_ok (h0 : c.id ≠ 0) (hget : (t.get? c.id).isSome)
    (hfree : Tables.nameTaken t c.name c.id = false) :
    save c (.embedded db) = (.ok c, .embedded (db.refiled (t.update c.id (.update c)))) := by
  obtain ⟨r, hget⟩ := Option.isSome_iff_exists.mp hget
  have hanswer : Tables.onCategories t (.updateCategory c.id c.name c.updatedAt)
      = .ok (.changed 1, t.update c.id (.update c)) := by
    simp only [Tables.onCategories, hget, hfree]
    rfl
  have hsend := (send_through (answer_categories rfl)).mpr
    ⟨hdb.isOpen, t, _, hdb.categories, hanswer, rfl⟩
  have hchange : changeOne ("update category " ++ toString c.id) (missing c.id)
      (.updateCategory c.id c.name c.updatedAt) (.embedded db) = (.ok (), _) :=
    changeOne_ok_iff.mpr ⟨_, 1, hsend, rfl, by decide⟩
  unfold save
  rw [if_neg h0, Action.bind_of_ok hchange]
  rfl

theorem update_refused (h0 : c.id ≠ 0) (hget : (t.get? c.id).isSome)
    (htaken : Tables.nameTaken t c.name c.id = true) : save c (.embedded db) = (.failed
      (.within ("update category " ++ toString c.id) (notUnique "categories.name")),
        .embedded db) := by
  obtain ⟨r, hget⟩ := Option.isSome_iff_exists.mp hget
  have hanswer : Tables.onCategories t (.updateCategory c.id c.name c.updatedAt)
      = .error (notUnique "categories.name") := by
    simp only [Tables.onCategories, hget]
    exact if_pos htaken
  have hsend := send_failed hdb (fun _ => answer_categories rfl) hanswer
  rw [Database.refuse_of_ne (by decide)] at hsend
  unfold save
  rw [if_neg h0]
  exact Action.bind_of_failed (Action.context_bind_of_failed hsend)

section
variable {now : Stamp} {name : String} (hkeyed : t.Keyed) (hstart : Starts now t id c)

include hkeyed hstart

omit hkeyed in
/-- a new category needs an id before the index is asked about its name -/
theorem save_full (h0 : id = 0) (hfull : 2 ^ 63 ≤ t.nextId) :
    save { c with name, updatedAt := now } (.embedded db)
      = (.failed (.within "insert category" idsExhausted),
        .embedded (db.refuse idsExhausted)) := by
  rcases hstart with ⟨rfl, rfl⟩ | ⟨hne, -⟩
  · exact insert_failed hdb rfl (c := ⟨0, name, now, now⟩) (inserted_full hfull)
  · exact absurd h0 hne

/-- **The index refuses a name that it has.** -/
theorem save_refused (hroom : id = 0 → t.nextId < 2 ^ 63) (htaken : Indexed t name id) :
    save { c with name, updatedAt := now } (.embedded db)
      = (.failed (.within (saving id) (notUnique "categories.name")), .embedded db) := by
  rcases hstart with ⟨rfl, rfl⟩ | ⟨h0, r, hget, hc⟩
  · have hrefused : Tables.onCategories t (.insertCategory name now now)
        = .error (notUnique "categories.name") := by
      simp only [Tables.onCategories, nameTaken_iff.mpr ((indexed_nextId_iff hkeyed).mpr htaken),
        if_true]
      exact inserted_refused (hroom rfl)
    have hend := insert_failed hdb rfl (c := ⟨0, name, now, now⟩) hrefused
    rwa [Database.refuse_of_ne (by decide)] at hend
  · have hid : c.id = id :=
      (CategoryRow.category?_eq_some_iff.mp hc).1.trans (Table.get?_some hget).2
    subst hid
    rw [saving, if_neg h0]
    exact update_refused (c := { c with name, updatedAt := now }) hdb h0
      (Option.isSome_of_eq_some hget) (nameTaken_iff.mpr htaken)

/-- **A category is saved under a name that the index lacks**, if there is an id for it. -/
theorem save_ok_iff {c' : Category} :
    save { c with name, updatedAt := now } (.embedded db) = (.ok c', b) ↔ ¬ Indexed t name id ∧
      ∃ t', Relabels now name t id c' t' ∧ b = .embedded (db.refiled t') := by
  by_cases hfull : id = 0 ∧ 2 ^ 63 ≤ t.nextId
  · rw [save_full hdb hstart hfull.1 hfull.2]
    refine ⟨fun h => (nomatch (Prod.mk.inj h).1), ?_⟩
    rintro ⟨-, t', hlabel, -⟩
    cases hlabel with
    | new hroom => exact absurd hfull.2 (not_le.mpr hroom)
    | old h0 => exact absurd hfull.1 h0
  by_cases hfree : Indexed t name id
  · rw [save_refused hdb hkeyed hstart (fun h0 => not_le.mp fun h => hfull ⟨h0, h⟩) hfree]
    exact ⟨fun h => (nomatch (Prod.mk.inj h).1), fun h => absurd hfree h.1⟩
  rw [and_iff_right hfree]
  rcases hstart with ⟨rfl, rfl⟩ | ⟨h0, r, hget, hc⟩
  · have hnew : Tables.nameTaken t name t.nextId = false := Bool.eq_false_iff.mpr fun h =>
      hfree ((indexed_nextId_iff hkeyed).mp (nameTaken_iff.mp h))
    rw [insert_ok hdb rfl hnew (not_le.mp fun h => hfull ⟨rfl, h⟩)]
    constructor
    · intro h
      obtain ⟨hc, rfl⟩ := Prod.mk.inj h
      rw [← Outcome.ok.inj hc]
      exact ⟨_, .new (not_le.mp fun h => hfull ⟨rfl, h⟩), rfl⟩
    · rintro ⟨t', hlabel, rfl⟩
      cases hlabel with
      | new => rfl
      | old h0 => exact absurd rfl h0
  · have hid : c.id = id :=
      (CategoryRow.category?_eq_some_iff.mp hc).1.trans (Table.get?_some hget).2
    have hupdate : save { c with name, updatedAt := now } (.embedded db)
        = (.ok { c with name, updatedAt := now },
          .embedded (db.refiled (t.update id (.update { c with name, updatedAt := now })))) := by
      subst hid
      exact update_ok (c := { c with name, updatedAt := now }) hdb h0
        (Option.isSome_of_eq_some hget) (Bool.eq_false_iff.mpr (mt nameTaken_iff.mp hfree))
    rw [hupdate]
    constructor
    · intro h
      obtain ⟨hc', rfl⟩ := Prod.mk.inj h
      rw [← Outcome.ok.inj hc']
      exact ⟨_, .old h0 hget hc, rfl⟩
    · rintro ⟨t', hlabel, rfl⟩
      cases hlabel with
      | new => exact absurd rfl h0
      | old _ hget₁ hc₁ =>
        obtain rfl := Option.some.inj (hget.symm.trans hget₁)
        obtain rfl := Option.some.inj (hc.symm.trans hc₁)
        rfl

end

theorem delete_there (hget : (t.get? id).isSome) :
    delete id (.embedded db) = (.ok (), .embedded (db.refiled (t.erase (·.id == id)))) := by
  have hne : t.count (·.id == id) ≠ 0 := fun h0 => by
    simp [Table.count_id_eq_zero_iff.mp h0] at hget
  exact changeOne_ok_iff.mpr ⟨_, _, (send_through (answer_categories rfl)).mpr
    ⟨hdb.isOpen, t, _, hdb.categories, rfl, rfl⟩, rfl, hne⟩

theorem delete_missing (hget : t.get? id = none) :
    delete id (.embedded db) = (.failed (.cause (missing id)), .embedded db) := by
  have hnone : t.count (·.id == id) = 0 := Table.count_id_eq_zero_iff.mpr hget
  refine Orders.changeOne_of_none ((send_through (answer_categories rfl)).mpr
    ⟨hdb.isOpen, t, t, hdb.categories, ?_, by rw [← hdb.categories]⟩)
  show Except.ok (Reply.changed (t.count (·.id == id)), t.erase (·.id == id)) = _
  rw [hnone, Table.erase_of_count_eq_zero hnone]

theorem list_ok_iff {cs : List Category} : list (.embedded db) = (.ok cs, b) ↔ b = .embedded db ∧
    List.Forall₂ (fun r c => CategoryRow.category? r = some c)
      (t.rows.mergeSort CategoryRow.before) cs := by
  have hquery : ∀ r, send .listCategories (.embedded db) = (.ok r, b) ↔
      db.closed = false ∧ b = .embedded db ∧ ∃ t, db.tables.categories = some t ∧
        r = .ofRows ((t.rows.mergeSort CategoryRow.before).map CategoryRow.cells) := fun r =>
    query_ok_iff (answer_categories rfl) (fun _ => rfl) fun t ht => by rw [← ht]
  unfold list
  rw [allRows_ok_iff]
  simp only [hquery]
  constructor
  · rintro ⟨_, ⟨-, rfl, t₁, ht₁, rfl⟩, hscan⟩
    obtain rfl := Option.some.inj (hdb.categories.symm.trans ht₁)
    exact ⟨rfl, (scanAll_ofRows_iff.mp hscan).imp fun _ _ hc => scan_ok_iff.mp hc⟩
  · rintro ⟨rfl, hrows⟩
    exact ⟨_, ⟨hdb.isOpen, rfl, t, hdb.categories, rfl⟩,
      scanAll_ofRows_iff.mpr (hrows.imp fun _ _ hc => scan_ok_iff.mpr hc)⟩

end

end Categories

/-! ## tables of names -/

/-- Categories with fit names, each of which the index has once, in rows that can be read. -/
structure Labelled (t : Table CategoryRow) : Prop where
  keyed : t.Keyed
  counted : t.Counted
  named : ∀ r ∈ t.rows, IsName 100 r.name
  apart : ∀ r ∈ t.rows, ∀ r' ∈ t.rows, sameName r.name r'.name = true → r.id = r'.id
  readable : ∀ r ∈ t.rows, r.category?.isSome

namespace Labelled

variable {t t' : Table CategoryRow} {now : Stamp} {name : String} {id : Int} {c : Category}

theorem starts (h : Labelled t) (hthere : id = 0 ∨ (t.get? id).isSome) :
    ∃ c, Starts now t id c := by
  by_cases h0 : id = 0
  · exact ⟨_, .inl ⟨h0, rfl⟩⟩
  · obtain ⟨r, hget⟩ := Option.isSome_iff_exists.mp (hthere.resolve_left h0)
    obtain ⟨c, hc⟩ := Option.isSome_iff_exists.mp (h.readable r (Table.get?_some hget).1)
    exact ⟨c, .inr ⟨h0, r, hget, hc⟩⟩

theorem empty : Labelled {} :=
  ⟨.empty, .empty, fun _ h => (nomatch h), fun _ h => (nomatch h), fun _ h => (nomatch h)⟩

/-- a table stays so, if all that is new of it is one category with a name that is free -/
theorem of_one (h : Labelled t) (hname : IsName 100 name) (hfree : ¬ Indexed t name id)
    (hkeyed : t'.Keyed) (hcounted : t'.Counted) (hrows : ∀ r ∈ t'.rows,
      r.id = id ∧ r.name = name ∧ r.category?.isSome ∨ r.id ≠ id ∧ r ∈ t.rows) : Labelled t' := by
  refine ⟨hkeyed, hcounted, fun r hr => ?_, fun r hr r' hr' heq => ?_, fun r hr => ?_⟩
  · rcases hrows r hr with ⟨-, hlabel, -⟩ | ⟨-, hold⟩
    · exact hlabel ▸ hname
    · exact h.named r hold
  · rcases hrows r hr with ⟨hid, hlabel, -⟩ | ⟨hid, hold⟩ <;>
      rcases hrows r' hr' with ⟨hid', hlabel', -⟩ | ⟨hid', hold'⟩
    · exact hid.trans hid'.symm
    · exact absurd ⟨r', hold', sameName_symm (hlabel ▸ heq), hid'⟩ hfree
    · exact absurd ⟨r, hold, hlabel' ▸ heq, hid⟩ hfree
    · exact h.apart r hold r' hold' heq
  · rcases hrows r hr with ⟨-, -, hread⟩ | ⟨-, hold⟩
    · exact hread
    · exact h.readable r hold

/-- **A fit name that the index lacks** keeps the names apart. -/
theorem relabels (h : Labelled t) (hname : IsName 100 name) (hfree : ¬ Indexed t name id)
    (hnow : (stored (.time now)).time? = some now) (hlabel : Relabels now name t id c t') :
    Labelled t' := by
  cases hlabel with
  | new =>
    have hfree' := fun htaken => hfree ((indexed_nextId_iff h.keyed).mp htaken)
    refine h.of_one hname hfree' (h.keyed.insert rfl) (.insert rfl) fun r hr => ?_
    rcases List.mem_append.mp hr with hr | hr
    · exact .inr ⟨Int.ne_of_lt (Table.id_lt_nextId hr), hr⟩
    · obtain rfl := List.mem_singleton.mp hr
      refine .inl ⟨rfl, rfl, Option.isSome_of_eq_some (CategoryRow.category?_eq_some_iff
        (c := ⟨t.nextId, name, now, now⟩).mpr ⟨rfl, rfl, hnow, hnow⟩)⟩
  | @old _ r₀ c₀ h0 hget hc =>
    have hkeep : ∀ r, HasId.id (CategoryRow.update { c₀ with name, updatedAt := now } r)
        = HasId.id r := fun _ => rfl
    refine h.of_one hname hfree (h.keyed.update hkeep) (h.counted.update hkeep) fun r hr => ?_
    obtain ⟨r₁, hr₁, ⟨hid, rfl⟩ | ⟨hid, rfl⟩⟩ := Table.mem_update hr
    · obtain ⟨c₁, hc₁⟩ := Option.isSome_iff_exists.mp (h.readable r₁ hr₁)
      obtain ⟨-, -, hcreated, -⟩ := CategoryRow.category?_eq_some_iff.mp hc₁
      refine .inl ⟨hid, rfl, Option.isSome_of_eq_some (CategoryRow.category?_eq_some_iff
        (c := ⟨r₁.id, name, c₁.createdAt, now⟩).mpr ⟨rfl, rfl, hcreated, hnow⟩)⟩
    · exact .inr ⟨hid, hr₁⟩

theorem erase (h : Labelled t) (p : CategoryRow → Bool) : Labelled (t.erase p) where
  keyed := h.keyed.erase
  counted := h.counted.erase
  named r hr := h.named r (Table.mem_erase.mp hr).1
  apart r hr r' hr' := h.apart r (Table.mem_erase.mp hr).1 r' (Table.mem_erase.mp hr').1
  readable r hr := h.readable r (Table.mem_erase.mp hr).1

/-- a change gives out one id at most -/
theorem nextId_le (h : Labelled t) (h' : Labelled t') (hlabel : Relabels now name t id c t') :
    t'.nextId ≤ t.nextId + 1 := by
  cases hlabel with
  | new => exact (Table.nextId_insert rfl).le
  | old =>
    rw [h'.counted.nextId_eq, h.counted.nextId_eq]
    show t.lastId + 1 ≤ t.lastId + 1 + 1
    omega

/-! ### listing -/

/-- **The rows in the order of the engine**: no two are equal in it. -/
theorem sorted (h : Labelled t) : (t.rows.mergeSort CategoryRow.before).Pairwise
    fun r r' => folded r.name < folded r'.name := by
  have hperm := t.rows.mergeSort_perm CategoryRow.before
  have hids : (t.rows.mergeSort CategoryRow.before).Pairwise fun r r' => r.id ≠ r'.id :=
    List.pairwise_map.mp ((hperm.map _).nodup_iff.mpr h.keyed.unique)
  have htrans : ∀ a b c : CategoryRow, a.before b → b.before c → a.before c := by
    intro a b c hab hbc
    rw [CategoryRow.before_iff] at *
    exact hab.trans hbc
  have htotal : ∀ a b : CategoryRow, (a.before b || b.before a) = true := by
    intro a b
    rw [Bool.or_eq_true, CategoryRow.before_iff, CategoryRow.before_iff]
    exact le_total _ _
  refine ((List.pairwise_mergeSort htrans htotal t.rows).and hids).imp_of_mem
    fun hr hr' ⟨hbefore, hid⟩ => ?_
  exact lt_of_le_of_ne (CategoryRow.before_iff.mp hbefore) fun heq =>
    hid (h.apart _ (hperm.mem_iff.mp hr) _ (hperm.mem_iff.mp hr') (sameName_of_folded_eq heq))

/-- **A listing** shows each category once, by the octets of its name in lower case. -/
theorem lists {db : Database} (h : Labelled t) (hdb : Categories.Filing db t) :
    ∃ cs, Categories.list (.embedded db) = (.ok cs, .embedded db) ∧
      (cs.map some).Perm (t.rows.map CategoryRow.category?) ∧
      cs.Pairwise fun c c' => lowered c.name < lowered c'.name := by
  have hperm := t.rows.mergeSort_perm CategoryRow.before
  obtain ⟨cs, hcs⟩ := exists_forall₂ (R := fun r c => CategoryRow.category? r = some c)
    fun r hr => Option.isSome_iff_exists.mp (h.readable r (hperm.mem_iff.mp hr))
  have hsame : (t.rows.mergeSort CategoryRow.before).map CategoryRow.category? = cs.map some :=
    map_eq_of_forall₂ hcs
  refine ⟨cs, (Categories.list_ok_iff hdb).mpr ⟨rfl, hcs⟩, ?_, ?_⟩
  · rw [← hsame]
    exact hperm.map _
  · have hnames : (t.rows.mergeSort CategoryRow.before).map (·.name) = cs.map Category.name :=
      map_eq_of_forall₂ (hcs.imp fun _ _ hc => (CategoryRow.category?_eq_some_iff.mp hc).2.1.symm)
    have hsorted := List.pairwise_map (R := fun a b => folded a < folded b).mpr h.sorted
    rw [hnames] at hsorted
    refine (List.pairwise_map.mp hsorted).imp fun hlt => Octets.ofText_lt ?_
    rwa [String.toList_ofList, String.toList_ofList]

end Labelled

end OrderDesk.Store
