import OrderDesk.Proofs.Store.Table
import OrderDesk.Proofs.Store.Transaction
import OrderDesk.Store.Categories
import OrderDesk.Store.Products
import Mathlib.Algebra.Group.Int.Defs
import Mathlib.Data.List.Forall2

/-!
# Statements on one table

Every statement of the service is about one table: the engine answers it from that table, and
leaves the others as they were.

* `Subject`, `Statement.subject`     the table that a statement is about;
* `through`                          an answer through one table, with the rest as it was;
* `answer_products`, ...             every answer goes through the table of its statement;
* `answer_ne_idsExhausted`           only a statement that adds a row can be without an id;
* `query_ok_iff`, `readRow_ok_iff`    a query leaves the store as it was, a row is read by its id;
* `firstRow_ok_iff`, `readOne_ok_iff`, `changeOne_ok_iff`, `insertNew_ok_iff`   how replies are read.
-/

namespace OrderDesk.Store

open OrderDesk.Action (Keeps)

/-- What a statement is about: one of the four tables, or the schema. -/
inductive Subject where
  | products
  | orders
  | items
  | categories
  | schema
  deriving DecidableEq, Repr

def Statement.subject : Statement → Subject
  | insertProduct .. | updateProduct .. | deleteProduct _ | selectProduct ..
  | countProducts _ | listProducts .. => .products
  | insertOrder .. | updateOrder .. | deleteOrder _ | selectOrder .. | countOrders _
  | listOrders .. | countOrder _ => .orders
  | insertItem .. | deleteItems _ | selectItems _ => .items
  | insertCategory .. | updateCategory .. | deleteCategory _ | selectCategory _
  | countCategories .. | listCategories => .categories
  | createVersions | readVersion | schema _ | recordVersion _ => .schema

section
variable {ρ : Type} [HasId ρ] {t t' : Table ρ} {make : Int → ρ} {refusal : Option Failure}

theorem inserted_full (h : 2 ^ 63 ≤ t.nextId) :
    Tables.inserted t refusal make = .error idsExhausted := if_pos h

theorem inserted_refused {f : Failure} (h : t.nextId < 2 ^ 63) :
    Tables.inserted t (some f) make = .error f := if_neg (Int.not_le.mpr h)

theorem inserted_none (h : t.nextId < 2 ^ 63) :
    Tables.inserted t none make = .ok ({ affected := .ok 1, id := t.nextId }, t.insert make) :=
  if_neg (Int.not_le.mpr h)

theorem inserted_error {f : Failure} (h : Tables.inserted t refusal make = .error f) :
    f = idsExhausted ∨ refusal = some f := by
  by_cases hfull : 2 ^ 63 ≤ t.nextId
  · rw [inserted_full hfull] at h
    exact .inl (Except.error.inj h).symm
  · have hroom := Int.not_le.mp hfull
    cases refusal with
    | some g =>
      rw [inserted_refused hroom] at h
      exact .inr (congrArg some (Except.error.inj h))
    | none =>
      rw [inserted_none hroom] at h
      cases h

/-- a table takes a new row that no rule refuses, while there is an id left for it -/
theorem inserted_ok_iff {r : Reply} : Tables.inserted t refusal make = .ok (r, t') ↔
    refusal = none ∧ t.nextId < 2 ^ 63 ∧ r = { affected := .ok 1, id := t.nextId } ∧
      t' = t.insert make := by
  by_cases hfull : 2 ^ 63 ≤ t.nextId
  · rw [inserted_full hfull]
    exact ⟨nofun, fun h => absurd h.2.1 (Int.not_lt.mpr hfull)⟩
  · have hroom := Int.not_le.mp hfull
    cases refusal with
    | some f =>
      rw [inserted_refused hroom]
      exact ⟨nofun, fun h => nomatch h.1⟩
    | none =>
      rw [inserted_none hroom, and_iff_right rfl, and_iff_right hroom]
      simp [eq_comm]

end

/-! ## answers through one table -/

/-- the answer that a table gives, put back among the others -/
def through {ρ : Type} (name : String) (slot : Option (Table ρ)) (put : Table ρ → Tables)
    (f : Table ρ → Except Failure (Reply × Table ρ)) : Except Failure (Reply × Tables) := do
  let (r, t) ← f (← Tables.table name slot)
  return (r, put t)

section
variable {ρ : Type} {name : String} {slot : Option (Table ρ)} {put : Table ρ → Tables}
  {f : Table ρ → Except Failure (Reply × Table ρ)}

theorem through_ok_iff {r : Reply} {ts : Tables} : through name slot put f = .ok (r, ts) ↔
    ∃ t t', slot = some t ∧ f t = .ok (r, t') ∧ ts = put t' := by
  cases slot with
  | none => simp [through, Tables.table, bind, Except.bind]
  | some t =>
    cases hf : f t with
    | error e => simp [through, Tables.table, bind, Except.bind, hf]
    | ok p =>
      obtain ⟨r', t'⟩ := p
      simp [through, Tables.table, bind, Except.bind, pure, Except.pure, hf, and_assoc, eq_comm]

theorem through_error_iff {e : Failure} : through name slot put f = .error e ↔
    (slot = none ∧ e = noTable name) ∨ ∃ t, slot = some t ∧ f t = .error e := by
  cases slot with
  | none => simp [through, Tables.table, bind, Except.bind, eq_comm]
  | some t =>
    cases hf : f t with
    | error e' => simp [through, Tables.table, bind, Except.bind, hf]
    | ok p => simp [through, Tables.table, bind, Except.bind, pure, Except.pure, hf]

end

section
variable {q : Statement} {ts : Tables}

theorem answer_products (hq : q.subject = .products) : ts.answer q =
    through "products" ts.products (fun t => { ts with products := some t })
      (Tables.onProducts · q) := by
  cases q <;> first | rfl | cases hq

theorem answer_orders (hq : q.subject = .orders) : ts.answer q =
    through "orders" ts.orders (fun t => { ts with orders := some t })
      (Tables.onOrders · q) := by
  cases q <;> first | rfl | cases hq

theorem answer_items (hq : q.subject = .items) : ts.answer q =
    through "order_items" ts.items (fun t => { ts with items := some t })
      (Tables.onItems · q) := by
  cases q <;> first | rfl | cases hq

theorem answer_categories (hq : q.subject = .categories) : ts.answer q =
    through "categories" ts.categories (fun t => { ts with categories := some t })
      (Tables.onCategories · q) := by
  cases q <;> first | rfl | cases hq

end

/-! ## ids -/

/-- Does a statement add a row, which takes a new id? -/
def Statement.takesId : Statement → Bool
  | insertProduct .. | insertOrder .. | insertItem .. | insertCategory .. => true
  | _ => false

theorem takesId_of_query {q : Statement} (hq : q.isQuery (.of .sqlite) = true) :
    q.takesId = false := by
  cases q <;> first | rfl | cases hq

theorem noTable_ne_idsExhausted (name : String) : noTable name ≠ idsExhausted := by
  intro h
  have htext : ("SQL logic error: no such table: " ++ name ++ " (1)").toList
      = "database or disk is full (13)".toList :=
    congrArg String.toList (Cause.plain.inj (Failure.cause.inj h))
  rw [String.toList_append, String.toList_append] at htext
  exact absurd (congrArg List.head? htext) (by simp)

section
variable {q : Statement} {f : Failure}

theorem onProducts_ne_idsExhausted {t : Table ProductRow} (hq : q.takesId = false)
    (h : Tables.onProducts t q = .error f) : f ≠ idsExhausted := by
  cases q with
  | insertProduct => cases hq
  | updateProduct | countProducts p | listProducts p =>
    simp only [Tables.onProducts, matching] at h
    repeat' split at h
    all_goals cases h <;> decide
  | _ => cases h

theorem onOrders_ne_idsExhausted {t : Table OrderRow} (hq : q.takesId = false)
    (h : Tables.onOrders t q = .error f) : f ≠ idsExhausted := by
  cases q with
  | insertOrder => cases hq
  | updateOrder =>
    simp only [Tables.onOrders] at h
    repeat' split at h
    all_goals cases h <;> decide
  | _ => cases h

theorem onItems_ne_idsExhausted {t : Table ItemRow} (hq : q.takesId = false)
    (h : Tables.onItems t q = .error f) : f ≠ idsExhausted := by
  cases q with
  | insertItem => cases hq
  | selectItems =>
    simp only [Tables.onItems] at h
    split at h
    all_goals cases h <;> decide
  | _ => cases h

theorem onCategories_ne_idsExhausted {t : Table CategoryRow} (hq : q.takesId = false)
    (h : Tables.onCategories t q = .error f) : f ≠ idsExhausted := by
  cases q with
  | insertCategory => cases hq
  | updateCategory =>
    simp only [Tables.onCategories] at h
    repeat' split at h
    all_goals cases h <;> decide
  | _ => cases h

/-- **Only a new row can be without an id.** -/
theorem answer_ne_idsExhausted {ts : Tables} (hq : q.takesId = false)
    (h : ts.answer q = .error f) : f ≠ idsExhausted := by
  have hthrough : ∀ {ρ : Type} {name : String} {slot : Option (Table ρ)} {put : Table ρ → Tables}
      {g : Table ρ → Except Failure (Reply × Table ρ)},
      (∀ t, g t = .error f → f ≠ idsExhausted) → through name slot put g = .error f →
        f ≠ idsExhausted := fun hg h => by
    rcases through_error_iff.mp h with ⟨-, rfl⟩ | ⟨t, -, ht⟩
    · exact noTable_ne_idsExhausted _
    · exact hg t ht
  cases hsub : q.subject with
  | products =>
    exact hthrough (fun _ => onProducts_ne_idsExhausted hq) (answer_products hsub ▸ h)
  | orders => exact hthrough (fun _ => onOrders_ne_idsExhausted hq) (answer_orders hsub ▸ h)
  | items => exact hthrough (fun _ => onItems_ne_idsExhausted hq) (answer_items hsub ▸ h)
  | categories =>
    exact hthrough (fun _ => onCategories_ne_idsExhausted hq) (answer_categories hsub ▸ h)
  | schema =>
    cases q with
    | createVersions | schema => cases h
    | readVersion | recordVersion =>
      simp only [Tables.answer] at h
      split at h
      all_goals cases h <;> exact noTable_ne_idsExhausted _
    | _ => cases hsub

/-- a statement that adds no row leaves the engine as it was when it fails -/
theorem send_spares {db : Database} {b : Backend} (hq : q.takesId = false)
    (h : send q (.embedded db) = (.failed f, b)) : b = .embedded db := by
  obtain ⟨-, -, rfl⟩ | ⟨-, ha, rfl⟩ := send_failed_iff.mp h
  · rfl
  · rw [Database.refuse_of_ne (answer_ne_idsExhausted hq ha)]

end

/-! ## replies of the engine -/

section
variable {q : Statement} {b b' : Backend}

theorem send_through {ρ : Type} {name : String} {slot : Option (Table ρ)}
    {put : Table ρ → Tables} {f : Table ρ → Except Failure (Reply × Table ρ)} {db : Database}
    {r : Reply} (h : db.tables.answer q = through name slot put f) :
    send q (.embedded db) = (.ok r, b) ↔ db.closed = false ∧ ∃ t t', slot = some t ∧
      f t = .ok (r, t') ∧ b = .embedded { db with tables := put t' } := by
  rw [send_ok_iff, h]
  simp only [through_ok_iff]
  constructor
  · rintro ⟨hc, ts, ⟨t, t', ht, ho, rfl⟩, rfl⟩
    exact ⟨hc, t, t', ht, ho, rfl⟩
  · rintro ⟨hc, t, t', ht, ho, rfl⟩
    exact ⟨hc, _, ⟨t, t', ht, ho, rfl⟩, rfl⟩

theorem scanRow_ok_iff {α : Type} {width : Nat} {read : Row → Option α} {row : Row} {a : α} :
    scanRow width read row = .ok a ↔ row.length = width ∧ read row = some a := by
  unfold scanRow
  split
  · next h => cases read row <;> simp [h]
  · next h => simp [h]

theorem firstRow_ok_iff {α : Type} {scan : Row → Except Failure α} {a : α} :
    firstRow scan q b = (.ok a, b') ↔
      ∃ r row rest, send q b = (.ok r, b') ∧ r.rows = row :: rest ∧ scan row = .ok a := by
  unfold firstRow
  rw [Action.bind_ok_iff]
  constructor
  · rintro ⟨r, b₁, hs, h⟩
    cases hr : r.rows with
    | nil => cases he : r.rowsError <;> simp [hr, he] at h
    | cons row rest =>
      simp only [hr] at h
      obtain ⟨hscan, rfl⟩ := Action.ofExcept_ok_iff.mp h
      exact ⟨r, row, rest, hs, hr, hscan⟩
  · rintro ⟨r, row, rest, hs, hr, hscan⟩
    refine ⟨r, b', hs, ?_⟩
    rw [hr]
    exact Action.ofExcept_ok_iff.mpr ⟨hscan, rfl⟩

theorem firstRow_of_none {α : Type} {scan : Row → Except Failure α} {r : Reply}
    (hs : send q b = (.ok r, b')) (hr : r.rows = []) (he : r.rowsError = none) :
    firstRow scan q b = (.failed (.cause .noRows), b') := by
  unfold firstRow
  rw [Action.bind_of_ok hs, hr, he]
  rfl

theorem readOne_ok_iff {α : Type} {c : String} {missing : Cause} {scan : Row → Except Failure α}
    {a : α} : readOne c missing scan q b = (.ok a, b') ↔
      ∃ r row rest, send q b = (.ok r, b') ∧ r.rows = row :: rest ∧ scan row = .ok a := by
  unfold readOne
  rw [Action.orElse_ok_iff, firstRow_ok_iff]
  constructor
  · rintro (h | ⟨f, b₁, -, h⟩)
    · exact h
    · split at h <;> simp at h
  · exact .inl

theorem readOne_of_none {α : Type} {c : String} {missing : Cause} {scan : Row → Except Failure α}
    {r : Reply} (hs : send q b = (.ok r, b')) (hr : r.rows = []) (he : r.rowsError = none) :
    readOne c missing scan q b = (.failed (.cause missing), b') := by
  unfold readOne
  rw [Action.orElse_of_failed (firstRow_of_none hs hr he), if_pos (by decide)]
  rfl

/-! ## queries of one table -/

section
variable {ρ : Type} {name : String} {slot : Option (Table ρ)} {put : Table ρ → Tables}
  {f : Table ρ → Except Failure (Reply × Table ρ)} {db : Database}

/-- a query that is answered through one table leaves the store as it was -/
theorem query_ok_iff {g : Table ρ → Reply} {r : Reply}
    (h : db.tables.answer q = through name slot put f) (hf : ∀ t, f t = .ok (g t, t))
    (hput : ∀ t, slot = some t → put t = db.tables) :
    send q (.embedded db) = (.ok r, b) ↔
      db.closed = false ∧ b = .embedded db ∧ ∃ t, slot = some t ∧ r = g t := by
  rw [send_through h]
  constructor
  · rintro ⟨hc, t, t', ht, ho, rfl⟩
    rw [hf] at ho
    obtain ⟨rfl, rfl⟩ := Prod.mk.inj (Except.ok.inj ho)
    exact ⟨hc, by rw [hput t ht], t, ht, rfl⟩
  · rintro ⟨hc, rfl, t, ht, rfl⟩
    exact ⟨hc, t, t, ht, hf t, by rw [hput t ht]⟩

variable [HasId ρ] {α : Type} {c : String} {missing : Cause} {scan : Row → Except Failure α}
  {cells : ρ → Row} {id : Int}

/-- **A row is read by its id.** -/
theorem readRow_ok_iff {a : α} (h : db.tables.answer q = through name slot put f)
    (hf : ∀ t, f t = .ok (.ofRows ((t.get? id).toList.map cells), t))
    (hput : ∀ t, slot = some t → put t = db.tables) :
    readOne c missing scan q (.embedded db) = (.ok a, b) ↔
      db.closed = false ∧ b = .embedded db ∧
        ∃ t r, slot = some t ∧ t.get? id = some r ∧ scan (cells r) = .ok a := by
  rw [readOne_ok_iff]
  simp only [query_ok_iff h hf hput]
  constructor
  · rintro ⟨_, row, rest, ⟨hc, rfl, t, ht, rfl⟩, hrow, hscan⟩
    cases hg : t.get? id with
    | none => simp [hg, Reply.ofRows] at hrow
    | some r =>
      obtain ⟨rfl, -⟩ : cells r = row ∧ [] = rest := by simpa [hg, Reply.ofRows] using hrow
      exact ⟨hc, rfl, t, r, ht, hg, hscan⟩
  · rintro ⟨hc, rfl, t, r, ht, hg, hscan⟩
    refine ⟨_, cells r, [], ⟨hc, rfl, t, ht, rfl⟩, ?_, hscan⟩
    rw [hg]
    rfl

theorem readRow_missing {t : Table ρ} (h : db.tables.answer q = through name slot put f)
    (hf : ∀ t, f t = .ok (.ofRows ((t.get? id).toList.map cells), t))
    (hput : ∀ t, slot = some t → put t = db.tables) (hc : db.closed = false) (ht : slot = some t)
    (hg : t.get? id = none) :
    readOne c missing scan q (.embedded db) = (.failed (.cause missing), .embedded db) := by
  have hs := (query_ok_iff h hf hput).mpr ⟨hc, rfl, t, ht, rfl⟩
  refine readOne_of_none hs ?_ rfl
  rw [hg]
  rfl

end

/-! ## the other calls -/

theorem allRows_ok_iff {α : Type} {c : String} {scan : Row → Except Failure α} {as : List α} :
    allRows c scan q b = (.ok as, b') ↔
      ∃ r, send q b = (.ok r, b') ∧ scanAll scan r = .ok as := by
  unfold allRows
  simp only [Action.bind_ok_iff, Action.context_ok_iff, Action.ofExcept_ok_iff]
  constructor
  · rintro ⟨r, b₁, hs, h, rfl⟩
    exact ⟨r, hs, h⟩
  · rintro ⟨r, hs, h⟩
    exact ⟨r, b', hs, h, rfl⟩

theorem exists_of_mem_forall₂ {α β : Type} {R : α → β → Prop} {as : List α} {bs : List β} {b : β}
    (h : List.Forall₂ R as bs) (hb : b ∈ bs) : ∃ a ∈ as, R a b := by
  induction h with
  | nil => cases hb
  | cons hr _ ih =>
    rcases List.mem_cons.mp hb with rfl | hb
    · exact ⟨_, List.mem_cons_self, hr⟩
    · obtain ⟨a, ha, hrest⟩ := ih hb
      exact ⟨a, List.mem_cons_of_mem _ ha, hrest⟩

theorem exists_forall₂ {ρ α : Type} {R : ρ → α → Prop} {rows : List ρ}
    (h : ∀ r ∈ rows, ∃ a, R r a) : ∃ as, List.Forall₂ R rows as := by
  induction rows with
  | nil => exact ⟨[], .nil⟩
  | cons r rows ih =>
    obtain ⟨a, ha⟩ := h r List.mem_cons_self
    obtain ⟨as, has⟩ := ih fun x hx => h x (List.mem_cons_of_mem _ hx)
    exact ⟨a :: as, .cons ha has⟩

/-- what agrees of each pair agrees of the lists -/
theorem map_eq_of_forall₂ {α β γ : Type} {f : α → γ} {g : β → γ} {as : List α} {bs : List β}
    (h : List.Forall₂ (fun a b => f a = g b) as bs) : as.map f = bs.map g := by
  induction h with
  | nil => rfl
  | cons hfg _ ih => rw [List.map_cons, List.map_cons, hfg, ih]

/-- every row of a reply is read, or none -/
theorem scanAll_ofRows_iff {ρ α : Type} {cells : ρ → Row} {scan : Row → Except Failure α}
    {rows : List ρ} {as : List α} : scanAll scan (.ofRows (rows.map cells)) = .ok as ↔
      List.Forall₂ (fun r a => scan (cells r) = .ok a) rows as := by
  have hscan : scanAll scan (.ofRows (rows.map cells)) = (rows.map cells).mapM scan := by
    show ((rows.map cells).mapM scan >>= fun as => Except.ok as) = _
    cases (rows.map cells).mapM scan <;> rfl
  rw [hscan]
  clear hscan
  induction rows generalizing as with
  | nil => simp [pure, Except.pure, eq_comm]
  | cons r rows ih =>
    rw [List.map_cons, List.mapM_cons, List.forall₂_cons_left_iff]
    cases ha : scan (cells r) with
    | error f => simp [bind, Except.bind]
    | ok a =>
      cases hrest : (rows.map cells).mapM scan with
      | error f => simp [hrest, bind, Except.bind, ← ih]
      | ok rest => simp [hrest, bind, Except.bind, pure, Except.pure, ← ih, eq_comm]

theorem touched_ok_iff {r : Reply} {n : Int} : touched r = .ok n ↔ r.affected = .ok n := by
  unfold touched
  cases r.affected with
  | ok m => exact ⟨fun h => congrArg Except.ok (Except.ok.inj h), fun h => h ▸ rfl⟩
  | error text => exact ⟨fun h => (nomatch h), fun h => (nomatch h)⟩

theorem changeOne_ok_iff {c : String} {missing : Cause} :
    changeOne c missing q b = (.ok (), b') ↔
      ∃ r n, send q b = (.ok r, b') ∧ r.affected = .ok n ∧ n ≠ 0 := by
  unfold changeOne
  simp only [Action.bind_ok_iff, Action.context_ok_iff, Action.ofExcept_ok_iff]
  constructor
  · rintro ⟨r, b₁, hs, n, b₂, ⟨hn, rfl⟩, h⟩
    by_cases h0 : n = 0
    · simp [h0] at h
    · rw [if_neg h0] at h
      cases h
      exact ⟨r, n, hs, touched_ok_iff.mp hn, h0⟩
  · rintro ⟨r, n, hs, hn, h0⟩
    exact ⟨r, b', hs, n, b', ⟨touched_ok_iff.mpr hn, rfl⟩, by rw [if_neg h0]; rfl⟩

/-- the embedded engine gives the id of a new row with its answer -/
theorem insertNew_embedded {db : Database} (hq : q.isQuery (.of .sqlite) = false) :
    insertNew q (.embedded db) = (send q >>= fun r => pure r.id) (.embedded db) := by
  unfold insertNew
  rw [Action.bind_of_ok Action.state_apply, if_neg (by simp [Backend.dialect, hq])]

theorem insertNew_ok_iff {db : Database} {id : Int} (hq : q.isQuery (.of .sqlite) = false) :
    insertNew q (.embedded db) = (.ok id, b) ↔
      ∃ r, send q (.embedded db) = (.ok r, b) ∧ id = r.id := by
  rw [insertNew_embedded hq, Action.bind_ok_iff]
  simp only [Action.pure_apply, Prod.mk.injEq, Outcome.ok.injEq]
  constructor
  · rintro ⟨r, b₁, hs, rfl, rfl⟩
    exact ⟨r, hs, rfl⟩
  · rintro ⟨r, hs, rfl⟩
    exact ⟨r, b, hs, rfl, rfl⟩

end

end OrderDesk.Store
