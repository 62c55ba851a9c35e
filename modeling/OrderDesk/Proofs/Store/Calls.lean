import OrderDesk.Proofs.Store.Orders

/-!
# What a call on the store leaves alone

* `ReadOnly`            an embedded engine is as it was, and one at the far end was only asked;
* `Tables.Change`, `answer_change`     what a statement can do to the tables;
* `send_readOnly`       a query changes nothing, and so does whatever is made of queries;
* `*_joins`             every call changes the tables of an engine and nothing else, or it fails and
                        the engine gave up its transaction;
* `changeOne_failed`    a change that fails changed nothing, or found no row to change;
* `eraseOne_failed`     a removal that fails removed nothing;
* `CategoriesOnly`      only the categories differ;
* `fresh_eq`            a new store is an engine with empty tables.
-/

set_option linter.unusedSectionVars false

namespace OrderDesk.Store

open OrderDesk.Action (Keeps KeepsOr NoPanic)

variable {σ α : Type} [Part σ Backend]

/-! ## queries -/

/-- may what is sent to an engine change it -/
def Sent.isChange : Sent → Bool
  | .signal .ping => false
  | .signal _ => true
  | .statement q => !q.isQuery (.of .sqlite)

/-- What of a store a call can change: the embedded engine as it is, or of all that was sent to an
engine at the far end what may change it. -/
def Backend.record : Backend → Database ⊕ List Sent
  | .embedded db => .inl db
  | .remote e => .inr (e.sent.filter Sent.isChange)

/-- An embedded engine is as it was, and an engine at the far end was asked at most. -/
def ReadOnly : σ → σ → Prop := Action.Fixed fun s => (storeOf s).record

instance : IsPreorder σ ReadOnly := inferInstanceAs (IsPreorder σ (Action.Fixed _))

theorem ReadOnly.embedded {s s' : σ} {db : Database} (h : ReadOnly s s')
    (hs : storeOf s = .embedded db) : storeOf s' = .embedded db := by
  have hrecord : (storeOf s').record = .inl db := by
    rw [show (storeOf s').record = (storeOf s).record from h, hs]
    rfl
  cases hs' : storeOf s' with
  | embedded db' =>
    rw [hs'] at hrecord
    rw [Sum.inl.inj hrecord]
  | remote e =>
    rw [hs'] at hrecord
    cases hrecord

section
variable {q : Statement} {r : Reply}

theorem onProducts_query {t t' : Table ProductRow} (hq : q.isQuery (.of .sqlite) = true)
    (h : Tables.onProducts t q = .ok (r, t')) : t' = t := by
  cases q with
  | insertProduct | updateProduct | deleteProduct => cases hq
  | countProducts p | listProducts p =>
    cases hm : matching p t.rows <;>
      simp [Tables.onProducts, hm, bind, Except.bind, pure, Except.pure] at h
    exact h.2.symm
  | _ => exact (Prod.mk.inj (Except.ok.inj h)).2.symm

theorem onOrders_query {t t' : Table OrderRow} (hq : q.isQuery (.of .sqlite) = true)
    (h : Tables.onOrders t q = .ok (r, t')) : t' = t := by
  cases q with
  | insertOrder | updateOrder | deleteOrder => cases hq
  | _ => exact (Prod.mk.inj (Except.ok.inj h)).2.symm

theorem onItems_query {t t' : Table ItemRow} (hq : q.isQuery (.of .sqlite) = true)
    (h : Tables.onItems t q = .ok (r, t')) : t' = t := by
  cases q with
  | insertItem | deleteItems => cases hq
  | selectItems ids =>
    simp only [Tables.onItems] at h
    split at h
    · cases h
    · exact (Prod.mk.inj (Except.ok.inj h)).2.symm
  | _ => exact (Prod.mk.inj (Except.ok.inj h)).2.symm

theorem onCategories_query {t t' : Table CategoryRow} (hq : q.isQuery (.of .sqlite) = true)
    (h : Tables.onCategories t q = .ok (r, t')) : t' = t := by
  cases q with
  | insertCategory | updateCategory | deleteCategory => cases hq
  | _ => exact (Prod.mk.inj (Except.ok.inj h)).2.symm

theorem answer_query {ts ts' : Tables} (hq : q.isQuery (.of .sqlite) = true)
    (h : ts.answer q = .ok (r, ts')) : ts' = ts := by
  cases hsub : q.subject with
  | products =>
    rw [answer_products hsub] at h
    obtain ⟨t, t', ht, ho, rfl⟩ := through_ok_iff.mp h
    rw [onProducts_query hq ho, ← ht]
  | orders =>
    rw [answer_orders hsub] at h
    obtain ⟨t, t', ht, ho, rfl⟩ := through_ok_iff.mp h
    rw [onOrders_query hq ho, ← ht]
  | items =>
    rw [answer_items hsub] at h
    obtain ⟨t, t', ht, ho, rfl⟩ := through_ok_iff.mp h
    rw [onItems_query hq ho, ← ht]
  | categories =>
    rw [answer_categories hsub] at h
    obtain ⟨t, t', ht, ho, rfl⟩ := through_ok_iff.mp h
    rw [onCategories_query hq ho, ← ht]
  | schema =>
    cases q with
    | readVersion =>
      cases hv : ts.versions with
      | none => simp [Tables.answer, hv] at h
      | some vs =>
        simp only [Tables.answer, hv, Tables.onVersions] at h
        rw [← (Prod.mk.inj (Except.ok.inj h)).2, ← hv]
    | createVersions | schema | recordVersion => cases hq
    | _ => cases hsub

end

/-! ## changes of a table -/

/-- What a statement can do to the rows of its table. -/
inductive Table.Change {ρ : Type} [HasId ρ] (t : Table ρ) : Table ρ → Prop
  | same : t.Change t
  | insert {make : Int → ρ} (hm : HasId.id (make t.nextId) = t.nextId) : t.Change (t.insert make)
  | update (id : Int) {f : ρ → ρ} (hf : ∀ r, HasId.id (f r) = HasId.id r) :
    t.Change (t.update id f)
  | erase (p : ρ → Bool) : t.Change (t.erase p)

/-- What a statement can do to the tables; one that it makes begins empty. -/
structure Tables.Change (ts ts' : Tables) : Prop where
  products : (ts.products.getD {}).Change (ts'.products.getD {})
  orders : (ts.orders.getD {}).Change (ts'.orders.getD {})
  items : (ts.items.getD {}).Change (ts'.items.getD {})
  categories : (ts.categories.getD {}).Change (ts'.categories.getD {})

theorem Tables.Change.same (ts : Tables) : ts.Change ts := ⟨.same, .same, .same, .same⟩

section
variable {q : Statement} {r : Reply}

theorem inserted_change {ρ : Type} [HasId ρ] {t t' : Table ρ} {refusal : Option Failure}
    {make : Int → ρ} (hm : HasId.id (make t.nextId) = t.nextId)
    (h : Tables.inserted t refusal make = .ok (r, t')) : t.Change t' := by
  obtain ⟨-, -, -, rfl⟩ := inserted_ok_iff.mp h
  exact .insert hm

theorem onProducts_change {t t' : Table ProductRow} (h : Tables.onProducts t q = .ok (r, t')) :
    t.Change t' := by
  cases q with
  | insertProduct => exact inserted_change rfl h
  | updateProduct =>
    simp only [Tables.onProducts] at h
    repeat' split at h
    · cases h
      exact .same
    · cases h
    · cases h
      exact .update _ fun _ => rfl
  | deleteProduct =>
    cases h
    exact .erase _
  | countProducts | listProducts => exact onProducts_query rfl h ▸ .same
  | _ => exact (Prod.mk.inj (Except.ok.inj h)).2 ▸ .same

theorem onOrders_change {t t' : Table OrderRow} (h : Tables.onOrders t q = .ok (r, t')) :
    t.Change t' := by
  cases q with
  | insertOrder => exact inserted_change rfl h
  | updateOrder =>
    simp only [Tables.onOrders] at h
    repeat' split at h
    · cases h
      exact .same
    · cases h
    · cases h
      exact .update _ fun _ => rfl
  | deleteOrder =>
    cases h
    exact .erase _
  | _ => exact (Prod.mk.inj (Except.ok.inj h)).2 ▸ .same

theorem onItems_change {t t' : Table ItemRow} (h : Tables.onItems t q = .ok (r, t')) :
    t.Change t' := by
  cases q with
  | insertItem =>
    have hinsert : Tables.inserted t none _ = .ok (r, t') := h
    exact inserted_change rfl hinsert
  | deleteItems =>
    cases h
    exact .erase _
  | selectItems => exact onItems_query rfl h ▸ .same
  | _ => exact (Prod.mk.inj (Except.ok.inj h)).2 ▸ .same

theorem onCategories_change {t t' : Table CategoryRow} (h : Tables.onCategories t q = .ok (r, t')) :
    t.Change t' := by
  cases q with
  | insertCategory => exact inserted_change rfl h
  | updateCategory =>
    simp only [Tables.onCategories] at h
    repeat' split at h
    · cases h
      exact .same
    · cases h
    · cases h
      exact .update _ fun _ => rfl
  | deleteCategory =>
    cases h
    exact .erase _
  | _ => exact (Prod.mk.inj (Except.ok.inj h)).2 ▸ .same

/-- **What a statement does** to the tables. -/
theorem answer_change {ts ts' : Tables} (h : ts.answer q = .ok (r, ts')) : ts.Change ts' := by
  cases hsub : q.subject with
  | products =>
    rw [answer_products hsub] at h
    obtain ⟨t, t', ht, ho, rfl⟩ := through_ok_iff.mp h
    exact { Tables.Change.same ts with products := ht ▸ onProducts_change ho }
  | orders =>
    rw [answer_orders hsub] at h
    obtain ⟨t, t', ht, ho, rfl⟩ := through_ok_iff.mp h
    exact { Tables.Change.same ts with orders := ht ▸ onOrders_change ho }
  | items =>
    rw [answer_items hsub] at h
    obtain ⟨t, t', ht, ho, rfl⟩ := through_ok_iff.mp h
    exact { Tables.Change.same ts with items := ht ▸ onItems_change ho }
  | categories =>
    rw [answer_categories hsub] at h
    obtain ⟨t, t', ht, ho, rfl⟩ := through_ok_iff.mp h
    exact { Tables.Change.same ts with categories := ht ▸ onCategories_change ho }
  | schema =>
    cases q with
    | createVersions =>
      cases h
      exact { Tables.Change.same ts with }
    | schema object =>
      cases h
      cases object <;> exact { Tables.Change.same ts with }
    | readVersion | recordVersion =>
      cases hv : ts.versions with
      | none => simp [Tables.answer, hv] at h
      | some vs =>
        simp only [Tables.answer, hv, Except.ok.injEq, Prod.mk.injEq] at h
        rw [← h.2]
        exact { Tables.Change.same ts with }
    | _ => cases hsub

end

/-- a statement to an engine at the far end is noted there -/
theorem send_remote (q : Statement) (e : Remote) : ∃ e', (send q (.remote e)).2 = .remote e' ∧
    e'.sent = e.sent ++ [.statement q] := by
  obtain ⟨dialect, answers, sent, refusals, busy⟩ := e
  rcases answers with _ | ⟨text | reply, rest⟩ <;> exact ⟨_, rfl, rfl⟩

theorem send_readOnly {q : Statement} (hq : q.isQuery (.of .sqlite) = true) :
    Keeps ReadOnly (send q) := by
  intro b
  cases b with
  | embedded db =>
    rcases h : send q (.embedded db) with ⟨o, b'⟩
    cases o with
    | ok r =>
      obtain ⟨-, ts, ha, rfl⟩ := send_ok_iff.mp h
      rw [answer_query hq ha]
      rfl
    | failed f =>
      obtain rfl := send_spares (takesId_of_query hq) h
      rfl
    | panicked t => exact absurd h send_not_panicked
  | remote e =>
    obtain ⟨e', he, hsent⟩ := send_remote q e
    show (send q (.remote e)).2.record = Backend.record (.remote e)
    have hasked : Sent.isChange (.statement q) = false := by simp [Sent.isChange, hq]
    rw [he, Backend.record, Backend.record, hsent, List.filter_append]
    simp [hasked]

theorem joins_of_readOnly {x : Action σ α} (hx : Keeps ReadOnly x) : Joins x :=
  (hx.mono fun _ _ h db hs => ⟨db.tables, h.embedded hs⟩).keepsOr

theorem Orders.loadLines_readOnly (os : List Order) : Keeps ReadOnly (Orders.loadLines os) := by
  unfold Orders.loadLines
  split
  · exact .pure _
  · exact (allRows_keeps _ _ (send_readOnly rfl)).bind fun _ => .pure _

theorem Orders.read_readOnly (keep : Bool) (id : Int) : Keeps ReadOnly (Orders.read keep id) := by
  refine (readOne_keeps _ _ _ (send_readOnly rfl)).bind fun o => ?_
  refine (Orders.loadLines_readOnly [o]).bind fun os => ?_
  split <;> exact .pure _

theorem Orders.exists?_readOnly (id : Int) : Keeps ReadOnly (Orders.exists? id) :=
  (firstRow_keeps scanInt (send_readOnly rfl)).context.bind fun _ => .pure _

theorem Orders.find_readOnly (status : Option Status) (page : PageRequest) :
    Keeps ReadOnly (Orders.find status page) := by
  refine (firstRow_keeps scanInt (send_readOnly rfl)).context.bind fun total => ?_
  split
  · exact .pure _
  · refine (allRows_keeps _ _ (send_readOnly rfl)).bind fun os => ?_
    exact (Orders.loadLines_readOnly os).bind fun _ => .pure _

theorem Products.list_readOnly (fragment : String) (page : PageRequest) :
    Keeps ReadOnly (Products.list fragment page) := by
  refine (firstRow_keeps scanInt (send_readOnly rfl)).context.bind fun total => ?_
  exact (allRows_keeps _ _ (send_readOnly rfl)).bind fun _ => .pure _

theorem Categories.get_readOnly (id : Int) : Keeps ReadOnly (Categories.get id) :=
  readOne_keeps _ _ _ (send_readOnly rfl)

theorem Categories.nameTaken_readOnly (name : String) (besides : Int) :
    Keeps ReadOnly (Categories.nameTaken name besides) :=
  (firstRow_keeps scanInt (send_readOnly rfl)).context.bind fun _ => .pure _

/-! ## reading an order -/

/-- The tables spell an order under an id. -/
def Tables.Reads (ts : Tables) (id : Int) (o : Order) : Prop :=
  ∃ book lines r o₀ ls, ts.orders = some book ∧ ts.items = some lines ∧ book.get? id = some r ∧
    r.order? = some o₀ ∧ List.Forall₂ (fun r l => ItemRow.line? r = some l)
      ((linesOf lines id).mergeSort ItemRow.before) ls ∧ o = { o₀ with lines := some ls }

theorem Tables.Reads.id_eq {ts : Tables} {id : Int} {o : Order} (h : ts.Reads id o) : o.id = id := by
  obtain ⟨book, lines, r, o₀, ls, -, -, hget, ho, -, rfl⟩ := h
  have hrow : o₀.id = r.id := (OrderRow.order?_eq_some_iff.mp ho).1
  exact hrow.trans (Table.get?_some hget).2

theorem Orders.reads_iff {keep : Bool} {id : Int} {o : Order} {db : Database} {b : Backend} :
    read keep id (.embedded db) = (.ok o, b) ↔
      db.closed = false ∧ b = .embedded db ∧ db.tables.Reads id o := Orders.read_ok_iff

/-! ## changes -/

theorem send_noPanic (q : Statement) : NoPanic (send q) :=
  fun b _ h => send_not_panicked (b := b) (Prod.ext h rfl)

theorem insertNew_noPanic (q : Statement) : NoPanic (insertNew q) := by
  refine NoPanic.bind (fun _ _ => nofun) fun b => ?_
  split
  · refine (send_noPanic q).bind fun r => ?_
    split
    · exact .ofExcept _
    · exact fun _ _ => nofun
    · exact fun _ _ => nofun
  · exact (send_noPanic q).bind fun _ _ _ => nofun

theorem changeOne_noPanic (c : String) (missing : Cause) (q : Statement) :
    NoPanic (changeOne c missing q) := by
  refine (send_noPanic q).context.bind fun r => (NoPanic.ofExcept _).bind fun n => ?_
  split <;> exact fun _ _ => nofun

/-- a change that fails changed nothing, or found no row to change -/
theorem changeOne_failed {c : String} {missing : Cause} {q : Statement} {db : Database}
    {f : Failure} {b : Backend} (hq : q.takesId = false)
    (h : changeOne c missing q (.embedded db) = (.failed f, b)) :
    b = .embedded db ∨ ∃ r, send q (.embedded db) = (.ok r, b) ∧ ∀ n, r.affected = .ok n → n = 0 := by
  unfold changeOne at h
  rw [Action.bind_failed_iff] at h
  rcases h with h | ⟨r, b₁, hs, h⟩
  · obtain ⟨g, hs, -⟩ := Action.context_failed_iff.mp h
    exact .inl (send_spares hq hs)
  have hs := Action.context_ok_iff.mp hs
  rw [Action.bind_failed_iff] at h
  rcases h with h | ⟨n, b₂, hn, h⟩
  · obtain ⟨he, rfl⟩ := Action.ofExcept_failed_iff.mp h
    refine .inr ⟨r, hs, fun n hn => ?_⟩
    rw [touched_ok_iff.mpr hn] at he
    cases he
  · obtain ⟨he, rfl⟩ := Action.ofExcept_ok_iff.mp hn
    by_cases h0 : n = 0
    · rw [if_pos h0] at h
      obtain ⟨-, rfl⟩ := Prod.mk.inj h
      refine .inr ⟨r, hs, fun m hm => ?_⟩
      have : n = m := Except.ok.inj ((touched_ok_iff.mp he).symm.trans hm)
      rw [← this]
      exact h0
    · rw [if_neg h0] at h
      cases h

/-- a removal of rows of one table that fails removed nothing -/
theorem eraseOne_failed {ρ : Type} [HasId ρ] {name : String} {slot : Option (Table ρ)}
    {put : Table ρ → Tables} {f : Table ρ → Except Failure (Reply × Table ρ)} {p : ρ → Bool}
    {c : String} {missing : Cause} {q : Statement} {db : Database} {g : Failure} {b : Backend}
    (hq : q.takesId = false) (ha : db.tables.answer q = through name slot put f)
    (hf : ∀ t, f t = .ok (.changed (t.count p), t.erase p))
    (hput : ∀ t, slot = some t → put t = db.tables)
    (h : changeOne c missing q (.embedded db) = (.failed g, b)) : b = .embedded db := by
  rcases changeOne_failed hq h with h | ⟨r, hs, hn⟩
  · exact h
  · obtain ⟨-, t, t', ht, ho, rfl⟩ := (send_through ha).mp hs
    rw [hf] at ho
    obtain ⟨rfl, rfl⟩ := Prod.mk.inj (Except.ok.inj ho)
    rw [Table.erase_of_count_eq_zero (hn _ rfl), hput t ht]

namespace Products

theorem insert_failed {p : Product} {db : Database} {f : Failure} {b : Backend} (h0 : p.id = 0)
    (hr : db.saved = none) (h : save p (.embedded db) = (.failed f, b)) : b = .embedded db := by
  unfold save at h
  rw [if_pos h0, Action.bind_failed_iff] at h
  rcases h with h | ⟨id, b₁, -, h⟩
  · obtain ⟨g, h, -⟩ := Action.context_failed_iff.mp h
    rw [insertNew_embedded rfl, Action.bind_failed_iff] at h
    rcases h with h | ⟨r, b₂, -, h⟩
    · rw [send_failed h, Database.refuse_at_rest g hr]
    · cases h
  · cases h

theorem insert_noPanic {p : Product} (h0 : p.id = 0) : NoPanic (save p) := by
  unfold save
  rw [if_pos h0]
  exact (insertNew_noPanic _).context.bind fun _ _ _ => nofun

theorem delete_failed {id : Int} {db : Database} {f : Failure} {b : Backend}
    (h : delete id (.embedded db) = (.failed f, b)) : b = .embedded db :=
  eraseOne_failed rfl (answer_products rfl) (fun _ => rfl) (fun t ht => by rw [← ht]) h

end Products

theorem Categories.delete_failed {id : Int} {db : Database} {f : Failure} {b : Backend}
    (h : Categories.delete id (.embedded db) = (.failed f, b)) : b = .embedded db :=
  eraseOne_failed rfl (answer_categories rfl) (fun _ => rfl) (fun t ht => by rw [← ht]) h

/-! ## inside a transaction -/

theorem Products.read_joins (keep : Bool) (id : Int) : Joins (Products.read keep id) :=
  joins_of_readOnly (readOne_keeps _ _ _ (send_readOnly rfl))

theorem Products.save_joins (p : Product) : Joins (Products.save p) := by
  unfold Products.save
  split
  · exact (insertNew_keepsOr (send_joins _)).context.bind fun _ => (Keeps.pure _).keepsOr
  · exact (changeOne_keepsOr _ _ (send_joins _)).bind fun _ => (Keeps.pure _).keepsOr

namespace Orders

theorem insertLines_joins (id : Int) (i : Nat) (ls : List Line) : Joins (insertLines id i ls) := by
  induction ls generalizing i with
  | nil => exact (Keeps.pure _).keepsOr
  | cons l ls ih => exact (send_joins _).context.bind fun _ => ih (i + 1)

theorem storeRow_joins (o : Order) : Joins (storeRow o) := by
  unfold storeRow
  split
  · exact (insertNew_keepsOr (send_joins _)).context
  · refine KeepsOr.bind ?_ fun _ => (Keeps.pure _).keepsOr
    exact (changeOne_keepsOr _ _ (send_joins _)).bind fun _ =>
      (send_joins _).context.bind fun _ => (Keeps.pure _).keepsOr

theorem write_joins (o : Order) : Joins (write o) := by
  have hid : ∀ id, Keeps TablesOnly (Action.change fun d : Draft => { d with id }) :=
    fun id d db hd => ⟨db.tables, hd⟩
  unfold write
  split
  · exact within_joins ((onStore_joins (storeRow_joins o)).bind fun id =>
      (hid id).keepsOr.bind fun _ => onStore_joins (insertLines_joins id 0 o.items))
  · exact (Keeps.raise _).keepsOr

theorem save_joins (o : Order) : Joins (save o) := by
  intro b
  have h := write_joins o ⟨b, o.id⟩
  unfold save
  rcases hw : write o ⟨b, o.id⟩ with ⟨r, d⟩
  rw [hw] at h
  cases r with
  | ok u => exact .inl (h.resolve_right fun h => h.1 u rfl)
  | failed f => exact h.imp id fun h => ⟨fun _ => nofun, h.2⟩
  | panicked t => exact h.imp id fun h => ⟨fun _ => nofun, h.2⟩

theorem read_joins (keep : Bool) (id : Int) : Joins (read keep id) :=
  joins_of_readOnly (read_readOnly keep id)

theorem exists?_joins (id : Int) : Joins (exists? id) := joins_of_readOnly (exists?_readOnly id)

theorem delete_joins (id : Int) : Joins (delete id) :=
  within_joins ((send_joins _).context.bind fun _ => changeOne_keepsOr _ _ (send_joins _))

end Orders

namespace Categories

theorem nameTaken_joins (name : String) (besides : Int) : Joins (nameTaken name besides) :=
  joins_of_readOnly (nameTaken_readOnly name besides)

theorem save_keepsOr {R S : Backend → Backend → Prop} [IsPreorder Backend R] [Trans R S S]
    {c : Category} (hi : KeepsOr R S (send (.insertCategory c.name c.createdAt c.updatedAt)))
    (hu : KeepsOr R S (send (.updateCategory c.id c.name c.updatedAt))) : KeepsOr R S (save c) := by
  unfold save
  split
  · exact (insertNew_keepsOr hi).context.bind fun _ => (Keeps.pure _).keepsOr
  · exact (changeOne_keepsOr _ _ hu).bind fun _ => (Keeps.pure _).keepsOr

theorem save_joins (c : Category) : Joins (save c) := save_keepsOr (send_joins _) (send_joins _)

end Categories

/-! ## the categories alone -/

/-- Only the categories of an embedded engine differ. -/
def CategoriesOnly (s s' : σ) : Prop := ∀ db, storeOf s = .embedded db →
  ∃ cs, storeOf s' = .embedded { db with tables := { db.tables with categories := cs } }

instance : IsPreorder σ CategoriesOnly where
  refl _ db h := ⟨db.tables.categories, h⟩
  trans _ _ _ h₁ h₂ db h := by
    obtain ⟨cs₁, e₁⟩ := h₁ db h
    obtain ⟨cs₂, e₂⟩ := h₂ _ e₁
    exact ⟨cs₂, e₂⟩

theorem CategoriesOnly.tablesOnly {s s' : σ} (h : CategoriesOnly s s') : TablesOnly s s' := by
  intro db hs
  obtain ⟨cs, hs'⟩ := h db hs
  exact ⟨_, hs'⟩

instance : Trans (CategoriesOnly (σ := σ)) (GaveUp (σ := σ)) (GaveUp (σ := σ)) where
  trans h₁ h₂ := Trans.trans h₁.tablesOnly h₂

theorem categoriesOnly_of_readOnly {x : Action σ α} (hx : Keeps ReadOnly x) :
    KeepsOr CategoriesOnly GaveUp x :=
  (hx.mono fun _ _ h db hs => ⟨db.tables.categories, h.embedded hs⟩).keepsOr

theorem onStore_categoriesOnly [LawfulPart σ Backend] {x : Action Backend α}
    (hx : KeepsOr CategoriesOnly GaveUp x) :
    KeepsOr CategoriesOnly GaveUp (onStore x : Action σ α) := onStore_keepsOr hx

theorem send_categoriesOnly {q : Statement} (hq : q.subject = .categories) :
    KeepsOr CategoriesOnly GaveUp (send q) := by
  refine send_keepsOr (fun e b db h => nomatch h) fun db r ts ha db' h => ?_
  obtain rfl := Backend.embedded.inj h
  rw [answer_categories hq] at ha
  obtain ⟨t, t', -, -, rfl⟩ := through_ok_iff.mp ha
  exact ⟨some t', rfl⟩

theorem Categories.save_categoriesOnly (c : Category) : KeepsOr CategoriesOnly GaveUp (save c) :=
  save_keepsOr (send_categoriesOnly rfl) (send_categoriesOnly rfl)

theorem Categories.delete_categoriesOnly (id : Int) : KeepsOr CategoriesOnly GaveUp (delete id) :=
  changeOne_keepsOr _ _ (send_categoriesOnly rfl)

/-! ## a new store -/

def engine? : Backend → Option Database
  | .embedded db => some db
  | .remote _ => none

theorem eq_of_engine? {b : Backend} {db : Database} (h : engine? b = some db) : b = .embedded db := by
  cases b with
  | embedded db' => exact congrArg Backend.embedded (Option.some.inj h)
  | remote r => cases h

theorem fresh_eq : fresh = .embedded { tables := {
    products := some {}, orders := some {}, items := some {}, categories := some {}
    versions := some [1, 2] } } :=
  eq_of_engine? (by decide +kernel)

end OrderDesk.Store
