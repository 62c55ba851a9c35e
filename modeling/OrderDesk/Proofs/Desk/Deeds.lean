import OrderDesk.Proofs.Desk.Changes
import OrderDesk.Proofs.Store.Reading

/-!
# Every call is a deed

* `createOrder_deed`      a creation: nothing, or a new order;
* `changeStatus_deed`, `deleteOrder_deed`      a move and a deletion;
* `createProduct_deed`, `updateProduct_deed`, ...      the catalog;
* `Request.deed`          every call from a store at rest.
-/

namespace OrderDesk.Desk

open OrderDesk.Action (Keeps KeepsOr)
open Store (Backend Database Tables Table ProductRow inside)

/-! ## creations -/

section
variable {s : Scope} {r : OrderRequest} {W : List String} {d : Desk} {db : Database}

theorem names_of_usesKey (h : usesKey d r = true) :
    r.names = [Idempotency.lockKey r.client r.key, Idempotency.resultKey r.client r.key] := by
  have hkey : r.key ≠ "" := by
    have := (Bool.and_eq_true_iff.mp h).2
    simpa using this
  exact if_neg hkey

theorem storeOrRelease_idle (hs : d.store = .embedded db) (hr : db.saved = none)
    (hW : Idempotency.lockKey r.client r.key ∈ W) (h : ∀ o, (reserveAndStore r.items d).1 ≠ .ok o) :
    Writes W d (storeOrRelease r true d).2 := by
  have hw : Writes W d (reserveAndStore r.items d).2 :=
    transaction_idle (placeOrder_works r.items) hs hr h
  unfold storeOrRelease Action.orElse
  rcases hstore : reserveAndStore r.items d with ⟨o, d₁⟩
  rw [hstore] at h hw
  cases o with
  | ok o => exact absurd rfl (h o)
  | failed f =>
    have hrelease : Keeps (Writes W) (releaseKey r >>= fun _ => (Action.fail f : Action Desk Order)) :=
      (releaseKey_writes r hW).bind fun _ => .fail _
    exact trans_of (Writes W) hw (hrelease d₁)
  | panicked t => exact hw

theorem storeOrRelease_ok_iff {o : Order} {d' : Desk} {keyed : Bool} :
    storeOrRelease r keyed d = (.ok o, d') ↔ reserveAndStore r.items d = (.ok o, d') := by
  unfold storeOrRelease
  rw [Action.orElse_ok_iff]
  constructor
  · rintro (h | ⟨f, d₁, -, h⟩)
    · exact h
    · cases keyed <;> simp at h
  · exact .inl

theorem wellFormed_of_checkItems {items : List ItemRequest} {u : Unit}
    (h : checkItems items = .ok u) : WellFormed items := by
  rcases checkItems_ends items with ⟨-, hw⟩ | ⟨c, -, hbad, -⟩
  · exact hw
  · rw [hbad] at h
    cases h

/-- a creation under a key that led to nothing yet -/
def createLocked (s : Scope) (r : OrderRequest) : Action Desk Summary := do
  lockKey r
  let o ← storeOrRelease r true
  afterwards s r true o

/-- a well-formed order is stored, and what follows is written under it and under its key -/
theorem reserved_deed (s s₀ : Scope) {keyed : Bool} (hform : WellFormed r.items)
    (hk : keyed = true → Idempotency.resultKey r.client r.key ∈ r.names)
    (hs : d.store = .embedded db) (hr : db.saved = none) : ∃ c, Deed (.change (.createOrder s₀ r)) c
      d ((reserveAndStore r.items >>= afterwards s r keyed) d).2 := by
  refine transaction_deed (placeOrder_works r.items) hs hr fun o d₁ hplace => ?_
  obtain ⟨t, t', book, lines, ht, hbook, hlines, hplaced, hstored⟩ := placeOrder_ok
    (d := { d with store := .embedded (inside db db.tables) }) rfl rfl hform hplace
  refine ⟨.placed o, _, hstored, .placed ht hbook hlines hform hplaced, ?_, ?_, _, rfl,
    afterwards_announces s r keyed o⟩
  · exact afterwards_writes s r keyed o List.mem_cons_self
      fun h => List.mem_append_right _ (hk h)
  · intro name raw hc
    obtain ⟨rfl, hraw⟩ := Prod.mk.inj (Option.some.inj hc)
    exact afterwards_leaves s r keyed hraw

theorem createLocked_deed (s s₀ : Scope) (hform : WellFormed r.items) (hk : usesKey d r = true)
    (hs : d.store = .embedded db) (hr : db.saved = none) :
    ∃ c, Deed (.change (.createOrder s₀ r)) c d (createLocked s r d).2 := by
  have hlock : Idempotency.lockKey r.client r.key ∈ r.names := by simp [names_of_usesKey hk]
  have htaken : Writes r.names d (lockKey r d).2 := lockKey_writes r hlock d
  have hquiet : (lockKey r d).2.broker = d.broker := lockKey_hushed r d
  refine deed_of_bind hs htaken hquiet fun _ d₁ _ hwrites => ?_
  have hs₁ : d₁.store = .embedded db := hwrites.store.trans hs
  rcases Action.bind_ends (storeOrRelease r true) (afterwards s r true) d₁ with
    ⟨o, d₂, hstore, hend⟩ | ⟨hno, -, hend⟩
  · have hsame := Action.bind_of_ok (f := afterwards s r true) (storeOrRelease_ok_iff.mp hstore)
    rw [hend, ← hsame]
    exact reserved_deed s s₀ hform (fun _ => by simp [names_of_usesKey hk]) hs₁ hr
  · have hundone : ∀ o, (reserveAndStore r.items d₁).1 ≠ .ok o := by
      intro o ho
      exact hno o (congrArg Prod.fst (storeOrRelease_ok_iff.mpr (Prod.ext ho rfl)))
    rw [hend]
    exact ⟨.idle, .idle hs₁ (storeOrRelease_idle hs₁ hr hlock hundone)
      (storeOrRelease_hushed r true d₁)⟩

end

section
variable {limit : Decimal} {s : Scope} {d : Desk} {db : Database}

/-- a creation, its span and its counters aside -/
theorem createUnmeasured_deed (s s₀ : Scope) (r : OrderRequest) (hs : d.store = .embedded db)
    (hr : db.saved = none) :
    ∃ c, Deed (.change (.createOrder s₀ r)) c d (createUnmeasured s r d).2 := by
  cases hcheck : checkItems r.items with
  | error f =>
    have hend : createUnmeasured s r d = (.failed f, d) := by
      unfold createUnmeasured
      rw [hcheck]
      rfl
    rw [hend]
    exact ⟨.idle, .idle hs (refl_of (Writes r.names) d) rfl⟩
  | ok u =>
    have hform : WellFormed r.items := wellFormed_of_checkItems hcheck
    cases hk : usesKey d r with
    | false =>
      rw [createUnmeasured_unkeyed hk, hcheck, Action.bind_of_ok Action.ofExcept_ok]
      exact reserved_deed s s₀ hform nofun hs hr
    | true =>
      rw [createUnmeasured_keyed hk, hcheck, Action.bind_of_ok Action.ofExcept_ok]
      refine deed_of_bind hs (lookBack_writes r d) (lookBack_hushed r d) fun found d₁ _ hfound => ?_
      have hs₁ : d₁.store = .embedded db := hfound.store.trans hs
      have hk₁ : usesKey d₁ r = true := (hfound.usesKey r).trans hk
      cases found with
      | some raw =>
        have hlooks : Writes r.names d₁ (replay s raw d₁).2 := replay_looks s raw d₁ ⟨db, hs₁⟩
        exact ⟨.idle, .idle hs₁ hlooks (replay_hushed s raw d₁)⟩
      | none => exact createLocked_deed s s₀ hform hk₁ hs₁ hr

/-- **A creation that is answered**: with what its key led to before, or with an order that its
transaction stored. -/
theorem createUnmeasured_ok {s : Scope} {a : Summary} {d' : Desk}
    (h : createUnmeasured s r d = (.ok a, d')) :
    (∃ raw d₁, usesKey d r = true ∧ lookBack r d = (.ok (some raw), d₁) ∧
      replay s raw d₁ = (.ok a, d')) ∨
    ∃ d₁ d₂ o, WellFormed r.items ∧ Writes r.names d d₁ ∧
      reserveAndStore r.items d₁ = (.ok o, d₂) ∧ afterwards s r (usesKey d r) o d₂ = (.ok a, d') := by
  cases hk : usesKey d r with
  | false =>
    rw [createUnmeasured_unkeyed hk] at h
    obtain ⟨_, _, hcheck, hrest⟩ := Action.bind_ok_iff.mp h
    obtain ⟨hform, rfl⟩ := Action.ofExcept_ok_iff.mp hcheck
    obtain ⟨o, d₂, hstore, hafter⟩ := Action.bind_ok_iff.mp hrest
    exact .inr ⟨_, d₂, o, wellFormed_of_checkItems hform, refl_of (Writes r.names) _, hstore, hafter⟩
  | true =>
    rw [createUnmeasured_keyed hk] at h
    obtain ⟨_, _, hcheck, hrest⟩ := Action.bind_ok_iff.mp h
    obtain ⟨hform, rfl⟩ := Action.ofExcept_ok_iff.mp hcheck
    obtain ⟨found, d₁, hback, hend⟩ := Action.bind_ok_iff.mp hrest
    cases found with
    | some raw => exact .inl ⟨raw, d₁, rfl, hback, hend⟩
    | none =>
      obtain ⟨_, d₂, hlock, hlocked⟩ := Action.bind_ok_iff.mp hend
      obtain ⟨o, d₃, hstore, hafter⟩ := Action.bind_ok_iff.mp hlocked
      have hfound : Writes r.names _ d₁ := (lookBack_writes r).of_eq hback
      have htaken : Writes r.names d₁ d₂ :=
        (lockKey_writes r (by simp [names_of_usesKey hk])).of_eq hlock
      exact .inr ⟨d₂, d₃, o, wellFormed_of_checkItems hform,
        trans_of (Writes r.names) hfound htaken, storeOrRelease_ok_iff.mp hstore, hafter⟩

/-- **A creation is a deed**: nothing, or a new order. -/
theorem createOrder_deed (s : Scope) (r : OrderRequest) (hs : d.store = .embedded db)
    (hr : db.saved = none) :
    ∃ c, Deed (.change (.createOrder s r)) c d (createOrder s r d).2 := by
  rcases h : createOrder s r d with ⟨out, d'⟩
  obtain ⟨s', t, t', m, d₁, hcreate, rfl⟩ := createOrder_end h
  obtain ⟨c, hc⟩ := createUnmeasured_deed s' s r (d := { d with tracer := t }) hs hr
  rw [hcreate] at hc
  have hcounted : Writes [] d₁ { d₁ with meter := m } := ⟨rfl, rfl, fun _ _ => rfl⟩
  exact ⟨c, (hc.after hcounted rfl).span⟩

end

/-! ## moves and deletions -/

theorem moveTo_id {o o' : Order} {target : Status} {now : Stamp}
    (h : o.moveTo target now = .ok o') : o'.id = o.id := by
  unfold Order.moveTo at h
  split at h
  · rw [← Except.ok.inj h]
  · cases h

section
variable {limit : Decimal} {s : Scope} {id : Int} {d d' : Desk} {db : Database}

/-- what the body of a move read, and what it is to store -/
theorem moveOrder_reads {target : Status} {moved : Order × Order} (hs : d.store = .embedded db)
    (h : moveOrder id target d = (.ok moved, d')) : db.tables.Reads id moved.1 ∧
      moved.1.moveTo target d.clock.utc = .ok moved.2 ∧
      ∃ o b, Store.Orders.save moved.2 (.embedded db) = (.ok o, b) ∧ d'.store = b := by
  obtain ⟨before, d₁, hlock, h⟩ := Action.bind_ok_iff.mp h
  obtain ⟨b, hread, rfl⟩ := onStore_eq_iff.mp hlock
  rw [hs] at hread
  obtain ⟨-, rfl, hreads⟩ := Store.Orders.reads_iff.mp hread
  rw [Action.bind_of_ok now_apply] at h
  obtain ⟨after, d₂, hmove, h⟩ := Action.bind_ok_iff.mp h
  obtain ⟨hmoved, rfl⟩ := Action.ofExcept_ok_iff.mp hmove
  obtain ⟨o, d₃, hsave, h⟩ := Action.bind_ok_iff.mp h
  obtain ⟨-, b, hwrite, rfl⟩ := stored_ok_iff.mp (Action.context_ok_iff.mp hsave)
  obtain ⟨hpair, rfl⟩ := Prod.mk.inj h
  obtain rfl : (before, after) = moved := Outcome.ok.inj hpair
  exact ⟨hreads, hmoved, o, b, hwrite, rfl⟩

/-- **The transaction of a move went through**: what it did. -/
theorem moveOrder_ok {target : Status} {moved : Order × Order} (hs : d.store = .embedded db)
    (hopen : db.saved.isSome) (hkept : db.tables.Kept limit)
    (h : moveOrder id target d = (.ok moved, d')) : ∃ book lines, db.tables.orders = some book ∧
      db.tables.items = some lines ∧ db.tables.Reads id moved.1 ∧
      moved.1.moveTo target d.clock.utc = .ok moved.2 ∧ d'.store = .embedded { db with
        tables := Store.Orders.withChanged db.tables book lines moved.2 } := by
  obtain ⟨hreads, hmoved, o, b, hwrite, rfl⟩ := moveOrder_reads hs h
  have hne : moved.2.id ≠ 0 := by
    obtain ⟨-, hid, hpos, -⟩ := hkept.reads hreads
    have hsame : moved.2.id = moved.1.id := moveTo_id hmoved
    omega
  obtain ⟨-, -, book, lines, hbook, hlines, -, -, -, -, hstore⟩ :=
    (Store.Orders.update_ok_iff hopen hne).mp hwrite
  exact ⟨book, lines, hbook, hlines, hreads, hmoved, hstore⟩

/-- **The transaction of a deletion went through**: what it did. -/
theorem eraseOrder_ok (hs : d.store = .embedded db) (hopen : db.saved.isSome)
    (h : eraseOrder id d = (.ok (), d')) : ∃ book lines, db.tables.orders = some book ∧
      db.tables.items = some lines ∧ d'.store = .embedded { db with tables := { db.tables with
        orders := some (book.erase (·.id == id)),
        items := some (lines.erase (·.orderId == .int id)) } } := by
  obtain ⟨there, d₁, hfind, h⟩ := Action.bind_ok_iff.mp h
  obtain ⟨-, b, hread, rfl⟩ := stored_ok_iff.mp hfind
  have hb : b = .embedded db := ((Store.Orders.exists?_readOnly id).of_eq hread).embedded hs
  cases there with
  | false => cases h
  | true =>
    obtain ⟨b', hdel, rfl⟩ := onStore_eq_iff.mp h
    rw [show Desk.store _ = .embedded db from hb] at hdel
    exact Store.Orders.delete_ok hopen hdel

/-- **A change of status is a deed**: nothing, or a move. -/
theorem changeStatus_deed {r : Request} {target : Status} (s : Scope)
    (hmove? : r.move? = some (id, target)) (hs : d.store = .embedded db) (hr : db.saved = none)
    (hkept : db.tables.Kept limit) : ∃ c, Deed r c d (changeStatus s id target d).2 := by
  rcases h : changeStatus s id target d with ⟨out, d'⟩
  obtain ⟨s', t, t', d₁, hbody, rfl⟩ := inSpan_end h
  have hdeed : ∃ c, Deed r c { d with tracer := t } ((moveStored id target >>= fun moved =>
      afterMove s' id moved.1 moved.2) { d with tracer := t }).2 := by
    refine transaction_deed (moveOrder_works id target) hs hr fun moved d₂ hmove => ?_
    obtain ⟨book, lines, hbook, hlines, hread, hmoved, hstored⟩ := moveOrder_ok
      (d := { d with tracer := t, store := .embedded (inside db db.tables) })
      (show _ = Backend.embedded (inside db db.tables) from rfl) rfl hkept hmove
    have hid : moved.2.id = id := (moveTo_id hmoved).trans hread.id_eq
    refine ⟨.moved moved.2, _, hstored, .moved hmove? hbook hlines hread hmoved, ?_, ?_, _,
      fun before hbefore => ?_, afterMove_announces s' id moved.1 moved.2⟩
    · exact afterMove_writes s' id moved.1 moved.2 List.mem_cons_self
    · intro name raw hc
      obtain ⟨rfl, hraw⟩ := Prod.mk.inj (Option.some.inj hc)
      exact afterMove_leaves s' id moved.1 hraw
    · rw [hid] at hbefore ⊢
      rw [hread.unique hbefore]
  obtain ⟨c, hc⟩ := hdeed
  rw [show _ = d₁ from congrArg Prod.snd hbody] at hc
  exact ⟨c, hc.span⟩

/-- **A deletion is a deed**: nothing, or an order less. -/
theorem deleteOrder_deed (s : Scope) (hs : d.store = .embedded db) (hr : db.saved = none) :
    ∃ c, Deed (.change (.deleteOrder s id)) c d (deleteOrder s id d).2 := by
  refine transaction_deed (eraseOrder_works id) hs hr fun _ d₁ herase => ?_
  obtain ⟨book, lines, hbook, hlines, hstored⟩ := eraseOrder_ok
    (d := { d with store := .embedded (inside db db.tables) }) rfl rfl herase
  refine ⟨.erased id, _, hstored, .erased hbook hlines, ?_, ?_, [], rfl,
    (log_silent _ _ _ _).bind fun _ => evictOrder_silent s id⟩
  · exact (log_writes _ _ _ _).bind fun _ => evictOrder_writes s id List.mem_cons_self
  · intro name raw hc
    obtain ⟨rfl, hraw⟩ := Prod.mk.inj (Option.some.inj hc)
    rw [← Except.ok.inj hraw]
    exact .after (log_passing _ _ _ _) fun _ => evictOrder_leaves s id

end

/-! ## the catalog -/

section
variable {limit : Decimal} {d : Desk} {db : Database}

theorem createProduct_deed (draft : ProductDraft) (hs : d.store = .embedded db)
    (hr : db.saved = none) :
    ∃ c, Deed (.change (.createProduct draft)) c d (createProduct draft d).2 := by
  cases hnew : draft.check with
  | error f =>
    have hend : createProduct draft d = (.failed f, d) := by
      unfold createProduct
      rw [hnew]
      rfl
    rw [hend]
    exact ⟨.idle, .idle hs (refl_of (Writes _) d) rfl⟩
  | ok new =>
    let p : Product := ⟨0, new.name, new.price, new.stock, d.clock.utc, d.clock.utc⟩
    have hend : createProduct draft d = stored .saveProduct (Store.Products.save p) d := by
      unfold createProduct
      rw [hnew, Action.bind_of_ok Action.ofExcept_ok, Action.bind_of_ok now_apply]
    rw [hend]
    rcases Action.bind_ends (reach .saveProduct)
      (fun _ => (Store.onStore (Store.Products.save p) : Action Desk Product)) d with
      ⟨_, d₁, hreach, hrest⟩ | ⟨-, -, hrest⟩
    · obtain ⟨-, rfl⟩ := reach_ok_iff.mp hreach
      have hrest : stored .saveProduct (Store.Products.save p) d₁
          = (Store.onStore (Store.Products.save p) : Action Desk Product) d₁ := hrest
      rw [hrest]
      rcases hsave : Store.Products.save p (.embedded db) with ⟨out, b⟩
      have hstate : ((Store.onStore (Store.Products.save p) : Action Desk Product) d₁).2
          = { d₁ with store := b } := by
        rw [onStore_eq_iff.mpr ⟨b, by rw [hs]; exact hsave, rfl⟩]
      rw [hstate]
      cases out with
      | ok p' =>
        obtain ⟨-, -, t, ht, -, -, rfl⟩ := (Store.Products.insert_ok_iff rfl).mp hsave
        exact ⟨.catalog, .catalog hs rfl (.stocked hnew ht) (refl_of (Writes []) _) rfl⟩
      | failed f =>
        rw [Store.Products.insert_failed rfl hr hsave, ← hs]
        exact ⟨.idle, .idle hs (refl_of (Writes _) d₁) rfl⟩
      | panicked text =>
        exact absurd (congrArg Prod.fst hsave) (Store.Products.insert_noPanic rfl _ _)
    · have hfix : (reach .saveProduct d).2 = d := reach_fixed .saveProduct d
      rw [hfix] at hrest
      rw [show (stored .saveProduct (Store.Products.save p) d).2 = d from hrest]
      exact ⟨.idle, .idle hs (refl_of (Writes _) d) rfl⟩

theorem replaceProduct_ok {id : Int} {new : ProductDraft} {p : Product} {d' : Desk}
    (hs : d.store = .embedded db) (hkept : db.tables.Kept limit)
    (h : replaceProduct id new d = (.ok p, d')) : ∃ t created, db.tables.products = some t ∧
      d'.store = .embedded { db with tables := { db.tables with
        products := some (t.update id (ProductRow.update
          ⟨id, new.name, new.price, new.stock, created, d.clock.utc⟩)) } } := by
  obtain ⟨p₀, d₁, hlock, h⟩ := Action.bind_ok_iff.mp h
  obtain ⟨-, b, hread, rfl⟩ := stored_ok_iff.mp hlock
  rw [hs] at hread
  obtain ⟨-, rfl, t, r, ht, hget, hp⟩ := Store.Products.read_ok_iff.mp hread
  rw [Action.bind_of_ok now_apply] at h
  obtain ⟨-, b, hsave, rfl⟩ := stored_ok_iff.mp h
  have hid : p₀.id = id :=
    (ProductRow.product?_eq_some_iff.mp hp).1.trans (Table.get?_some hget).2
  have hpos : 0 < id := hkept.product_pos ht hget
  obtain ⟨-, -, -, t₁, ht₁, -, rfl⟩ :=
    (Store.Products.update_ok_iff (by show p₀.id ≠ 0; omega)).mp hsave
  obtain rfl : t = t₁ := Option.some.inj (ht.symm.trans ht₁)
  rw [hid]
  exact ⟨t, p₀.createdAt, ht, rfl⟩

theorem updateProduct_deed (s : Scope) (id : Int) (draft : ProductDraft)
    (hs : d.store = .embedded db) (hr : db.saved = none) (hkept : db.tables.Kept limit) :
    ∃ c, Deed (.change (.updateProduct s id draft)) c d (updateProduct s id draft d).2 := by
  cases hnew : draft.check with
  | error f =>
    have hend : updateProduct s id draft d = (.failed f, d) := by
      unfold updateProduct
      rw [hnew]
      rfl
    rw [hend]
    exact ⟨.idle, .idle hs (refl_of (Writes _) d) rfl⟩
  | ok new =>
    unfold updateProduct
    rw [hnew, Action.bind_of_ok Action.ofExcept_ok]
    refine transaction_deed (replaceProduct_works id new) hs hr fun p d₁ hreplace => ?_
    obtain ⟨t, created, ht, hstored⟩ := replaceProduct_ok
      (d := { d with store := .embedded (inside db db.tables) })
      (show _ = Backend.embedded (inside db db.tables) from rfl) hkept hreplace
    refine ⟨.catalog, _, hstored, .restocked hnew ht, ?_, (fun _ _ hc => nomatch hc), [], rfl,
      (log_silent _ _ _ _).bind fun _ => .pure _⟩
    exact (log_writes _ _ _ _).bind fun _ => .pure _

theorem deleteProduct_deed (s : Scope) (id : Int) (hs : d.store = .embedded db) :
    ∃ c, Deed (.change (.deleteProduct s id)) c d (deleteProduct s id d).2 := by
  rcases hdel : Store.Products.delete id (.embedded db) with ⟨out, b⟩
  have hrun : (Store.onStore (Store.Products.delete id) : Action Desk Unit) d
      = (out, { d with store := b }) := onStore_eq_iff.mpr ⟨b, by rw [hs]; exact hdel, rfl⟩
  have hlog : Keeps (Writes []) (log s .info "product deleted" [("product_id", .int id)]) :=
    log_writes _ _ _ _
  unfold deleteProduct
  cases out with
  | ok u =>
    obtain ⟨t, ht, rfl⟩ := Store.Products.delete_ok hdel
    rw [Action.bind_of_ok hrun]
    have herased : Deed (.change (.deleteProduct s id)) .catalog d { d with store := .embedded _ } :=
      .catalog hs rfl (.unstocked ht) (refl_of (Writes []) _) rfl
    exact ⟨.catalog, herased.after (hlog _) rfl⟩
  | failed f =>
    rw [Action.bind_of_failed hrun, Store.Products.delete_failed hdel, ← hs]
    exact ⟨.idle, .idle hs (refl_of (Writes _) d) rfl⟩
  | panicked text =>
    exact absurd (congrArg Prod.fst hdel) (Store.changeOne_noPanic _ _ _ _ _)

theorem nameCategory_categoriesOnly (id : Int) (name : String) :
    KeepsOr Store.CategoriesOnly Store.GaveUp (nameCategory id name) := by
  have hreach : ∀ c, KeepsOr Store.CategoriesOnly Store.GaveUp (reach c) := fun c =>
    ((reach_fixed c).mono fun d d' h => by
      have h : d' = d := h
      rw [h]
      exact refl_of Store.CategoriesOnly d).keepsOr
  refine (Keeps.reads _).keepsOr.bind fun now => KeepsOr.bind ?_ fun c => ?_
  · unfold categoryToSave
    split
    · exact (Keeps.pure _).keepsOr
    · exact Store.onStore_categoriesOnly
        (Store.categoriesOnly_of_readOnly (Store.Categories.get_readOnly id))
  · have htaken := Store.Categories.nameTaken_readOnly name id
    refine KeepsOr.bind ((hreach _).bind fun _ => Store.onStore_categoriesOnly
      (Store.categoriesOnly_of_readOnly htaken)) fun taken => ?_
    split
    · exact (Keeps.raise _).keepsOr
    · exact (hreach _).bind fun _ =>
        Store.onStore_categoriesOnly (Store.Categories.save_categoriesOnly _)

theorem saveCategory_of_name {id : Int} {raw name : String} (h : checkName 100 raw = .ok name) :
    saveCategory id raw = transaction (nameCategory id name) := by
  unfold saveCategory
  rw [h]
  rfl

theorem saveCategory_deed {r : Request} (id : Int) (raw : String) (hs : d.store = .embedded db)
    (hr : db.saved = none) : ∃ c, Deed r c d (quietly (saveCategory id raw) d).2 := by
  cases hname : checkName 100 raw with
  | error f =>
    have hend : quietly (saveCategory id raw) d = (.failed f, d) := by
      unfold saveCategory
      rw [hname]
      rfl
    rw [hend]
    exact ⟨.idle, .idle hs (refl_of (Writes _) d) rfl⟩
  | ok name =>
    rw [saveCategory_of_name hname]
    refine transaction_deed (nameCategory_works id name) hs hr fun c d₁ hbody => ?_
    obtain ⟨cs, hcs⟩ := (nameCategory_categoriesOnly id name).of_ok hbody _ rfl
    exact ⟨.catalog, _, hcs, .filed, .pure _, (fun _ _ hc => nomatch hc), [], rfl, .pure _⟩

theorem deleteCategory_deed {r : Request} (id : Int) (hs : d.store = .embedded db)
    (hr : db.saved = none) : Deed r .catalog d (deleteCategory id d).2 := by
  obtain ⟨cs, hcs⟩ := (Store.onStore_categoriesOnly
    (Store.Categories.delete_categoriesOnly id) d).resolve_right (fun h => h.2.at_rest hs hr) db hs
  exact .catalog hs hcs .filed ⟨rfl, rfl, fun _ _ => rfl⟩ rfl

end

/-! ## every call -/

section
variable {limit : Decimal} {d : Desk} {db : Database}

theorem handlePayment_deed (s : Scope) (m : PaymentOutcome) (hs : d.store = .embedded db)
    (hr : db.saved = none) (hkept : db.tables.Kept limit) :
    ∃ c, Deed (.change (.payment s m)) c d (handlePayment s m d).2 := by
  unfold handlePayment
  cases hm : m.target? with
  | none => exact ⟨.idle, .idle hs (log_writes _ _ _ _ d) rfl⟩
  | some target =>
    have hmove : (Request.change (.payment s m)).move? = some (m.orderId, target) := by
      simp [Request.move?, hm]
    obtain ⟨c, hc⟩ := changeStatus_deed s hmove hs hr hkept
    refine ⟨c, hc.after (Keeps.orElse_rest (fun f => ?_) d)
      (Keeps.orElse_rest (R := Action.Fixed Desk.broker) (fun f => ?_) d)⟩
    · split
      · exact .fail _
      · exact log_writes _ _ _ _
    · split
      · exact .fail _
      · exact log_hushed _ _ _ _

/-- **Every call from a store at rest is a deed**, whatever it ends in. -/
theorem Request.deed (r : Request) (hs : d.store = .embedded db) (hr : db.saved = none)
    (hkept : db.tables.Kept limit) : ∃ c, Deed r c d (r.perform d).2 := by
  cases r with
  | look q => exact ⟨.idle, .idle hs (q.looks d ⟨db, hs⟩) (q.hushed d)⟩
  | change op =>
    cases op with
    | createOrder s r =>
      show ∃ c, Deed _ c d (quietly (createOrder s r) d).2
      rw [quietly_state]
      exact createOrder_deed s r hs hr
    | changeStatus s id target => exact changeStatus_deed s rfl hs hr hkept
    | deleteOrder s id => exact deleteOrder_deed s hs hr
    | createProduct draft =>
      show ∃ c, Deed _ c d (quietly (createProduct draft) d).2
      rw [quietly_state]
      exact createProduct_deed draft hs hr
    | updateProduct s id draft =>
      show ∃ c, Deed _ c d (quietly (updateProduct s id draft) d).2
      rw [quietly_state]
      exact updateProduct_deed s id draft hs hr hkept
    | deleteProduct s id => exact deleteProduct_deed s id hs
    | createCategory name => exact saveCategory_deed 0 name hs hr
    | renameCategory id name => exact saveCategory_deed id name hs hr
    | deleteCategory id => exact ⟨.catalog, deleteCategory_deed id hs hr⟩
    | payment s m => exact handlePayment_deed s m hs hr hkept

end

end OrderDesk.Desk
