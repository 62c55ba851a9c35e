import OrderDesk.Proofs.Desk.Invariant
import OrderDesk.Proofs.Desk.Raising

/-!
# Runs from a new store

A run starts at a new store and makes one call after another. Between two calls everything but the
store may change: the clock, the keyspace, the broker, and which collaborators are out of order.

* `Reachable`                 the stores that runs lead to;
* `Reachable.rest`            every such store is at rest and sound;
* `reachable_sound`           what holds of every run: the tables are sound, and no order is ever
                              refused because its total does not match.
-/

namespace OrderDesk.Desk

open OrderDesk.Action (Keeps Fixed)
open Store (Backend Database OrderRow inside)

/-! ## runs -/

/-- The stores that runs lead to, with one limit on orders throughout. -/
inductive Reachable (limit : Decimal) : Backend → Prop where
  | fresh : Reachable limit Store.fresh
  | call {d : Desk} (r : Request) : Reachable limit d.store → d.policy.maxOrderValue = limit →
      Reachable limit (r.perform d).2.store

/-- **Every run leaves the store at rest, with sound tables.** -/
theorem Reachable.rest {limit : Decimal} {b : Backend} (h : Reachable limit b) :
    ∃ db, b = .embedded db ∧ db.saved = none ∧ db.tables.Sound limit := by
  induction h with
  | fresh =>
    exact ⟨_, Store.fresh_eq, rfl, ⟨_, rfl, Store.Stocked.empty⟩, _, _, rfl, rfl,
      Store.Booked.empty limit⟩
  | @call d r _ hlimit ih => exact r.rest hlimit ih

/-! ## failures of a call -/

section
variable {d d' : Desk} {f : Failure}

/-- nothing that a creation fails for is a total that does not match -/
theorem creationClass_matched : Cause.CreationClass Cause.Matched where
  toStoreClass := Cause.storeClass_matched
  short := fun _ _ _ _ _ _ _ => nofun
  above := fun _ _ _ _ _ => nofun
  duplicate := fun _ _ _ => nofun

/-- an order that is created matches, so a creation is not refused for it -/
theorem createOrder_matched {s : Scope} {r : OrderRequest} (hd : Reliable Cause.Matched d)
    (h : createOrder s r d = (.failed f, d')) : f.Matched := by
  refine createOrder_raises creationClass_matched (fun c hbad => ?_) hd h
  cases hbad <;> exact fun _ _ _ => nofun

theorem moveTo_error {o : Order} {target : Status} {now : Stamp}
    (h : o.moveTo target now = .error f) : f.Matched := by
  unfold Order.moveTo at h
  split at h
  all_goals cases h <;> exact Failure.only_cause fun _ _ _ => nofun

/-- an order that is read of a sound store matches, and so it does after a move -/
theorem moveOrder_matched {id : Int} {target : Status} {db : Database} {limit : Decimal}
    (hd : Reliable Cause.Matched d) (hs : d.store = .embedded db) (hsound : db.tables.Sound limit)
    (h : moveOrder id target d = (.failed f, d')) : f.Matched := by
  have hclass : Cause.StoreClass Cause.Matched := Cause.storeClass_matched
  have hlock := desk_onStore_raises (Store.Orders.read_raises hclass true id)
  rcases Action.bind_failed_iff.mp h with h | ⟨before, d₁, hread, h⟩
  · exact hlock.of_failed hd h
  have hd₁ : Reliable Cause.Matched d₁ := hlock.of_ok hd hread
  obtain ⟨b, hrow, -⟩ := onStore_eq_iff.mp hread
  rw [hs] at hrow
  have hbefore : before.Balanced :=
    (hsound.kept.reads (Store.Orders.reads_iff.mp hrow).2.2).1.fair.sum
  obtain hclock | ⟨now, d₂, hclock, hrest⟩ := Action.bind_failed_iff.mp h
  · cases hclock
  cases hclock
  obtain hmove | ⟨after, d₃, hmove, hstore⟩ := Action.bind_failed_iff.mp hrest
  · exact moveTo_error (Action.ofExcept_failed_iff.mp hmove).1
  obtain ⟨hmoved, rfl⟩ := Action.ofExcept_ok_iff.mp hmove
  have hafter : after.Balanced := by
    unfold Order.moveTo at hmoved
    split at hmoved
    · rw [← Except.ok.inj hmoved]
      exact hbefore
    · cases hmoved
  have hsave := (stored_raises .saveOrder (Store.Orders.save_raises hclass hafter)).context
    (c := "save order " ++ toString id)
  obtain hsaved | ⟨_, _, -, hpure⟩ := Action.bind_failed_iff.mp hstore
  · exact hsave.of_failed hd₁ hsaved
  · cases hpure

theorem changeStatus_matched {s : Scope} {id : Int} {target : Status} {db : Database}
    {limit : Decimal} (hd : Reliable Cause.Matched d) (hs : d.store = .embedded db)
    (hr : db.saved = none) (hsound : db.tables.Sound limit) (h : changeStatus s id target d = (.failed f, d')) :
    f.Matched := by
  obtain ⟨s', t, t', d₁, hbody, rfl⟩ := inSpan_end h
  obtain hstored | ⟨r, d₂, -, hafter⟩ := Action.bind_failed_iff.mp hbody
  · have hd₀ : Reliable Cause.Matched { d with tracer := t } := hd
    obtain hreach | ⟨_, d₂, hreach, hwithin⟩ := Action.bind_failed_iff.mp hstored
    · exact (reach_raises .transaction).of_failed hd₀ hreach
    obtain ⟨-, rfl⟩ := reach_ok_iff.mp hreach
    have hclass : Cause.StoreClass Cause.Matched := Cause.storeClass_matched
    have hs₀ : Store.storeOf { d with tracer := t } = .embedded db := hs
    obtain ⟨rfl, -⟩ | ⟨g, d₃, hmove, hf, -⟩ :=
      Store.within_failed (moveOrder_works id target).joins hs₀ hr hwithin
    · exact Failure.only_within (hclass.only_plain _)
    · have hd₁ : Reliable Cause.Matched
          (Part.set (Backend.embedded (inside db db.tables)) { d with tracer := t }) := hd
      have hg : g.Matched := moveOrder_matched hd₁ rfl hsound hmove
      rcases hf with rfl | rfl
      · exact hg
      · exact Failure.only_both hg (Failure.only_within (hclass.only_plain _))
  · exact absurd hafter (afterMove_unfailing s' id r.1 r.2 d₂ f d₁)

end

/-! ## what holds of every run -/

/-- **What every run keeps true.** After any calls from a new store, with one limit on orders, the
tables are sound; and as long as no collaborator makes that failure up, neither a creation nor a
move is refused because the total of an order does not match its items. -/
theorem reachable_sound {limit : Decimal} {d : Desk} (h : Reachable limit d.store) :
    (∃ db, d.store = .embedded db ∧ db.saved = none ∧ db.tables.Sound limit) ∧
      ((∀ c f, d.outages.lookup c = some (.fails f) → f.Matched) →
        (∀ s r f d', createOrder s r d = (.failed f, d') → f.Matched) ∧
        ∀ s id target f d', changeStatus s id target d = (.failed f, d') → f.Matched) := by
  obtain ⟨db, hs, hr, hsound⟩ := h.rest
  refine ⟨⟨db, hs, hr, hsound⟩, fun hout => ?_⟩
  exact ⟨fun s r f d' hfail => createOrder_matched hout hfail,
    fun s id target f d' hfail => changeStatus_matched hout hs hr hsound hfail⟩

/-- the small shop, after a call at a given store -/
def shopAfter (r : Request) (b : Backend) : Desk :=
  { shopWith {} {} with store := (r.perform { shopWith {} {} with store := b }).2.store }

theorem Reachable.shopAfter {b : Backend} (h : Reachable (.ofInt 100) b) (r : Request) :
    Reachable (.ofInt 100) (shopAfter r b).store :=
  Reachable.call (d := { shopWith {} {} with store := b }) r h rfl

/-- a new shop that has put up a product and taken an order for it -/
def firstSale : Desk :=
  shopAfter (.change (.createOrder scope { items := [⟨1, 2⟩, ⟨1, 1⟩] }))
    (shopAfter (.change (.createProduct ⟨" A ", .ofInt 2, 5⟩)) Store.fresh).store

theorem firstSale_sound :
    (∃ db book, firstSale.store = .embedded db ∧ db.tables.orders = some book ∧
      book.rows.map OrderRow.total = ["6"] ∧ db.tables.Sound (.ofInt 100)) ∧
    ∀ s id target f d', changeStatus s id target firstSale = (.failed f, d') → f.Matched := by
  have hrun : Reachable (.ofInt 100) firstSale.store :=
    (Reachable.fresh.shopAfter _).shopAfter _
  have htotals : ((Store.engine? firstSale.store).bind fun db =>
      db.tables.orders.map fun book => book.rows.map OrderRow.total) = some ["6"] := by
    decide +kernel
  obtain ⟨⟨db, hs, -, hsound⟩, hfails⟩ := reachable_sound hrun
  rw [hs] at htotals
  obtain ⟨book, hbook, htotal⟩ := Option.map_eq_some_iff.mp htotals
  exact ⟨⟨db, book, hs, hbook, htotal, hsound⟩, (hfails fun _ _ hout => nomatch hout).2⟩

end OrderDesk.Desk
