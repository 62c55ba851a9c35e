import OrderDesk.Proofs.Desk.Deeds

/-!
# What every call keeps true

A service whose tables are sound stays so, whatever is asked of it, whatever is out of order beside
the store, and however a call ends: every change keeps sound tables sound.

* `Served.stocked`, `Placed.sound`       what a creation writes;
* `Does.kept`, `Does.sound`              every change keeps sound tables sound;
* `Request.rest`                         and so does every call from a store at rest.
-/

namespace OrderDesk.Desk

open Store (Database Tables Table HasId ProductRow OrderRow ItemRow Stocked Booked)

/-! ## what a creation writes -/

/-- a table of products keeps its ids while lines are served from it -/
theorem Served.keyed {now : Stamp} {t₀ t : Table ProductRow} {done : List ItemRequest}
    (h : t₀.Keyed) (hv : Served now t₀ done t) : t.Keyed := by
  refine ⟨?_, fun r hr => ?_, ?_⟩
  · rw [hv.ids]
    exact h.unique
  · have hmem : HasId.id r ∈ t₀.rows.map HasId.id := by
      rw [← hv.ids]
      exact List.mem_map_of_mem hr
    obtain ⟨r₀, hr₀, he⟩ := List.mem_map.mp hmem
    rw [← he]
    exact h.positive r₀ hr₀
  · rw [hv.lastId]
    exact h.counter

/-- a sound table of products is sound after lines were served from it -/
theorem Served.stocked {now : Stamp} {t₀ t : Table ProductRow} {done : List ItemRequest}
    (h : Stocked t₀) (hv : Served now t₀ done t) : Stocked t := by
  have hkeyed : t.Keyed := hv.keyed h.keyed
  refine ⟨hkeyed, fun r hr => ?_⟩
  have hget : t.get? (HasId.id r) = some r := Table.get?_of_mem hkeyed.unique hr
  by_cases hn : Named (HasId.id r) done
  · obtain ⟨r₀, p, hg₀, hp, hd, hrow⟩ := hv.named _ hn
    have hr₀ : r₀.Sound := h.rows r₀ (Table.get?_some hg₀).1
    have hsound : p.Sound := hr₀.read hp
    rw [Option.some.inj (hget.symm.trans hrow)]
    exact ⟨hr₀.name, Store.price_of_text hsound.price hsound.storable, _, rfl, by omega⟩
  · have hg₀ : t₀.get? (HasId.id r) = some r := by
      rw [← hv.other _ hn]
      exact hget
    exact h.rows r (Table.get?_some hg₀).1

section
variable {limit : Decimal} {now : Stamp} {number : String} {items : List ItemRequest}
  {t t' : Table ProductRow} {book : Table OrderRow} {lines : Table ItemRow} {o : Order}

theorem Placed.sound (hw : WellFormed items) (hne : number ≠ "")
    (h : Placed limit now number items t t' book lines o) : o.Sound limit := by
  obtain ⟨-, hnumber, hstatus, -, -⟩ := h.fields
  have hsome : o.items ≠ [] := by
    intro he
    have hlen := h.priced.length_eq
    rw [he] at hlen
    exact hw.1 (List.length_eq_zero_iff.mp hlen)
  have hq : ∀ l ∈ o.items, 1 ≤ l.quantity := by
    intro l hl
    obtain ⟨it, hit, hpriced⟩ := Store.exists_of_mem_forall₂ h.priced hl
    rw [hpriced.quantity]
    exact (hw.2 it hit).2
  refine ⟨?_, ?_, ⟨hsome, hq, h.balanced, h.affordable⟩, h.storable⟩
  · rw [hstatus]
    exact .inl rfl
  · rw [hnumber]
    exact hne

theorem Placed.kept {ts : Tables} (hw : WellFormed items) (hne : number ≠ "")
    (hkept : ts.Kept limit) (ht : ts.products = some t) (hbook : ts.orders = some book)
    (hlines : ts.items = some lines) (h : Placed limit now number items t t' book lines o) :
    (Store.Orders.withNew { ts with products := some t' } book lines o).Kept limit := by
  obtain ⟨book₁, lines₁, hbook₁, hlines₁, hbooked⟩ := hkept.orders
  obtain rfl : book₁ = book := Option.some.inj (hbook₁.symm.trans hbook)
  obtain rfl : lines₁ = lines := Option.some.inj (hlines₁.symm.trans hlines)
  refine ⟨fun t₁ ht₁ => ?_, _, _, rfl, rfl, ?_⟩
  · rw [← Option.some.inj ht₁]
    exact h.served.keyed (hkept.products t ht)
  · refine hbooked.insert (h.sound hw hne) fun r hr => ?_
    rw [h.fields.2.1]
    exact h.room.unused r hr

end

/-! ## changes -/

theorem moveTo_sound {o o' : Order} {target : Status} {now : Stamp} (hsound : o.Sound limit)
    (h : o.moveTo target now = .ok o') :
    o'.Sound limit ∧ o'.id = o.id ∧ o'.number = o.number := by
  unfold Order.moveTo at h
  by_cases hmove : o.status.canMoveTo target = true
  · rw [if_pos hmove] at h
    obtain rfl := Except.ok.inj h
    exact ⟨⟨Status.live_of_canMoveTo hmove, hsound.number, hsound.fair,
      ⟨hsound.storable.total, hsound.storable.prices⟩⟩, rfl, rfl⟩
  · rw [if_neg hmove] at h
    cases h

/-- **Every change keeps the orders sound**, whatever rows the products have. -/
theorem Does.kept {limit : Decimal} {now : Stamp} {ts ts' : Tables} {r : Request} {c : Change}
    (hkept : ts.Kept limit) (h : Does limit now ts r c ts') : ts'.Kept limit := by
  cases h with
  | idle => exact hkept
  | placed ht hbook hlines hw hplaced =>
    exact hplaced.kept hw (orderNumber_ne _) hkept ht hbook hlines
  | moved _ hbook hlines hread hmove =>
    obtain ⟨hbefore, hid, -, book, lines, row, hbook₁, hlines₁, hbooked, hget, hnumber⟩ :=
      hkept.reads hread
    obtain ⟨hafter, hid', hnumber'⟩ := moveTo_sound hbefore hmove
    obtain rfl := Option.some.inj (hbook.symm.trans hbook₁)
    obtain rfl := Option.some.inj (hlines.symm.trans hlines₁)
    refine ⟨hkept.products, _, _, rfl, rfl, hbooked.update hafter ?_ (hnumber' ▸ hnumber)⟩
    rw [hid', hid]
    exact hget
  | @erased _ id _ _ hbook hlines =>
    obtain ⟨book, lines, hbook₁, hlines₁, hbooked⟩ := hkept.orders
    obtain rfl := Option.some.inj (hbook.symm.trans hbook₁)
    obtain rfl := Option.some.inj (hlines.symm.trans hlines₁)
    exact ⟨hkept.products, _, _, rfl, rfl, hbooked.erase id⟩
  | stocked _ ht =>
    refine ⟨fun t ht₁ => ?_, hkept.orders⟩
    rw [← Option.some.inj ht₁]
    exact (hkept.products _ ht).insert rfl
  | restocked _ ht =>
    refine ⟨fun t ht₁ => ?_, hkept.orders⟩
    rw [← Option.some.inj ht₁]
    exact (hkept.products _ ht).update fun _ => rfl
  | unstocked ht =>
    refine ⟨fun t ht₁ => ?_, hkept.orders⟩
    rw [← Option.some.inj ht₁]
    exact (hkept.products _ ht).erase
  | filed => exact ⟨hkept.products, hkept.orders⟩

theorem Does.products {limit : Decimal} {now : Stamp} {ts ts' : Tables} {r : Request} {c : Change}
    (hold : ∃ t, ts.products = some t ∧ Stocked t) (h : Does limit now ts r c ts') :
    ∃ t, ts'.products = some t ∧ Stocked t := by
  obtain ⟨t, ht, hstocked⟩ := hold
  cases h with
  | placed ht₁ _ _ _ hplaced =>
    obtain rfl := Option.some.inj (ht.symm.trans ht₁)
    exact ⟨_, rfl, hplaced.served.stocked hstocked⟩
  | stocked hnew ht₁ =>
    obtain rfl := Option.some.inj (ht.symm.trans ht₁)
    exact ⟨_, rfl, hstocked.insert (ProductDraft.sound_of_check hnew _ _ _)⟩
  | restocked hnew ht₁ =>
    obtain rfl := Option.some.inj (ht.symm.trans ht₁)
    exact ⟨_, rfl, hstocked.update (ProductDraft.sound_of_check hnew _ _ _) _⟩
  | unstocked ht₁ =>
    obtain rfl := Option.some.inj (ht.symm.trans ht₁)
    exact ⟨_, rfl, hstocked.erase _⟩
  | idle | moved | erased | filed => exact ⟨t, ht, hstocked⟩

/-- **Every change keeps sound tables sound.** -/
theorem Does.sound {limit : Decimal} {now : Stamp} {ts ts' : Tables} {r : Request} {c : Change}
    (hsound : ts.Sound limit) (h : Does limit now ts r c ts') : ts'.Sound limit :=
  ⟨h.products hsound.products, (h.kept hsound.kept).orders⟩

/-- **Every call keeps the service at rest and sound**, however it ends. -/
theorem Request.rest {limit : Decimal} {d : Desk} (r : Request) (hlimit : d.policy.maxOrderValue = limit)
    (h : ∃ db, d.store = .embedded db ∧ db.saved = none ∧ db.tables.Sound limit) :
    ∃ db, (r.perform d).2.store = .embedded db ∧ db.saved = none ∧ db.tables.Sound limit := by
  obtain ⟨db, hs, hr, hsound⟩ := h
  obtain ⟨c, hdeed⟩ := r.deed hs hr hsound.kept
  obtain ⟨db₁, ts, hs₁, hs', hdoes⟩ := hdeed.does
  obtain rfl : db = db₁ := Store.Backend.embedded.inj (hs.symm.trans hs₁)
  rw [hlimit] at hdoes
  exact ⟨_, hs', hr, hdoes.sound hsound⟩

end OrderDesk.Desk
