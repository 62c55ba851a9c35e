import OrderDesk.Proofs.Desk.Conservation
import OrderDesk.Proofs.Store.Reading

/-!
# What becomes of an order

An order that was stored is read from then on, moved or not, until it is removed; then its id is
gone for ever. Every change is about one order at most and leaves the others as they are.

* `Change.order?`           the order that a change is about;
* `Does.reads_ne`           the other orders are read as before;
* `Does.written`            an order that was placed or moved is read as it was written;
* `Does.order_ne`           the rows of the other orders;
* `Does.lacks_ne`, `Does.lacks_erased`      the orders that are not there;
* `Does.stays_gone`         an order that is gone stays so;
* `Summary.lasting`         what of an order no move changes;
* `Lasts`, `Does.lasts`     an order is there as it was stored, or gone;
* `Ready`, `Ready.deed`     a store that can be read, and that every call leaves so.
-/

/-- what of an order no move changes: everything but its status and the time of the move -/
def OrderDesk.Summary.lasting (a : OrderDesk.Summary) : OrderDesk.Summary :=
  { a with status := "", updatedAt := .zero }

namespace OrderDesk.Desk

open Store (Backend Database Tables Table HasId ProductRow OrderRow ItemRow)

/-- the order that a change is about -/
def Change.order? : Change → Option Int
  | .placed o | .moved o => some o.id
  | .erased id => some id
  | .idle | .catalog => none

/-- the order that a change writes -/
def Change.written? : Change → Option Order
  | .placed o | .moved o => some o
  | .idle | .erased _ | .catalog => none

/-- The ids of all orders were given out. -/
def Counted (ts : Tables) : Prop := ∀ book, ts.orders = some book → book.Counted

/-- an id that was given out -/
def Issued (ts : Tables) (id : Int) : Prop := ∃ book, ts.orders = some book ∧ id ≤ book.lastId

section
variable {limit : Decimal} {now : Stamp} {ts ts' : Tables} {r : Request} {c : Change}
  {o o' : Order} {id : Int}

/-! ## ids -/

theorem Does.counted (hc : Counted ts) (h : Does limit now ts r c ts') : Counted ts' := by
  cases h with
  | placed _ hbook =>
    intro book' h'
    rw [← Option.some.inj h']
    exact .insert rfl
  | moved _ hbook =>
    intro book' h'
    rw [← Option.some.inj h']
    exact (hc _ hbook).update fun _ => rfl
  | erased hbook =>
    intro book' h'
    rw [← Option.some.inj h']
    exact (hc _ hbook).erase
  | idle | stocked | restocked | unstocked | filed => exact hc

theorem Does.issued (h : Does limit now ts r c ts') (hid : Issued ts id) : Issued ts' id := by
  obtain ⟨book, hbook, hle⟩ := hid
  cases h with
  | placed _ hbook₁ =>
    obtain rfl := Option.some.inj (hbook.symm.trans hbook₁)
    have hlt : book.lastId < book.nextId := book.lastId_lt_nextId
    have hle' : id ≤ book.nextId := by omega
    exact ⟨_, rfl, hle'⟩
  | moved _ hbook₁ | erased hbook₁ =>
    obtain rfl := Option.some.inj (hbook.symm.trans hbook₁)
    exact ⟨_, rfl, hle⟩
  | idle | stocked | restocked | unstocked | filed => exact ⟨book, hbook, hle⟩

theorem issued_of_reads (hc : Counted ts) (h : ts.Reads id o) : Issued ts id := by
  obtain ⟨book, lines, row, o₀, ls, hbook, -, hget, -⟩ := h
  obtain ⟨hmem, hid⟩ := Table.get?_some hget
  exact ⟨book, hbook, hid ▸ hc book hbook row hmem⟩

/-- a new order has an id that was not given out before -/
theorem Does.fresh (h : Does limit now ts r (.placed o) ts') :
    ¬ Issued ts o.id ∧ Issued ts' o.id := by
  cases h with
  | @placed _ _ _ _ _ book _ _ _ hbook _ _ hplaced =>
    have hid : o.id = book.nextId := hplaced.fields.1
    refine ⟨?_, _, rfl, Int.le_of_eq hid⟩
    rintro ⟨book₁, hbook₁, hle⟩
    obtain rfl := Option.some.inj (hbook.symm.trans hbook₁)
    have hlt : book.lastId < book.nextId := book.lastId_lt_nextId
    omega

/-- the id of a new order is one of 64 bits -/
theorem Does.inRange (hkept : ts.Kept limit) (h : Does limit now ts r (.placed o) ts') :
    Word.InRange o.id := by
  cases h with
  | @placed _ _ _ _ _ book _ _ _ hbook _ _ hplaced =>
    obtain ⟨book₁, lines, hbook₁, -, hbooked⟩ := hkept.orders
    obtain rfl : book = book₁ := Option.some.inj (hbook.symm.trans hbook₁)
    have hhalf : Int.pow 2 63 = 9223372036854775808 := rfl
    have hid : o.id = book.nextId := hplaced.fields.1
    have hlt : book.nextId < 2 ^ 63 := hplaced.room.orderId
    have hcounter : 0 ≤ book.lastId := hbooked.keyed.counter
    have hnext : book.lastId < book.nextId := book.lastId_lt_nextId
    unfold Word.InRange
    rw [hid, hhalf]
    omega

/-! ## reading -/

theorem Does.reads_ne (h : Does limit now ts r c ts') (hne : c.order? ≠ some id) :
    ts'.Reads id o ↔ ts.Reads id o := by
  cases h with
  | placed _ hbook hlines _ hplaced =>
    refine Store.reads_withNew_ne hbook hlines fun he => hne ?_
    rw [he, ← hplaced.fields.1]
    rfl
  | moved _ hbook hlines =>
    exact Store.reads_withChanged_ne hbook hlines fun he => hne (he ▸ rfl)
  | erased hbook hlines => exact Store.reads_erased_ne hbook hlines fun he => hne (he ▸ rfl)
  | idle | stocked | restocked | unstocked | filed => exact Iff.rfl

/-- an order that is moved was read before, and is moved as it was read -/
theorem Does.moved_from (h : Does limit now ts r (.moved o) ts') :
    ∃ target before, r.move? = some (o.id, target) ∧ ts.Reads o.id before ∧
      before.moveTo target now = .ok o := by
  cases h with
  | @moved _ _ target _ _ before _ hr _ _ hread hmove =>
    have hid : o.id = before.id := moveTo_id hmove
    rw [hid, hread.id_eq]
    exact ⟨target, before, hr, hread, hmove⟩

theorem moveTo_eq {target : Status} (h : o.moveTo target now = .ok o') :
    o' = { o with status := target, updatedAt := now } := by
  unfold Order.moveTo at h
  split at h
  · exact (Except.ok.inj h).symm
  · cases h

/-- **An order that was placed or moved is read as it was written**, but for the spelling of its
amounts. -/
theorem Does.written (hkept : ts.Kept limit) (hnow : (Store.stored (.time now)).time? = some now)
    (h : Does limit now ts r c ts') (hw : c.written? = some o) :
    ∃ o', ts'.Reads o.id o' ∧ o'.Alike o := by
  cases h with
  | @placed _ _ _ _ _ book lines o₁ _ hbook hlines _ hplaced =>
    obtain rfl : o₁ = o := Option.some.inj hw
    obtain ⟨book₁, lines₁, hbook₁, hlines₁, hbooked⟩ := hkept.orders
    obtain rfl : book = book₁ := Option.some.inj (hbook.symm.trans hbook₁)
    obtain rfl : lines = lines₁ := Option.some.inj (hlines.symm.trans hlines₁)
    obtain ⟨hid, -, -, hcreated, hupdated⟩ := hplaced.fields
    have hnone : Store.linesOf lines book.nextId = [] :=
      hbooked.linesOf_eq_nil fun row hrow => Int.ne_of_lt (Table.id_lt_nextId hrow)
    obtain ⟨total, ls, hval, halike, hread⟩ := Store.reads_withNew hid hplaced.storable
      (by rw [hcreated, hnow]) (by rw [hupdated, hnow]) hnone
    exact ⟨_, hread, o₁.alike_of_lines hval halike⟩
  | @moved _ id target book lines before after _ hbook _ hread hmove =>
    obtain rfl : after = o := Option.some.inj hw
    obtain ⟨hbefore, hid, -⟩ := hkept.reads hread
    obtain ⟨book₁, _, row, o₀, ls, hbook₁, -, hget, ho, -, hbeforeEq⟩ := hread
    obtain rfl : book = book₁ := Option.some.inj (hbook.symm.trans hbook₁)
    obtain ⟨-, -, -, -, -, hcreated, -⟩ := OrderRow.order?_eq_some_iff.mp ho
    have hafter := moveTo_eq hmove
    have hcreated' : (Store.stored row.createdAt).time? = some after.createdAt := by
      rw [hcreated, hafter, hbeforeEq]
    have hupdated : (Store.stored (.time after.updatedAt)).time? = some after.updatedAt := by
      rw [hafter]
      exact hnow
    have hget' : book.get? after.id = some row := by
      rw [moveTo_id hmove, hid]
      exact hget
    obtain ⟨total, ls, hval, halike, hread⟩ :=
      Store.reads_withChanged hget' (moveTo_sound hbefore hmove).1.storable hcreated' hupdated
    exact ⟨_, hread, after.alike_of_lines hval halike⟩
  | idle | erased | stocked | restocked | unstocked | filed => cases hw

/-! ## orders that are gone -/

/-- the row of an order stays as it is while others change -/
theorem Does.order_ne {book : Table OrderRow} (h : Does limit now ts r c ts')
    (hne : c.order? ≠ some id) (hbook : ts.orders = some book) :
    ∃ book', ts'.orders = some book' ∧ book'.get? id = book.get? id := by
  cases h with
  | placed _ hbook₁ _ _ hplaced =>
    obtain rfl := Option.some.inj (hbook.symm.trans hbook₁)
    refine ⟨_, rfl, Table.get?_insert_ne rfl fun he => hne ?_⟩
    rw [he, ← hplaced.fields.1]
    rfl
  | @moved _ _ _ _ _ _ after _ hbook₁ =>
    obtain rfl := Option.some.inj (hbook.symm.trans hbook₁)
    have hkeep : ∀ row, HasId.id (OrderRow.update after row) = HasId.id row := fun _ => rfl
    have hother : id ≠ after.id := fun he => hne (he ▸ rfl)
    exact ⟨_, rfl, Table.get?_update_ne hkeep hother⟩
  | @erased _ erased _ _ hbook₁ =>
    obtain rfl := Option.some.inj (hbook.symm.trans hbook₁)
    have hother : id ≠ erased := fun he => hne (he ▸ rfl)
    exact ⟨_, rfl, Table.get?_erase_ne hother⟩
  | idle | stocked | restocked | unstocked | filed => exact ⟨book, hbook, rfl⟩

theorem Does.lacks_ne (h : Does limit now ts r c ts') (hne : c.order? ≠ some id)
    (hlacks : ts.Lacks id) : ts'.Lacks id := by
  obtain ⟨book, hbook, hnone⟩ := hlacks
  obtain ⟨book', hbook', hsame⟩ := h.order_ne hne hbook
  exact ⟨book', hbook', hsame.trans hnone⟩

theorem Does.lacks_erased (h : Does limit now ts r (.erased id) ts') : ts'.Lacks id := by
  cases h with
  | @erased _ _ book => exact ⟨_, rfl, Table.get?_erase_self book id⟩

theorem gone_iff : ts.Gone id ↔ ts.Lacks id ∧ Issued ts id := by
  constructor
  · rintro ⟨book, hbook, hnone, hle⟩
    exact ⟨⟨book, hbook, hnone⟩, book, hbook, hle⟩
  · rintro ⟨⟨book, hbook, hnone⟩, book₁, hbook₁, hle⟩
    obtain rfl := Option.some.inj (hbook.symm.trans hbook₁)
    exact ⟨book, hbook, hnone, hle⟩

theorem Does.stays_gone (hgone : ts.Gone id) (h : Does limit now ts r c ts') : ts'.Gone id := by
  obtain ⟨hlacks, hissued⟩ := gone_iff.mp hgone
  refine gone_iff.mpr ⟨?_, h.issued hissued⟩
  by_cases hne : c.order? = some id
  · cases c with
    | placed o =>
      obtain rfl : o.id = id := Option.some.inj hne
      exact absurd hissued h.fresh.1
    | moved o =>
      obtain rfl : o.id = id := Option.some.inj hne
      obtain ⟨-, before, -, hread, -⟩ := h.moved_from
      exact absurd hread hlacks.not_reads
    | erased j =>
      obtain rfl : j = id := Option.some.inj hne
      exact h.lacks_erased
    | idle | catalog => cases hne
  · exact h.lacks_ne hne hlacks

/-! ## orders that last -/

/-- The order is there as it was stored, but for moves, or it is gone. -/
def Lasts (ts : Tables) (o : Order) : Prop :=
  (∃ o', ts.Reads o.id o' ∧ o'.summary.lasting = o.summary.lasting) ∨ ts.Gone o.id

theorem Does.lasts_placed (hkept : ts.Kept limit)
    (hnow : (Store.stored (.time now)).time? = some now) (h : Does limit now ts r (.placed o) ts') :
    Lasts ts' o := by
  obtain ⟨o', hread, halike⟩ := h.written hkept hnow rfl
  exact .inl ⟨o', hread, congrArg Summary.lasting halike.summary_eq⟩

/-- **An order that was stored lasts** until it is removed. -/
theorem Does.lasts (hkept : ts.Kept limit) (hc : Counted ts)
    (hnow : (Store.stored (.time now)).time? = some now) (h : Does limit now ts r c ts')
    (hl : Lasts ts o) : Lasts ts' o := by
  rcases hl with ⟨o', hread, hsame⟩ | hgone
  · by_cases hne : c.order? = some o.id
    · cases c with
      | placed o₁ =>
        have hid : o₁.id = o.id := Option.some.inj hne
        exact absurd (issued_of_reads hc hread) (hid ▸ h.fresh.1)
      | moved o₁ =>
        have hid : o₁.id = o.id := Option.some.inj hne
        obtain ⟨target, before, -, hbefore, hmove⟩ := h.moved_from
        obtain ⟨o₂, hread₂, halike⟩ := h.written hkept hnow rfl
        rw [hid] at hbefore hread₂
        obtain rfl : before = o' := hbefore.unique hread
        refine .inl ⟨o₂, hread₂, ?_⟩
        rw [halike.summary_eq, moveTo_eq hmove, ← hsame]
        rfl
      | erased id =>
        obtain rfl : id = o.id := Option.some.inj hne
        exact .inr (gone_iff.mpr ⟨h.lacks_erased, h.issued (issued_of_reads hc hread)⟩)
      | idle | catalog => cases hne
    · exact .inl ⟨o', (h.reads_ne hne).mpr hread, hsame⟩
  · exact .inr (h.stays_gone hgone)

end

/-! ## what the store answers -/

section
variable {d : Desk} {db : Database} {o : Order} {id : Int}

theorem stored_get_reads (hs : d.store = .embedded db) (hclosed : db.closed = false)
    (hout : d.outages.lookup .getOrder = none) (h : db.tables.Reads id o) :
    stored .getOrder (Store.Orders.get id) d = (.ok o, d) := by
  refine stored_ok_iff.mpr ⟨hout, .embedded db, ?_, by rw [← hs]⟩
  rw [hs]
  exact Store.Orders.reads_iff.mpr ⟨hclosed, rfl, h⟩

theorem stored_get_lacks (hs : d.store = .embedded db) (hclosed : db.closed = false)
    (hout : d.outages.lookup .getOrder = none) (h : db.tables.Lacks id) :
    stored .getOrder (Store.Orders.get id) d
      = (.failed (.cause (Store.Orders.missing id)), d) := by
  refine stored_failed_iff.mpr (.inr ⟨hout, .embedded db, ?_, by rw [← hs]⟩)
  rw [hs]
  exact Store.Orders.get_lacks hclosed h

end

/-! ## stores that can be read -/

/-- An open engine at rest, with sound tables and ids that were given out. -/
structure Ready (db : Database) : Prop where
  isOpen : db.closed = false
  atRest : db.saved = none
  sound : ∃ limit, db.tables.Sound limit
  counted : Counted db.tables

section
variable {limit : Decimal} {now : Stamp} {ts : Tables} {r : Request} {c : Change} {d : Desk}
  {db : Database}

theorem Ready.does (h : Ready db) (hdoes : Does limit now db.tables r c ts) :
    Ready { db with tables := ts } := by
  obtain ⟨limit', hsound⟩ := h.sound
  obtain ⟨limit'', hle, hdoes⟩ := hdoes.limited limit'
  exact ⟨h.isOpen, h.atRest, ⟨limit'', hdoes.sound (hsound.mono hle)⟩, hdoes.counted h.counted⟩

/-- **A call from a store that can be read** is a deed, and leaves the store so. -/
theorem Ready.deed (h : Ready db) (hs : d.store = .embedded db) (r : Request) :
    ∃ c limit ts, Deed r c d (r.perform d).2 ∧ db.tables.Sound limit ∧
      Does limit d.clock.utc db.tables r c ts ∧
      (r.perform d).2.store = .embedded { db with tables := ts } ∧
      Ready { db with tables := ts } := by
  obtain ⟨limit, hsound⟩ := h.sound
  obtain ⟨c, limit', ts, hle, hdeed, hdoes, hs'⟩ := r.does hs h.atRest hsound.kept
  exact ⟨c, limit', ts, hdeed, hsound.mono hle, hdoes, hs', h.does hdoes⟩

theorem ready_fresh : ∃ db, Store.fresh = .embedded db ∧ Ready db := by
  refine ⟨_, Store.fresh_eq, rfl, rfl, ⟨.zero, ⟨_, rfl, Store.Stocked.empty⟩, _, _, rfl, rfl,
    Store.Booked.empty .zero⟩, fun book hbook => ?_⟩
  rw [← Option.some.inj hbook]
  exact .empty

/-- every run from a new store leaves one that can be read -/
theorem ready_after (calls : List (Desk × Request)) :
    ∃ db, after Store.fresh calls = .embedded db ∧ Ready db := by
  obtain ⟨db, hfresh, h⟩ := ready_fresh
  rw [hfresh]
  refine after_keeps (fun db h c => ?_) h calls
  obtain ⟨-, -, ts, -, -, -, hs', hready⟩ :=
    h.deed (d := { c.1 with store := .embedded db }) rfl c.2
  exact ⟨_, hs', hready⟩

end

end OrderDesk.Desk
