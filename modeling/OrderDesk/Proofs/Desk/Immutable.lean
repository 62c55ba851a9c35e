import OrderDesk.Proofs.Desk.Convergence
import OrderDesk.Proofs.Desk.Removal
import OrderDesk.Proofs.Store.Finding
import OrderDesk.Proofs.Store.Saving

/-!
# Orders do not change

A change of status writes an order anew from what was read of it. What is read is in the spelling of
the service, so it is read again as it was written, digit by digit, and nothing of an order changes
but its status and the time of its last move, whatever becomes of the products that it names.

* `Shows`, `Hides`          the store shows an order under its id, or none;
* `Removes`, `Removed`      a call removes an order, or one of several does;
* `Refuses`                 a change of status that fails;
* `Next`                    how an order is after one more call;
* `deleteOrder_lacks`, `deleteOrder_there`      a removal of an order that is not there, or is;
* `Held`, `Held.call`       stores with amounts in the spelling of the service, kept by every call;
* `Held.turn`, `Held.run`   an order after one call, and after several;
* `orders_immutable`        what holds of every order that a run creates.
-/

namespace OrderDesk.Desk

open Store (Backend Database Tables Table OrderRow)

/-! ## what the store shows -/

/-- The store shows the order under its id: alone, on every page that has the id, and on every page
with room for all orders. -/
structure Shows (b : Backend) (o : Order) : Prop where
  get : Store.Orders.get o.id b = (.ok o, b)
  find : ∀ status page p b', Store.Orders.find status page b = (.ok p, b') →
    ∀ a ∈ p.content, a.id = o.id → a = o
  listed : ∀ size p b', Store.Orders.find none ⟨0, size⟩ b = (.ok p, b') → p.total ≤ size →
    o ∈ p.content

/-- No order is found under the id, neither to be shown nor to be moved or removed. -/
structure Hides (b : Backend) (id : Int) : Prop where
  get : Store.Orders.get id b = (.failed (.cause (Store.Orders.missing id)), b)
  find : ∀ status page p b', Store.Orders.find status page b = (.ok p, b') →
    ∀ a ∈ p.content, a.id ≠ id
  move : ∀ (d : Desk) s target, d.store = b → (∀ u, (changeStatus s id target d).1 ≠ .ok u) ∧
    (d.outages = [] →
      (changeStatus s id target d).1 = .failed (.cause (Store.Orders.missing id)))
  delete : ∀ (d : Desk) s, d.store = b → (∀ u, (deleteOrder s id d).1 ≠ .ok u) ∧
    (d.outages = [] → (deleteOrder s id d).1 = .failed (.cause (Store.Orders.missing id)))

theorem Shows.reads {db : Database} {o : Order} {id : Int} (h : Shows (.embedded db) o)
    (hid : o.id = id) : db.tables.Reads id o := hid ▸ (Store.Orders.reads_iff.mp h.get).2.2

/-- The call removes the order. -/
def Removes (id : Int) (b : Backend) (x : Desk × Request) : Prop :=
  (∃ s, x.2 = .change (.deleteOrder s id)) ∧ (callAt b x).1 = .ok ()

/-- One of the calls removes the order. -/
def Removed (id : Int) (b : Backend) : List (Desk × Request) → Prop
  | [] => False
  | x :: calls => Removes id b x ∨ Removed id (callAt b x).2.store calls

theorem not_removed {id : Int} {calls : List (Desk × Request)}
    (h : ∀ x ∈ calls, ∀ s, x.2 ≠ .change (.deleteOrder s id)) (b : Backend) :
    ¬ Removed id b calls := by
  induction calls generalizing b with
  | nil => exact fun hr => hr
  | cons x calls ih =>
    rintro (⟨⟨s, hx⟩, -⟩ | hr)
    · exact h x List.mem_cons_self s hx
    · exact ih (fun y hy => h y (List.mem_cons_of_mem _ hy)) _ hr

theorem removed_last {id : Int} {b : Backend} {calls : List (Desk × Request)} {x : Desk × Request}
    (h : Removes id (after b calls) x) : Removed id b (calls ++ [x]) := by
  induction calls generalizing b with
  | nil => exact .inl h
  | cons c calls ih => exact .inr (ih h)

/-- A change of status that fails, asked for by a client or by a payment. -/
inductive Refuses (d : Desk) (id : Int) : Request → Prop where
  | changeStatus {s : Scope} {target : Status} {f : Failure}
      (h : (Desk.changeStatus s id target d).1 = .failed f) :
      Refuses d id (.change (.changeStatus s id target))
  | payment {s : Scope} {m : PaymentOutcome} {target : Status} {f : Failure}
      (hid : m.orderId = id) (hm : m.target? = some target)
      (h : (Desk.changeStatus s id target d).1 = .failed f) :
      Refuses d id (.change (.payment s m))

/-- How an order is after one more call: as it was, moved as its status allows, or removed. -/
inductive Next (b : Backend) (o : Order) (x : Desk × Request) : Prop where
  | kept (h : Shows (callAt b x).2.store o)
  | moved {target : Status} {o' : Order} (hmove : x.2.move? = some (o.id, target))
      (hallowed : o.moveTo target x.1.clock.utc = .ok o') (h : Shows (callAt b x).2.store o')
  | removed (hremoves : Removes o.id b x) (h : Hides (callAt b x).2.store o.id)

section
variable {limit : Decimal} {now : Stamp} {ts ts' : Tables} {r : Request} {c : Change}
  {o o' : Order} {id : Int}

/-! ## changes of the tables -/

theorem Does.penned (hp : ts.Penned) (hkept : ts.Kept limit) (h : Does limit now ts r c ts') :
    ts'.Penned := by
  cases h with
  | placed _ hbook hlines _ hplaced => exact hp.withNew hbook hlines hplaced.storable
  | moved _ hbook hlines hread hmove =>
    exact hp.withChanged hbook hlines (moveTo_sound (hkept.reads hread).1 hmove).1.storable
  | erased hbook hlines => exact hp.erased hbook hlines
  | idle | stocked | restocked | unstocked | filed => exact ⟨hp.totals, hp.prices⟩

theorem Does.reads_moved (hp : ts.Penned) (hkept : ts.Kept limit)
    (hnow : (Store.stored (.time now)).time? = some now) (h : Does limit now ts r (.moved o) ts') :
    ts'.Reads o.id o := by
  obtain ⟨target, before, -, hbefore, hmove⟩ := h.moved_from
  obtain ⟨o', hread, halike⟩ := h.written hkept hnow rfl
  have hcanonical : Store.Canonical o := by
    obtain ⟨htotal, hprices, hlines⟩ := hp.canonical hbefore
    rw [moveTo_eq hmove]
    exact ⟨htotal, hprices, hlines⟩
  rw [((h.penned hp hkept).canonical hread).eq_of_alike hcanonical halike] at hread
  exact hread

theorem Does.placed_of_created (hsound : ts.Sound limit) (h : Does limit now ts r c ts')
    {row : OrderRow} (hrow : row ∈ Desk.created ts ts') : ∃ o, c = .placed o ∧ row.id = o.id := by
  cases c with
  | placed o =>
    cases h with
    | placed _ hbook hlines _ hplaced =>
      obtain ⟨row₀, hid, hcreated, -⟩ := created_withNew hsound hbook hlines hplaced
      rw [hcreated] at hrow
      exact ⟨o, rfl, List.mem_singleton.mp hrow ▸ hid⟩
  | idle | moved | erased | catalog =>
    rw [h.created_eq_nil fun _ => nofun] at hrow
    cases hrow

theorem Does.erased_request (h : Does limit now ts r (.erased id) ts') :
    ∃ s, r = .change (.deleteOrder s id) := by
  cases h with
  | @erased s => exact ⟨s, rfl⟩

/-- **An order after one change** of the tables: as it was, moved, or gone. -/
theorem Does.next (hp : ts.Penned) (hkept : ts.Kept limit) (hc : Counted ts)
    (hnow : (Store.stored (.time now)).time? = some now) (h : Does limit now ts r c ts')
    (hread : ts.Reads id o) :
    (ts'.Reads id o ∨ ∃ target o', r.move? = some (id, target) ∧ o.moveTo target now = .ok o' ∧
      ts'.Reads id o') ∨ c = .erased id ∧ ts'.Gone id := by
  -- only a change of this very order matters, and this order cannot be placed again
  by_cases hne : c.order? = some id
  · cases c with
    | placed o₁ =>
      obtain rfl : o₁.id = id := Option.some.inj hne
      exact absurd (issued_of_reads hc hread) h.fresh.1
    | moved o₁ =>
      obtain rfl : o₁.id = id := Option.some.inj hne
      obtain ⟨target, before, hr, hbefore, hmove⟩ := h.moved_from
      obtain rfl : before = o := hbefore.unique hread
      exact .inl (.inr ⟨target, o₁, hr, hmove, h.reads_moved hp hkept hnow⟩)
    | erased j =>
      obtain rfl : j = id := Option.some.inj hne
      exact .inr ⟨rfl, gone_iff.mpr ⟨h.lacks_erased, h.issued (issued_of_reads hc hread)⟩⟩
    | idle | catalog => cases hne
  · exact .inl (.inl ((h.reads_ne hne).mpr hread))

end

/-! ## stores with amounts in one spelling -/

/-- A store that can be read, with amounts in the spelling of the service. -/
structure Held (db : Database) : Prop extends Ready db where
  penned : db.tables.Penned

section
variable {db : Database} {d : Desk} {s : Scope} {o : Order} {id : Int}

theorem held_fresh : ∃ db, Store.fresh = .embedded db ∧ Held db := by
  obtain ⟨db, hfresh, hready⟩ := ready_fresh
  obtain rfl : _ = db := Backend.embedded.inj (Store.fresh_eq.symm.trans hfresh)
  refine ⟨_, hfresh, hready, fun book hbook row hrow => ?_, fun lines hlines row hrow => ?_⟩
  · rw [← Option.some.inj hbook] at hrow
    cases hrow
  · rw [← Option.some.inj hlines] at hrow
    cases hrow

theorem Held.shows (h : Held db) (hread : db.tables.Reads id o) : Shows (.embedded db) o := by
  obtain ⟨limit, hsound⟩ := h.sound
  have hread : db.tables.Reads o.id o := hread.id_eq ▸ hread
  refine ⟨Store.Orders.reads_iff.mpr ⟨h.isOpen, rfl, hread⟩, fun status page p b' hp a ha hid => ?_,
    fun size p b' hp hsize => Store.Orders.find_lists hsound.kept hp hsize hread⟩
  have hread' := Store.Orders.find_reads hsound.kept hp a ha
  rw [hid] at hread'
  exact hread'.unique hread

/-- **A call** from such a store makes a change, and leaves the store so. -/
theorem Held.call (h : Held db) (x : Desk × Request) : ∃ limit c ts, db.tables.Sound limit ∧
    Does limit x.1.clock.utc db.tables x.2 c ts ∧
    (callAt (.embedded db) x).2.store = .embedded { db with tables := ts } ∧
    Held { db with tables := ts } := by
  obtain ⟨c, limit, ts, -, hsound, hdoes, hs', hready⟩ :=
    h.toReady.deed (d := { x.1 with store := .embedded db }) rfl x.2
  exact ⟨limit, c, ts, hsound, hdoes, hs', hready, hdoes.penned h.penned hsound.kept⟩

theorem Held.after (h : Held db) (calls : List (Desk × Request)) :
    ∃ db', after (.embedded db) calls = .embedded db' ∧ Held db' := by
  refine after_keeps (fun db h x => ?_) h calls
  obtain ⟨limit, c, ts, -, -, hs', hheld⟩ := h.call x
  exact ⟨_, hs', hheld⟩

/-! ## removals -/

theorem evictOrder_ends (s : Scope) (id : Int) (d : Desk) : ∃ d', evictOrder s id d = (.ok (), d') := by
  have hcalm : Calm [] (evictOrder s id) := evictOrder_calm s id
  rcases hend : evictOrder s id d with ⟨o, d'⟩
  cases o with
  | ok u => exact ⟨d', rfl⟩
  | failed f => exact absurd hend (evictOrder_unfailing s id d f d')
  | panicked t => exact absurd (congrArg Prod.fst hend) ((hcalm d fun _ hc => nomatch hc).1 t)

/-- **A removal** goes through, and the order is not there any more, or it leaves the store as it
was. -/
theorem deleteOrder_ends (s : Scope) (id : Int) (hs : d.store = .embedded db)
    (hr : db.saved = none) :
    ((deleteOrder s id d).1 = .ok () ∧ ∃ ts, (deleteOrder s id d).2.store
        = .embedded { db with tables := ts } ∧ ts.Lacks id) ∨
      (∀ u, (deleteOrder s id d).1 ≠ .ok u) ∧ (deleteOrder s id d).2.store = .embedded db := by
  rcases Action.bind_ends (eraseStored id) (fun _ => do
      log s .info "order deleted" [("order_id", .int id)]
      evictOrder s id) d with ⟨u, d₁, herase, hend⟩ | ⟨hno, hnot, hend⟩
  · obtain ⟨-, ts, hs₁, hlacks⟩ := eraseStored_ok hs hr herase
    rw [Action.bind_of_ok log_apply] at hend
    obtain ⟨d₂, hevict⟩ := evictOrder_ends s id _
    have hwrites : Writes [OrderCache.key id] _ d₂ :=
      (evictOrder_writes s id List.mem_cons_self).of_eq hevict
    have hdelete : deleteOrder s id d = (.ok (), d₂) := hend.trans hevict
    rw [hdelete]
    exact .inl ⟨rfl, ts, hwrites.store.trans hs₁, hlacks⟩
  · refine .inr ⟨hnot, ?_⟩
    have hstore : (eraseStored id d).2.store = d.store :=
      transaction_undone (eraseOrder_works id) hs hr hno
    exact (congrArg Desk.store hend).trans (hstore.trans hs)

/-! ## orders that are not there -/

theorem changeStatus_lacks {target : Status} (h : Ready db) (hs : d.store = .embedded db)
    (hlacks : db.tables.Lacks id) : (∀ u, (changeStatus s id target d).1 ≠ .ok u) ∧
      (d.outages = [] →
        (changeStatus s id target d).1 = .failed (.cause (Store.Orders.missing id))) := by
  rcases hend : changeStatus s id target d with ⟨o, d'⟩
  obtain ⟨s', t, t', d₁, hbody, rfl⟩ := inSpan_end hend
  refine ⟨fun u ho => ?_, fun hout => ?_⟩
  · obtain rfl : o = .ok u := ho
    obtain ⟨moved, d₂, hmove, -⟩ := Action.bind_ok_iff.mp hbody
    exact (moveStored_ok (d := { d with tracer := t }) hs h.atRest hmove).1 hlacks
  · have hread : moveOrder id target
        { d with tracer := t, store := .embedded (Store.inside db db.tables) } = _ :=
      Action.bind_of_failed (onStore_eq_iff.mpr ⟨_, Store.Orders.read_lacks true h.isOpen hlacks, rfl⟩)
    obtain ⟨d₂, hmove⟩ := transaction_of_failed (d := { d with tracer := t })
      (by rw [hout]; rfl) hs h.atRest h.isOpen hread rfl
    exact congrArg Prod.fst (hbody.symm.trans (Action.bind_of_failed hmove))

theorem eraseOrder_lacks {book : Table OrderRow} {lines : Table Store.ItemRow}
    (hs : d.store = .embedded db) (hshelves : Store.Orders.Shelves db book lines)
    (hnone : book.get? id = none) (hout : d.outages.lookup .orderExists = none) :
    eraseOrder id d = (.failed (.cause (Store.Orders.missing id)), d) := by
  have hthere : stored .orderExists (Store.Orders.exists? id) d = (.ok false, d) := by
    refine stored_ok_iff.mpr ⟨hout, .embedded db, ?_, by rw [← hs]⟩
    rw [hs, Store.Orders.exists?_shelves hshelves, hnone]
    rfl
  exact Action.bind_of_ok hthere

theorem deleteOrder_lacks (h : Ready db) (hs : d.store = .embedded db)
    (hlacks : db.tables.Lacks id) : (∀ u, (deleteOrder s id d).1 ≠ .ok u) ∧
      (d.outages = [] → (deleteOrder s id d).1 = .failed (.cause (Store.Orders.missing id))) := by
  obtain ⟨limit, hsound⟩ := h.sound
  obtain ⟨book, lines, hbook, hlines, -⟩ := hsound.orders
  obtain ⟨book₁, hbook₁, hnone⟩ := hlacks
  obtain rfl : book = book₁ := Option.some.inj (hbook.symm.trans hbook₁)
  have hshelves : Store.Orders.Shelves (Store.inside db db.tables) book lines :=
    ⟨h.isOpen, hbook, hlines⟩
  refine ⟨fun u ho => ?_, fun hout => ?_⟩
  · obtain ⟨_, d₁, herase, -⟩ := Action.bind_ok_iff.mp (Prod.ext ho rfl)
    obtain ⟨d₂, ts, hbody, -⟩ :=
      transaction_commits (W := []) (eraseOrder_works id) hs h.atRest herase
    obtain ⟨there, d₃, hfind, -⟩ := Action.bind_ok_iff.mp hbody
    rw [eraseOrder_lacks rfl hshelves hnone (stored_ok_iff.mp hfind).1] at hbody
    cases hbody
  · have hbody := eraseOrder_lacks (d := { d with store := .embedded (Store.inside db db.tables) })
      rfl hshelves hnone (by rw [hout]; rfl)
    obtain ⟨d₁, herase⟩ := transaction_of_failed (by rw [hout]; rfl) hs h.atRest h.isOpen hbody rfl
    exact congrArg Prod.fst (Action.bind_of_failed herase)

theorem eraseOrder_there {book : Table OrderRow} {lines : Table Store.ItemRow}
    (hs : d.store = .embedded db) (hopen : db.saved.isSome)
    (hshelves : Store.Orders.Shelves db book lines) (hget : (book.get? id).isSome)
    (hout : d.outages.lookup .orderExists = none) : ∃ d', eraseOrder id d = (.ok (), d') := by
  have hthere : stored .orderExists (Store.Orders.exists? id) d = (.ok true, d) := by
    refine stored_ok_iff.mpr ⟨hout, .embedded db, ?_, by rw [← hs]⟩
    rw [hs, Store.Orders.exists?_shelves hshelves, hget]
  have hdelete : Store.Orders.delete id d.store = (.ok (), .embedded
      { db with tables := Store.Orders.erased db.tables book lines id }) := by
    rw [hs]
    exact (Store.within_of_open rfl hopen).trans (Store.Orders.removing_there hshelves hget)
  exact ⟨_, (Action.bind_of_ok hthere).trans (onStore_eq_iff.mpr ⟨_, hdelete, rfl⟩)⟩

/-- a removal of an order that is there goes through -/
theorem deleteOrder_there (h : Ready db) (hs : d.store = .embedded db) (hout : d.outages = [])
    (hread : db.tables.Reads id o) : (deleteOrder s id d).1 = .ok () := by
  obtain ⟨book, lines, row, -, -, hbook, hlines, hget, -⟩ := hread
  have hshelves : Store.Orders.Shelves (Store.inside db db.tables) book lines :=
    ⟨h.isOpen, hbook, hlines⟩
  obtain ⟨d₁, hbody⟩ := eraseOrder_there
    (d := { d with store := .embedded (Store.inside db db.tables) }) rfl rfl hshelves
    (Option.isSome_of_eq_some hget) (by rw [hout]; rfl)
  obtain ⟨d₂, herase⟩ :=
    transaction_of_ok (eraseOrder_works id) (by rw [hout]; rfl) hs h.atRest h.isOpen hbody
  have herase : eraseStored id d = (.ok (), d₂) := herase
  obtain ⟨d₃, hevict⟩ := evictOrder_ends s id _
  unfold deleteOrder
  rw [Action.bind_of_ok herase, Action.bind_of_ok log_apply, hevict]

theorem Held.hides (h : Held db) (hlacks : db.tables.Lacks id) : Hides (.embedded db) id := by
  obtain ⟨limit, hsound⟩ := h.sound
  refine ⟨Store.Orders.get_lacks h.isOpen hlacks, fun status page p b' hp a ha hid => ?_,
    fun d s target hs => changeStatus_lacks h.toReady hs hlacks,
    fun d s hs => deleteOrder_lacks h.toReady hs hlacks⟩
  have hread := Store.Orders.find_reads hsound.kept hp a ha
  rw [hid] at hread
  exact hlacks.not_reads hread

/-! ## one call, and several -/

theorem removes_or_keeps (hr : db.saved = none) {x : Desk × Request}
    (hx : ∃ s, x.2 = .change (.deleteOrder s id)) {ts : Tables}
    (hs' : (callAt (.embedded db) x).2.store = .embedded { db with tables := ts }) :
    Removes id (.embedded db) x ∧ ts.Lacks id ∨ ¬ Removes id (.embedded db) x ∧ ts = db.tables := by
  obtain ⟨d, r⟩ := x
  obtain ⟨s, rfl⟩ := hx
  have hcall : callAt (.embedded db) (d, .change (.deleteOrder s id))
      = deleteOrder s id { d with store := .embedded db } := rfl
  rw [hcall] at hs'
  rcases deleteOrder_ends (d := { d with store := .embedded db }) s id rfl hr with
    ⟨hok, ts', hstore, hlacks⟩ | ⟨hno, hstore⟩
  · obtain rfl : ts = ts' := congrArg Database.tables (Backend.embedded.inj (hs'.symm.trans hstore))
    exact .inl ⟨⟨⟨s, rfl⟩, hok⟩, hlacks⟩
  · have hsame : ts = db.tables :=
      congrArg Database.tables (Backend.embedded.inj (hs'.symm.trans hstore))
    exact .inr ⟨fun h => hno () h.2, hsame⟩

/-- **An order after one call** with a clock in the calendar. -/
theorem Held.turn (h : Held db) (hread : db.tables.Reads id o) (x : Desk × Request)
    (hclock : x.1.clock.utc.InCalendar) : ∃ ts, Held { db with tables := ts } ∧
      (callAt (.embedded db) x).2.store = .embedded { db with tables := ts } ∧
      (¬ Removes id (.embedded db) x ∧ (ts.Reads id o ∨ ∃ target o', x.2.move? = some (id, target) ∧
          o.moveTo target x.1.clock.utc = .ok o' ∧ ts.Reads id o') ∨
        Removes id (.embedded db) x ∧ ts.Gone id) := by
  obtain ⟨limit, c, ts, hsound, hdoes, hs', hheld⟩ := h.call x
  refine ⟨ts, hheld, hs', ?_⟩
  have hnow := Store.time?_stored hclock
  rcases hdoes.next h.penned hsound.kept h.counted hnow hread with hthere | ⟨rfl, hgone⟩
  · refine .inl ⟨fun hremoves => ?_, hthere⟩
    have hlacks : ts.Lacks id := by
      rcases removes_or_keeps h.atRest hremoves.1 hs' with ⟨-, hlacks⟩ | ⟨hno, -⟩
      · exact hlacks
      · exact absurd hremoves hno
    rcases hthere with hthere | ⟨target, o', -, -, hthere⟩
    · exact hlacks.not_reads hthere
    · exact hlacks.not_reads hthere
  · refine .inr ⟨?_, hgone⟩
    rcases removes_or_keeps h.atRest hdoes.erased_request hs' with ⟨hremoves, -⟩ | ⟨-, hsame⟩
    · exact hremoves
    · exact absurd hread (hsame ▸ hgone).lacks.not_reads

theorem Held.next (h : Held db) (hread : db.tables.Reads id o) (x : Desk × Request)
    (hclock : x.1.clock.utc.InCalendar) : Next (.embedded db) o x := by
  obtain rfl : o.id = id := hread.id_eq
  obtain ⟨ts, hheld, hs', hturn⟩ := h.turn hread x hclock
  rcases hturn with ⟨-, hthere | ⟨target, o', hmove, hallowed, hthere⟩⟩ | ⟨hremoves, hgone⟩
  · exact .kept (hs' ▸ hheld.shows hthere)
  · exact .moved hmove hallowed (hs' ▸ hheld.shows hthere)
  · exact .removed hremoves (hs' ▸ hheld.hides hgone.lacks)

theorem Held.stays_gone (h : Held db) (hgone : db.tables.Gone id) (calls : List (Desk × Request)) :
    ∃ db', Desk.after (.embedded db) calls = .embedded db' ∧ Held db' ∧ db'.tables.Gone id := by
  refine after_keeps (fun db h x => ?_) ⟨h, hgone⟩ calls
  obtain ⟨limit, c, ts, -, hdoes, hs', hheld⟩ := h.1.call x
  exact ⟨_, hs', hheld, hdoes.stays_gone h.2⟩

/-- **An order after several calls**: there with all that was read of it but its status and the time
of its last move, or removed by one of the calls and gone. -/
theorem Held.run (h : Held db) (hread : db.tables.Reads id o) {calls : List (Desk × Request)}
    (hclock : ∀ x ∈ calls, x.1.clock.utc.InCalendar) :
    ∃ db', Desk.after (.embedded db) calls = .embedded db' ∧ Held db' ∧
      (¬ Removed id (.embedded db) calls ∧ (∃ o', db'.tables.Reads id o' ∧
          o' = { o with status := o'.status, updatedAt := o'.updatedAt }) ∨
        Removed id (.embedded db) calls ∧ db'.tables.Gone id) := by
  induction calls generalizing db o with
  | nil => exact ⟨db, rfl, h, .inl ⟨fun hr => hr, o, hread, rfl⟩⟩
  | cons x calls ih =>
    obtain ⟨ts, hheld, hs', hturn⟩ := h.turn hread x (hclock x List.mem_cons_self)
    rw [Desk.after, Removed, hs']
    rcases hturn with ⟨hno, hthere⟩ | ⟨hremoves, hgone⟩
    · obtain ⟨o₁, hread₁, hsame₁⟩ : ∃ o₁, ts.Reads id o₁ ∧
          o₁ = { o with status := o₁.status, updatedAt := o₁.updatedAt } := by
        rcases hthere with hthere | ⟨target, o₁, -, hmove, hthere⟩
        · exact ⟨o, hthere, rfl⟩
        · exact ⟨o₁, hthere, by rw [moveTo_eq hmove]⟩
      obtain ⟨db', hafter, hheld', hend⟩ := ih hheld hread₁
        fun y hy => hclock y (List.mem_cons_of_mem _ hy)
      refine ⟨db', hafter, hheld', ?_⟩
      rcases hend with ⟨hnone, o₂, hread₂, hsame₂⟩ | ⟨hsome, hgone⟩
      · refine .inl ⟨fun hr => hr.elim hno hnone, o₂, hread₂, ?_⟩
        rw [hsame₂, hsame₁]
      · exact .inr ⟨.inr hsome, hgone⟩
    · -- the calls that are left do not bring the order back
      obtain ⟨db', hafter, hheld', hgone'⟩ := hheld.stays_gone hgone calls
      exact ⟨db', hafter, hheld', .inr ⟨.inl hremoves, hgone'⟩⟩

/-- **A change of status that fails** leaves the store as it was. -/
theorem refuses_store {r : Request} (hs : d.store = .embedded db) (hr : db.saved = none)
    (h : Refuses d id r) : (r.perform d).2.store = d.store := by
  cases h with
  | changeStatus h => exact congrArg Prod.fst (changeStatus_failed hs hr (Prod.ext h rfl))
  | @payment s m target f hid hm h =>
    subst hid
    have hstore : (changeStatus s m.orderId target d).2.store = d.store :=
      congrArg Prod.fst (changeStatus_failed hs hr (Prod.ext h rfl))
    show (handlePayment s m d).2.store = _
    unfold handlePayment
    rw [hm]
    show ((changeStatus s m.orderId target).orElse _ d).2.store = _
    rw [Action.orElse_of_failed (Prod.ext h rfl)]
    split
    · exact hstore
    · exact hstore

/-! ## creations -/

/-- the order of a new row is read from then on, under an id that was not given out before -/
theorem Held.created (h : Held db) (x : Desk × Request) (hclock : x.1.clock.utc.InCalendar)
    {row : OrderRow}
    (hrow : row ∈ created db.tables (tablesOf (callAt (.embedded db) x).2.store)) :
    ∃ ts o, Held { db with tables := ts } ∧
      (callAt (.embedded db) x).2.store = .embedded { db with tables := ts } ∧
      ts.Reads row.id o := by
  obtain ⟨limit, c, ts, hsound, hdoes, hs', hheld⟩ := h.call x
  rw [hs'] at hrow
  obtain ⟨o, rfl, hid⟩ := hdoes.placed_of_created hsound hrow
  obtain ⟨o', hread, -⟩ := hdoes.written hsound.kept (Store.time?_stored hclock) rfl
  exact ⟨ts, o', hheld, hs', hid ▸ hread⟩

theorem Held.not_created (h : Held db) (hissued : Issued db.tables id) (x : Desk × Request) :
    ∀ row ∈ Desk.created db.tables (tablesOf (callAt (.embedded db) x).2.store), row.id ≠ id := by
  rintro row hrow rfl
  obtain ⟨limit, c, ts, hsound, hdoes, hs', -⟩ := h.call x
  rw [hs'] at hrow
  obtain ⟨o, rfl, hid⟩ := hdoes.placed_of_created hsound hrow
  exact hdoes.fresh.1 (hid ▸ hissued)

end

/-! ## what holds of every run -/

/-- **Orders do not change**, but for their status and the time of their last move. An order that a
call `x` of a run creates is shown from then on, after any calls none of which removes it, as it was
shown first, but for these two; a further call leaves it as it is, moves it as its status allows, or
removes it, and one that fails to move it leaves the store as it was. After a call that removes it,
no order is found under its id. And no later call creates an order with its id. -/
theorem orders_immutable (before later : List (Desk × Request)) (x : Desk × Request)
    (hclock : ∀ y ∈ x :: later, y.1.clock.utc.InCalendar) {row : OrderRow}
    (hrow : row ∈ created (tablesOf (after Store.fresh before))
      (tablesOf (callAt (after Store.fresh before) x).2.store)) :
    ∃ o, o.id = row.id ∧ Shows (callAt (after Store.fresh before) x).2.store o ∧
      ∀ b, after (callAt (after Store.fresh before) x).2.store later = b →
        (¬ Removed row.id (callAt (after Store.fresh before) x).2.store later →
          ∃ o', o' = { o with status := o'.status, updatedAt := o'.updatedAt } ∧ Shows b o' ∧
            ∀ y, y.1.clock.utc.InCalendar → Next b o' y) ∧
        (Removed row.id (callAt (after Store.fresh before) x).2.store later → Hides b row.id) ∧
        (∀ d r, d.store = b → Refuses d row.id r → (r.perform d).2.store = b) ∧
        ∀ y, ∀ row' ∈ created (tablesOf b) (tablesOf (callAt b y).2.store), row'.id ≠ row.id := by
  obtain ⟨db₀, hfresh, hheld₀⟩ := held_fresh
  obtain ⟨db, hbefore, hheld⟩ := hheld₀.after before
  rw [hfresh, hbefore] at hrow ⊢
  obtain ⟨ts, o, hheld₁, hs₁, hread⟩ := hheld.created x (hclock x List.mem_cons_self) hrow
  rw [hs₁]
  obtain ⟨db', hafter, hheld', hend⟩ :=
    hheld₁.run hread fun y hy => hclock y (List.mem_cons_of_mem _ hy)
  refine ⟨o, hread.id_eq, hheld₁.shows hread, ?_⟩
  rintro _ rfl
  rw [hafter]
  have hissued : Issued db'.tables row.id := by
    rcases hend with ⟨-, o', hread', -⟩ | ⟨-, hgone⟩
    · exact issued_of_reads hheld'.counted hread'
    · exact (gone_iff.mp hgone).2
  refine ⟨fun hno => ?_, fun hyes => ?_, fun d r hs hrefuses => ?_, hheld'.not_created hissued⟩
  · rcases hend with ⟨-, o', hread', hsame⟩ | ⟨hyes, -⟩
    · exact ⟨o', hsame, hheld'.shows hread', fun y hy => hheld'.next hread' y hy⟩
    · exact absurd hyes hno
  · rcases hend with ⟨hno, -⟩ | ⟨-, hgone⟩
    · exact absurd hyes hno
    · exact hheld'.hides hgone.lacks
  · exact (refuses_store hs hheld'.atRest hrefuses).trans hs

/-- the sale of three units, on two lines -/
def saleOfThree : Desk × Request :=
  (shopWith {} {}, .change (.createOrder scope { items := [⟨1, 2⟩, ⟨1, 1⟩] }))

def threeSold : Backend := (callAt (after Store.fresh putUp) saleOfThree).2.store

/-- the product gets another name and another price, and is withdrawn -/
def productChanges : List (Desk × Request) :=
  [(shopWith {} {}, .change (.updateProduct scope 1 ⟨"B", .ofInt 9, 5⟩)),
    (shopWith {} {}, .change (.deleteProduct scope 1))]

def payment : Desk × Request := (shopWith {} {}, .change (.payment scope ⟨1, "Success"⟩))

def removal : Desk × Request := (shopWith {} {}, .change (.deleteOrder scope 1))

theorem threeSold_held : ∃ db, threeSold = .embedded db ∧ Held db := by
  obtain ⟨db₀, hfresh, hheld₀⟩ := held_fresh
  obtain ⟨db₁, hbefore, hheld₁⟩ := hheld₀.after putUp
  obtain ⟨limit, c, ts, -, -, hs', hheld⟩ := hheld₁.call saleOfThree
  refine ⟨_, ?_, hheld⟩
  unfold threeSold
  rw [hfresh, hbefore, hs']

section
variable {db : Database} {o : Order}

/-- the message that a pending order is paid confirms it, and then it can be removed -/
theorem payment_confirms (h : Held db) (hstands : Stands db 1 o 1) (hpending : o.status = .pending) :
    ∃ db' o', (callAt (.embedded db) payment).2.store = .embedded db' ∧ db'.tables.Reads 1 o' ∧
      o'.status = .confirmed ∧ Removes 1 (.embedded db') removal := by
  have hable : Able { shopWith {} {} with store := .embedded db } :=
    ⟨rfl, rfl, steady_of_no_outage rfl, shop_able.clock⟩
  have hmove : o.status.canMoveTo .confirmed = true := by
    rw [hpending]
    decide
  obtain ⟨d', ts, o', hrun, hs', hstands', hstatus⟩ :=
    changeStatus_goes scope rfl hable hstands hmove
  obtain ⟨-, hstore⟩ := handlePayment_ends (m := ⟨1, "Success"⟩) scope rfl rfl hable hstands
  rw [hrun] at hstore
  have hs' : (callAt (.embedded db) payment).2.store = .embedded { db with tables := ts } :=
    hstore.trans hs'
  obtain ⟨limit, c, ts', -, -, hs'', hheld⟩ := h.call payment
  obtain rfl : ts = ts' := congrArg Database.tables (Backend.embedded.inj (hs'.symm.trans hs''))
  exact ⟨_, o', hs', hstands'.reads, hstatus,
    ⟨scope, rfl⟩, deleteOrder_there hheld.toReady rfl rfl hstands'.reads⟩

/-- while the product changed, the order stayed pending, and can be written again -/
theorem changed_stands (hafter : after threeSold productChanges = .embedded db) (h : Ready db)
    (hread : db.tables.Reads 1 o) : o.status = .pending ∧ Stands db 1 o 1 := by
  have hstatus : ((tablesOf (after threeSold productChanges)).orders.bind (·.get? 1)).map
      (·.status) = some "PENDING" := by decide +kernel
  have hcount : (tablesOf (after threeSold productChanges)).items.map
      (fun lines => (lines.nextId, (Store.linesOf lines 1).length)) = some (3, 2) := by
    decide +kernel
  rw [hafter] at hstatus hcount
  have hname : some o.status.name = some "PENDING" := hread.status_name.symm.trans hstatus
  refine ⟨congrArg Status.mk (Option.some.inj hname), h.stands hread fun lines hlines => ?_⟩
  have hlength := hread.length_items
  rw [tablesOf, hlines] at hcount
  rw [hlines] at hlength
  obtain ⟨hnext, hown⟩ := Prod.mk.inj (Option.some.inj hcount)
  have hlength : (Store.linesOf lines 1).length = o.items.length := Option.some.inj hlength
  omega

end

/-- the order is shown as it was sold, and paid; after its removal nothing is found -/
theorem sold_order_stays : ∃ o o', o.id = 1 ∧ o.items.length = 2 ∧ Shows threeSold o ∧
    o' = { o with status := .confirmed, updatedAt := o'.updatedAt } ∧
    Shows (after threeSold (productChanges ++ [payment])) o' ∧
    Hides (after threeSold (productChanges ++ [payment] ++ [removal])) 1 := by
  have hclock : (shopWith {} {}).clock.utc.InCalendar := by
    show Stamp.InCalendar Stamp.zero.utc
    decide
  have hids : (created (tablesOf (after Store.fresh putUp)) (tablesOf threeSold)).map (·.id) = [1] := by
    decide +kernel
  have hcount : (tablesOf threeSold).items.map (fun lines => (Store.linesOf lines 1).length)
      = some 2 := by decide +kernel
  obtain ⟨row, hrow, hid⟩ := List.mem_map.mp (hids ▸ List.mem_singleton_self (1 : Int))
  obtain ⟨o, ho, hshows, hlater⟩ := orders_immutable putUp (productChanges ++ [payment]) saleOfThree
    (by simpa [productChanges, payment, saleOfThree] using hclock) hrow
  obtain ⟨_, -, -, hremoved⟩ := orders_immutable putUp (productChanges ++ [payment] ++ [removal])
    saleOfThree (by simpa [productChanges, payment, removal, saleOfThree] using hclock) hrow
  obtain ⟨o', hsame, hshows', -⟩ := (hlater _ rfl).1 (not_removed (by simp [productChanges, payment]) _)
  rw [hid] at ho hremoved
  have hid' : o'.id = 1 := (congrArg Order.id hsame).trans ho
  -- the store after the sale, after the changes of the product, and after the payment
  obtain ⟨db, hsold, hheld⟩ := threeSold_held
  have hread : db.tables.Reads 1 o := (hsold ▸ hshows : Shows (.embedded db) o).reads ho
  have hclock₁ : ∀ x ∈ productChanges, x.1.clock.utc.InCalendar := by
    simpa [productChanges] using hclock
  obtain ⟨db₁, hafter₁, hheld₁, hchanged⟩ := hheld.run hread hclock₁
  obtain ⟨o₁, hread₁⟩ : ∃ o₁, db₁.tables.Reads 1 o₁ := by
    rcases hchanged with ⟨-, o₁, hread₁, -⟩ | ⟨hyes, -⟩
    · exact ⟨o₁, hread₁⟩
    · exact absurd hyes (not_removed (by simp [productChanges]) _)
  rw [← hsold] at hafter₁
  obtain ⟨hpending, hstands⟩ := changed_stands hafter₁ hheld₁.toReady hread₁
  obtain ⟨db₂, o₂, hs₂, hread₂, hstatus, hremoves⟩ := payment_confirms hheld₁ hstands hpending
  have hafter₂ : after threeSold (productChanges ++ [payment]) = .embedded db₂ := by
    rw [after_append, hafter₁]
    exact hs₂
  have hconfirmed : o'.status = .confirmed := by
    rw [((hafter₂ ▸ hshows' : Shows (.embedded db₂) o').reads hid').unique hread₂, hstatus]
  rw [hsold] at hcount
  rw [hconfirmed] at hsame
  exact ⟨o, o', ho, Option.some.inj (hread.length_items.symm.trans hcount), hshows, hsame, hshows',
    (hremoved _ rfl).2.1 (removed_last (hafter₂ ▸ hremoves))⟩

end OrderDesk.Desk
