import OrderDesk.Proofs.Desk.Reading

/-!
# Status requests converge

An order is asked to change its status over and over, by callers and by messages, in any order and
any number of times. Each request moves it up the ranks or is refused, so where it ends depends on
what was asked for and not on when.

* `Status.rank`                   the order of the statuses that moves lead through;
* `Status.canMoveTo_iff`          a move is allowed to a settled status that is not below;
* `Highest`                       a status of a list that none of it is above;
* `Stands`, `Ready.stands`        an order that can be written some more times, as every stored one;
* `Stands.moved`                  and one time less after a move;
* `request_raises`                one request: a move up, or none;
* `status_requests_converge`      any run of requests, and any other that asks for the same.
-/

namespace OrderDesk

/-! ## ranks -/

namespace Status

/-- how far an order has come -/
def rank (s : Status) : Nat := if s = confirmed then 1 else if s = cancelled then 2 else 0

/-- A status that an order can be moved to. -/
def Settled (s : Status) : Prop := s = confirmed ∨ s = cancelled

instance (s : Status) : Decidable s.Settled := inferInstanceAs (Decidable (_ ∨ _))

variable {s s' t : Status}

theorem Live.rank_inj (h : s.Live) (h' : t.Live) (hr : s.rank = t.rank) : s = t := by
  rcases h with rfl | rfl | rfl <;> rcases h' with rfl | rfl | rfl <;>
    first | rfl | exact absurd hr (by decide)

theorem Settled.live (h : t.Settled) : t.Live := .inr h

/-- moves lead up, and to a settled status -/
theorem canMoveTo_iff (h : s.Live) : s.canMoveTo t = true ↔ t.Settled ∧ s.rank ≤ t.rank := by
  have hsettled : s.canMoveTo t = true → t.Settled := by
    intro hmove
    rcases h with rfl | rfl | rfl
    · simpa [Settled, canMoveTo, next] using hmove
    · simpa [Settled, canMoveTo, next, show confirmed ≠ pending by decide] using hmove
    · exact .inr (by simpa [canMoveTo, next, show cancelled ≠ pending by decide,
        show cancelled ≠ confirmed by decide] using hmove)
  constructor
  · intro hmove
    have ht := hsettled hmove
    refine ⟨ht, ?_⟩
    rcases h with rfl | rfl | rfl <;> rcases ht with rfl | rfl <;>
      first | decide | exact absurd hmove (by decide)
  · rintro ⟨ht, hle⟩
    rcases h with rfl | rfl | rfl <;> rcases ht with rfl | rfl <;>
      first | decide | exact absurd hle (by decide)

/-- A status of a list that none of it is above. -/
structure Highest (s : Status) (ss : List Status) : Prop where
  mem : s ∈ ss
  above : ∀ t ∈ ss, t.rank ≤ s.rank

/-- the statuses that an order may come to: its own, and those asked for that it can be moved to -/
def candidates (s : Status) (asked : List Status) : List Status := s :: asked.filter (·.Settled)

theorem mem_candidates {asked : List Status} :
    t ∈ s.candidates asked ↔ t = s ∨ t ∈ asked ∧ t.Settled := by
  rw [candidates, List.mem_cons, List.mem_filter, decide_eq_true_iff]

theorem live_of_candidate {asked : List Status} (h : s.Live) (ht : t ∈ s.candidates asked) :
    t.Live := by
  rcases mem_candidates.mp ht with rfl | ⟨-, hsettled⟩
  · exact h
  · exact hsettled.live

theorem Highest.of_move {asked : List Status} (hs : s.Live) (hmove : s.canMoveTo t = true)
    (h : s'.Highest (t.candidates asked)) : s'.Highest (s.candidates (t :: asked)) := by
  obtain ⟨ht, hle⟩ := (canMoveTo_iff hs).mp hmove
  have hlist : s.candidates (t :: asked) = s :: t.candidates asked := by
    rw [candidates, candidates, List.filter_cons_of_pos (by simpa using ht)]
  rw [hlist]
  refine ⟨List.mem_cons_of_mem _ h.mem, fun x hx => ?_⟩
  rcases List.mem_cons.mp hx with rfl | hx
  · exact hle.trans (h.above t List.mem_cons_self)
  · exact h.above x hx

theorem Highest.of_stay {asked : List Status} (hs : s.Live) (hno : s.canMoveTo t = false)
    (h : s'.Highest (s.candidates asked)) : s'.Highest (s.candidates (t :: asked)) := by
  refine ⟨?_, fun x hx => ?_⟩
  · rcases mem_candidates.mp h.mem with he | ⟨hmem, hsettled⟩
    · exact mem_candidates.mpr (.inl he)
    · exact mem_candidates.mpr (.inr ⟨List.mem_cons_of_mem _ hmem, hsettled⟩)
  · have hown : s.rank ≤ s'.rank := h.above s List.mem_cons_self
    rcases mem_candidates.mp hx with rfl | ⟨hmem, hsettled⟩
    · exact hown
    · rcases List.mem_cons.mp hmem with rfl | hmem
      · -- it was refused, so it is below
        have hbelow : ¬ s.rank ≤ x.rank := fun hle => by
          rw [(canMoveTo_iff hs).mpr ⟨hsettled, hle⟩] at hno
          cases hno
        omega
      · exact h.above x (mem_candidates.mpr (.inr ⟨hmem, hsettled⟩))

/-- what was asked for decides, not in which order or how often -/
theorem Highest.unique {asked asked' : List Status} (hs : s.Live)
    (h : t.Highest (s.candidates asked)) (h' : s'.Highest (s.candidates asked'))
    (hsame : ∀ x, x ∈ asked ↔ x ∈ asked') : s' = t := by
  have hmem : ∀ x, x ∈ s.candidates asked ↔ x ∈ s.candidates asked' := fun x => by
    rw [mem_candidates, mem_candidates, hsame]
  have hle : s'.rank ≤ t.rank := h.above s' ((hmem s').mpr h'.mem)
  have hge : t.rank ≤ s'.rank := h'.above t ((hmem t).mp h.mem)
  exact (live_of_candidate hs h'.mem).rank_inj (live_of_candidate hs h.mem) (by omega)

end Status

namespace Order

theorem Balanced.of_alike {o : Order} (h : o.Balanced) {total : Decimal} {ls : List Line}
    (ht : total.value = o.total.value) (hl : List.Forall₂ Line.Alike ls o.items) :
    ({ o with total, lines := some ls } : Order).Balanced := by
  show total.value = (ls.map Line.cost).sum
  rw [ht, Line.costs_of_alike hl]
  exact h

end Order

namespace Desk

open Store (Backend Database Tables Table OrderRow ItemRow inside)

/-! ## orders that can be written -/

/-- An order of an open engine at rest that can be written `n` more times: it has an id and a number
of its own, its total is that of its lines, and there are ids for its lines each time. The first two
hold of every order that was ever stored by a call, see `Ready.stands`. -/
structure Stands (db : Database) (id : Int) (o : Order) (n : Nat) : Prop where
  isOpen : db.closed = false
  atRest : db.saved = none
  reads : db.tables.Reads id o
  key : id ≠ 0
  balanced : o.Balanced
  numbered : ∀ book, db.tables.orders = some book →
    Tables.numberTaken book (Store.Orders.storedNumber o.number) id = false
  room : ∀ lines, db.tables.items = some lines → lines.nextId + n * o.items.length ≤ 2 ^ 63

theorem numberTaken_update {book : Table OrderRow} {o : Order} {number : Option String} :
    Tables.numberTaken (book.update o.id (OrderRow.update o)) number o.id
      = Tables.numberTaken book number o.id := by
  unfold Tables.numberTaken
  congr 1
  show (book.rows.map _).any _ = book.rows.any _
  rw [List.any_map]
  congr 1
  funext r
  by_cases hid : r.id = o.id
  · have hid' : (OrderRow.update o r).id = o.id := hid
    simp [Store.HasId.id, hid, hid']
  · simp [Store.HasId.id, hid]

section
variable {limit : Decimal} {db : Database} {id : Int} {o : Order} {n : Nat}

theorem Stands.of_kept (hopen : db.closed = false) (hrest : db.saved = none)
    (hkept : db.tables.Kept limit) (hread : db.tables.Reads id o)
    (hroom : ∀ lines, db.tables.items = some lines →
      lines.nextId + n * o.items.length ≤ 2 ^ 63) : Stands db id o n := by
  obtain ⟨hsound, hid, hpos, book, lines, row, hbook, -, hbooked, hget, hnumber⟩ := hkept.reads hread
  refine ⟨hopen, hrest, hread, by omega, hsound.fair.sum, fun book₁ hbook₁ => ?_, hroom⟩
  obtain rfl : book = book₁ := Option.some.inj (hbook.symm.trans hbook₁)
  obtain ⟨hmem, hrow⟩ := Table.get?_some hget
  rw [Store.storedNumber_eq hsound.number, Tables.numberTaken, Option.isSome_some, Bool.true_and,
    List.any_eq_false]
  intro r hr
  -- a row with the number of the order is its row
  by_cases hsame : r.number = some o.number
  · have hrr : r = row :=
      List.inj_on_of_nodup_map hbooked.numbers hr hmem (hsame.trans hnumber.symm)
    have hrid : r.id = id := by rw [hrr]; exact hrow
    simp [hrid]
  · simp [hsame]

/-- **Every order that a run stored stands**, as long as there are ids for its lines: every run from
a new store leaves such an engine. -/
theorem Ready.stands (h : Ready db) (hread : db.tables.Reads id o)
    (hroom : ∀ lines, db.tables.items = some lines →
      lines.nextId + n * o.items.length ≤ 2 ^ 63) : Stands db id o n := by
  obtain ⟨limit, hsound⟩ := h.sound
  exact .of_kept h.isOpen h.atRest hsound.kept hread hroom

/-- the room of an order with as many lines, after one more write of them -/
theorem room_less {i k len : Int} (hk : 0 ≤ k) (hlen : 0 ≤ len)
    (h : i + (k + 1) * len ≤ 2 ^ 63) : i + len ≤ 2 ^ 63 ∧ i + len + k * len ≤ 2 ^ 63 := by
  have hrest : 0 ≤ k * len := Int.mul_nonneg hk hlen
  have hsplit : (k + 1) * len = k * len + len := by ring
  omega

theorem storable_of_reads {ts : Tables} (h : ts.Reads id o) : o.Storable := by
  obtain ⟨book, lines, row, o₀, ls, -, -, -, hrow, hread, rfl⟩ := h
  obtain ⟨-, -, -, htotal, -, -, -⟩ := OrderRow.order?_eq_some_iff.mp hrow
  exact ⟨Store.exp_of_amount? htotal, Store.prices_of_spelled hread⟩

theorem Stands.saved {after : Order} {book : Table OrderRow} {lines : Table ItemRow}
    (h : Stands db id o (n + 1)) (hbook : db.tables.orders = some book)
    (hlines : db.tables.items = some lines) (hid : after.id = id) (hnumber : after.number = o.number)
    (hbalanced : after.Balanced) (hlen : after.items.length = o.items.length) :
    Store.Orders.save after (.embedded (inside db db.tables)) = (.ok after,
      .embedded (inside db (Store.Orders.withChanged db.tables book lines after))) := by
  obtain ⟨book', lines', row, o₀, ls, hbook', -, hget, -⟩ := h.reads
  obtain rfl : book = book' := Option.some.inj (hbook.symm.trans hbook')
  have hroom := h.room lines hlines
  push_cast at hroom
  obtain ⟨hfit, -⟩ := room_less (Int.natCast_nonneg n) (Int.natCast_nonneg _) hroom
  have hless := lines.nextId_erase_le (·.orderId == .int after.id)
  refine (Store.Orders.update_ok_iff rfl (hid ▸ h.key)).mpr ⟨hbalanced, h.isOpen, book, lines, hbook,
    hlines, ?_, ?_, .inr ?_, rfl, rfl⟩
  · rw [hid]
    exact Option.isSome_of_eq_some hget
  · rw [hnumber, hid]
    exact h.numbered book hbook
  · rw [hlen]
    omega

/-- **A move of such an order is stored**, and the order can be written one time less. -/
theorem Stands.moved {target : Status} {now : Stamp} (h : Stands db id o (n + 1))
    (hnow : (Store.stored (.time now)).time? = some now) (hmove : o.status.canMoveTo target = true) :
    ∃ after ts o', o.moveTo target now = .ok after ∧
      Store.Orders.save after (.embedded (inside db db.tables))
        = (.ok after, .embedded (inside db ts)) ∧
      Stands { db with tables := ts } id o' n ∧ o'.status = target := by
  obtain ⟨book, lines, row, o₀, ls, hbook, hlines, hget, hrow, -, ho⟩ := h.reads
  have hid : o.id = id := h.reads.id_eq
  let after : Order := { o with status := target, updatedAt := now }
  have hafter : o.moveTo target now = .ok after := if_pos hmove
  have hsave := h.saved hbook hlines (show after.id = id from hid) rfl h.balanced rfl
  -- what was written is read again
  have hstor : o.Storable := storable_of_reads h.reads
  have hcreated : (Store.stored row.createdAt).time? = some after.createdAt := by
    obtain ⟨-, -, -, -, -, hcreated₀, -⟩ := OrderRow.order?_eq_some_iff.mp hrow
    show _ = some o.createdAt
    rw [hcreated₀, ho]
  have hget' : book.get? after.id = some row := by
    show book.get? o.id = some row
    rw [hid]
    exact hget
  obtain ⟨total, ls', hval, halike, hreads⟩ :=
    Store.reads_withChanged hget' ⟨hstor.total, hstor.prices⟩ hcreated hnow
  have hlen : ls'.length = o.items.length := halike.length_eq
  refine ⟨after, _, { after with total, lines := some ls' }, hafter, hsave, ?_, rfl⟩
  refine ⟨h.isOpen, h.atRest, hid ▸ hreads, h.key, Order.Balanced.of_alike h.balanced hval halike,
    fun book' hbook' => ?_, fun lines' hlines' => ?_⟩
  · have hnumber := h.numbered book hbook
    rw [← hid] at hnumber
    rw [← Option.some.inj hbook', ← hid]
    exact numberTaken_update.trans hnumber
  · have hroom := h.room lines hlines
    push_cast at hroom
    obtain ⟨-, hrest⟩ := room_less (Int.natCast_nonneg n) (Int.natCast_nonneg _) hroom
    have hless := lines.nextId_erase_le (·.orderId == .int after.id)
    rw [← Option.some.inj hlines', Store.nextId_appendLines]
    show _ + (o.items.length : Int) + n * (ls'.length : Int) ≤ 2 ^ 63
    rw [hlen]
    omega

theorem Stands.less (h : Stands db id o (n + 1)) : Stands db id o n := by
  refine ⟨h.isOpen, h.atRest, h.reads, h.key, h.balanced, h.numbered, fun lines hlines => ?_⟩
  have hroom := h.room lines hlines
  push_cast at hroom
  obtain ⟨-, hrest⟩ := room_less (Int.natCast_nonneg n) (Int.natCast_nonneg _) hroom
  omega

end

/-! ## requests -/

/-- What a move needs works: the store takes it, the cache does not panic, and the time can be
stored. -/
structure Able (d : Desk) : Prop where
  transaction : d.outages.lookup .transaction = none
  saveOrder : d.outages.lookup .saveOrder = none
  cache : Steady [.cacheSet] d
  clock : d.clock.utc.InCalendar

/-- A request for a status of the order, by a caller or by a message. -/
inductive AsksFor (id : Int) : Request → Prop
  | change (s : Scope) (target : Status) : AsksFor id (.change (.changeStatus s id target))
  | payment (s : Scope) (m : PaymentOutcome) (h : m.orderId = id) :
      AsksFor id (.change (.payment s m))

/-- the status that a request asks for; a message with an unknown outcome asks for none -/
def Request.asked? (r : Request) : Option Status := r.move?.map Prod.snd

def asked (calls : List (Desk × Request)) : List Status := calls.filterMap (·.2.asked?)

section
variable {d : Desk} {db : Database} {id : Int} {o : Order} {n : Nat} {target : Status}

theorem moveStored_goes (hs : d.store = .embedded db) (hd : Able d) (h : Stands db id o (n + 1))
    (hmove : o.status.canMoveTo target = true) :
    ∃ moved d' ts o', moveStored id target d = (.ok moved, d') ∧ d'.outages = d.outages ∧
      d'.store = .embedded { db with tables := ts } ∧ Stands { db with tables := ts } id o' n ∧
      o'.status = target := by
  obtain ⟨after, ts, o', hafter, hsave, hstands, hstatus⟩ :=
    h.moved (Store.time?_stored hd.clock) hmove
  let d₀ : Desk := { d with store := .embedded (inside db db.tables) }
  let d₁ : Desk := { d with store := .embedded (inside db ts) }
  have hlock : (Store.onStore (Store.Orders.lock id) : Action Desk Order) d₀ = (.ok o, d₀) :=
    onStore_eq_iff.mpr ⟨_, Store.Orders.reads_iff.mpr ⟨h.isOpen, rfl, h.reads⟩, rfl⟩
  have hwrite : (stored .saveOrder (Store.Orders.save after)).context
      ("save order " ++ toString id) d₀ = (.ok after, d₁) :=
    Action.context_ok_iff.mpr (stored_ok_iff.mpr ⟨hd.saveOrder, _, hsave, rfl⟩)
  have hbody : moveOrder id target d₀ = (.ok (o, after), d₁) := by
    unfold moveOrder
    rw [Action.bind_of_ok hlock, Action.bind_of_ok now_apply, hafter,
      Action.bind_of_ok Action.ofExcept_ok, Action.bind_of_ok hwrite]
    rfl
  have hworking := moveOrder_works id target
  obtain ⟨d', hrun⟩ := transaction_of_ok hworking hd.transaction hs h.atRest h.isOpen hbody
  obtain ⟨d₂, ts', hbody', hts, hs', hwrites⟩ :=
    transaction_commits (W := []) hworking hs h.atRest hrun
  have hd₂ : d₁ = d₂ := (Prod.mk.inj (hbody.symm.trans hbody')).2
  have hsame : ts = ts' := by
    rw [← hd₂] at hts
    exact congrArg Database.tables (Backend.embedded.inj hts)
  exact ⟨(o, after), d', ts, o', hrun, congrArg (fun t => t.2.2.1) hwrites.terms, hsame ▸ hs',
    hstands, hstatus⟩

theorem moveStored_refused (hs : d.store = .embedded db) (hd : Able d) (h : Stands db id o n)
    (hno : o.status.canMoveTo target = false) :
    ∃ d', moveStored id target d = (.failed (.cause (.invalidMove o.status target)), d') ∧
      d'.store = d.store := by
  let d₀ : Desk := { d with store := .embedded (inside db db.tables) }
  have hlock : (Store.onStore (Store.Orders.lock id) : Action Desk Order) d₀ = (.ok o, d₀) :=
    onStore_eq_iff.mpr ⟨_, Store.Orders.reads_iff.mpr ⟨h.isOpen, rfl, h.reads⟩, rfl⟩
  have hrefused : o.moveTo target d.clock.utc = .error (.cause (.invalidMove o.status target)) :=
    if_neg (by rw [hno]; exact Bool.false_ne_true)
  have hbody : moveOrder id target d₀ = (.failed (.cause (.invalidMove o.status target)), d₀) := by
    unfold moveOrder
    rw [Action.bind_of_ok hlock, Action.bind_of_ok now_apply, hrefused]
    exact Action.bind_of_failed Action.ofExcept_error
  have hworking := moveOrder_works id target
  obtain ⟨d', hrun⟩ := transaction_of_failed hd.transaction hs h.atRest h.isOpen hbody rfl
  have hundone := transaction_undone hworking hs h.atRest fun a ha => by
    rw [show (transaction (moveOrder id target) d).1 = _ from congrArg Prod.fst hrun] at ha
    cases ha
  rw [show transaction (moveOrder id target) d = _ from hrun] at hundone
  exact ⟨d', hrun, hundone⟩

/-- **A change of status that is allowed** goes well. -/
theorem changeStatus_goes (s : Scope) (hs : d.store = .embedded db) (hd : Able d)
    (h : Stands db id o (n + 1)) (hmove : o.status.canMoveTo target = true) :
    ∃ d' ts o', changeStatus s id target d = (.ok (), d') ∧
      d'.store = .embedded { db with tables := ts } ∧ Stands { db with tables := ts } id o' n ∧
      o'.status = target := by
  rcases hrun : changeStatus s id target d with ⟨out, d'⟩
  obtain ⟨s', t, t', d₃, hbody, rfl⟩ := inSpan_end hrun
  obtain ⟨moved, d₁, ts, o', hmoved, hout, hs₁, hstands⟩ :=
    moveStored_goes (d := { d with tracer := t }) hs ⟨hd.transaction, hd.saveOrder, hd.cache,
      hd.clock⟩ h hmove
  obtain ⟨d₂, hafter⟩ := afterMove_ok s' id moved.1 moved.2 (hd.cache.of_outages hout)
  have hwrites : Writes [OrderCache.key moved.2.id] d₁ d₂ :=
    (afterMove_writes s' id moved.1 moved.2 List.mem_cons_self).of_eq hafter
  rw [Action.bind_of_ok hmoved] at hbody
  obtain ⟨rfl, rfl⟩ := Prod.mk.inj (hafter.symm.trans hbody)
  exact ⟨_, ts, o', rfl, hwrites.store.trans hs₁, hstands⟩

/-- **A change of status that is not allowed** is refused, and leaves the store as it was. -/
theorem changeStatus_refused (s : Scope) (hs : d.store = .embedded db) (hd : Able d)
    (h : Stands db id o n) (hno : o.status.canMoveTo target = false) :
    ∃ d', changeStatus s id target d = (.failed (.cause (.invalidMove o.status target)), d') ∧
      d'.store = d.store := by
  rcases hrun : changeStatus s id target d with ⟨out, d'⟩
  obtain ⟨s', t, t', d₃, hbody, rfl⟩ := inSpan_end hrun
  obtain ⟨d₁, hmoved, hs₁⟩ :=
    moveStored_refused (d := { d with tracer := t }) hs ⟨hd.transaction, hd.saveOrder, hd.cache,
      hd.clock⟩ h hno
  rw [Action.bind_of_failed hmoved] at hbody
  obtain ⟨rfl, rfl⟩ := Prod.mk.inj hbody
  exact ⟨_, rfl, hs₁⟩

/-- a message on an order that is there is never to come back -/
theorem handlePayment_ends (s : Scope) {m : PaymentOutcome} (hm : m.target? = some target)
    (hs : d.store = .embedded db) (hd : Able d) (h : Stands db m.orderId o (n + 1)) :
    (handlePayment s m d).1 = .ok () ∧
      (handlePayment s m d).2.store = (changeStatus s m.orderId target d).2.store := by
  unfold handlePayment
  rw [hm]
  cases hmove : o.status.canMoveTo target with
  | true =>
    obtain ⟨d', -, -, hrun, -⟩ := changeStatus_goes s hs hd h hmove
    have hend : ∀ k, (changeStatus s m.orderId target).orElse k d = (.ok (), d') :=
      fun k => Action.orElse_ok_iff.mpr (.inl hrun)
    rw [hrun]
    exact ⟨congrArg Prod.fst (hend _), congrArg (fun p => p.2.store) (hend _)⟩
  | false =>
    obtain ⟨d', hrun, -⟩ := changeStatus_refused s hs hd h.less hmove
    have hdropped : worthRetrying (.cause (.invalidMove o.status target)) = false := rfl
    rw [hrun]
    show (Action.orElse _ _ d).1 = _ ∧ (Action.orElse _ _ d).2.store = _
    rw [Action.orElse_of_failed hrun, if_neg (by rw [hdropped]; exact Bool.false_ne_true)]
    exact ⟨rfl, rfl⟩

/-- The order stands, one time less, and what is highest from now on is highest with what was asked
for. -/
def Raised (db : Database) (id : Int) (o : Order) (n : Nat) (target? : Option Status)
    (b : Backend) : Prop :=
  ∃ ts o', b = .embedded { db with tables := ts } ∧ Stands { db with tables := ts } id o' n ∧
    o'.status.Live ∧ ∀ s ss, Status.Highest s (o'.status.candidates ss) →
      s.Highest (o.status.candidates (target?.toList ++ ss))

theorem changeStatus_raises (s : Scope) (hs : d.store = .embedded db) (hd : Able d)
    (h : Stands db id o (n + 1)) (hlive : o.status.Live) :
    Raised db id o n (some target) (changeStatus s id target d).2.store := by
  cases hmove : o.status.canMoveTo target with
  | true =>
    obtain ⟨d', ts, o', hrun, hs', hstands, rfl⟩ := changeStatus_goes s hs hd h hmove
    rw [hrun]
    exact ⟨ts, o', hs', hstands, Status.live_of_canMoveTo hmove,
      fun _ _ hhigh => hhigh.of_move hlive hmove⟩
  | false =>
    obtain ⟨d', hrun, hs'⟩ := changeStatus_refused s hs hd h.less hmove
    rw [hrun]
    exact ⟨db.tables, o, hs'.trans hs, h.less, hlive, fun _ _ hhigh => hhigh.of_stay hlive hmove⟩

/-- **One request** moves the order up or leaves it where it is. -/
theorem request_raises {r : Request} (hr : AsksFor id r) (hs : d.store = .embedded db) (hd : Able d)
    (h : Stands db id o (n + 1)) (hlive : o.status.Live) :
    Raised db id o n r.asked? (r.perform d).2.store := by
  cases hr with
  | change s target => exact changeStatus_raises s hs hd h hlive
  | payment s m hm =>
    subst hm
    have hasked : (Request.change (.payment s m)).asked? = m.target? := by
      cases htarget : m.target? <;> simp [Request.asked?, Request.move?, htarget]
    rw [hasked]
    cases htarget : m.target? with
    | some target =>
      have hstore := (handlePayment_ends s htarget hs hd h).2
      rw [show ((Request.change (.payment s m)).perform d).2.store = _ from hstore]
      exact changeStatus_raises s hs hd h hlive
    | none =>
      have hstore : (handlePayment s m d).2.store = d.store := by
        unfold handlePayment
        rw [htarget]
        rfl
      exact ⟨db.tables, o, hstore.trans hs, h.less, hlive, fun _ _ hhigh => hhigh⟩

theorem payment_ends (s : Scope) (m : PaymentOutcome) (hs : d.store = .embedded db) (hd : Able d)
    (h : Stands db m.orderId o (n + 1)) : (handlePayment s m d).1 = .ok () := by
  cases htarget : m.target? with
  | some target => exact (handlePayment_ends s htarget hs hd h).1
  | none =>
    unfold handlePayment
    rw [htarget]
    rfl

end

/-! ## runs -/

section
variable {db : Database} {id : Int} {o : Order} {n : Nat} {calls : List (Desk × Request)}

/-- **A run of requests**, by induction on the calls. -/
theorem requests_end (h : Stands db id o (calls.length + n)) (hlive : o.status.Live)
    (hcalls : ∀ c ∈ calls, Able c.1 ∧ AsksFor id c.2) :
    ∃ db' o', after (.embedded db) calls = .embedded db' ∧ Stands db' id o' n ∧
      o'.status.Highest (o.status.candidates (asked calls)) := by
  induction calls generalizing db o with
  | nil =>
    refine ⟨db, o, rfl, by simpa using h, List.mem_cons_self, fun t ht => ?_⟩
    rw [List.mem_singleton.mp ht]
  | cons c calls ih =>
    obtain ⟨d, r⟩ := c
    obtain ⟨hd, hr⟩ := hcalls (d, r) List.mem_cons_self
    have h : Stands db id o (calls.length + n + 1) := by
      rw [List.length_cons, Nat.add_right_comm] at h
      exact h
    have hable : Able { d with store := .embedded db } :=
      ⟨hd.transaction, hd.saveOrder, hd.cache, hd.clock⟩
    obtain ⟨ts, o₁, hs₁, hstands, hlive₁, hstep⟩ := request_raises hr rfl hable h hlive
    obtain ⟨db', o', hrun, hstands', hhigh⟩ :=
      ih hstands hlive₁ fun x hx => hcalls x (List.mem_cons_of_mem _ hx)
    have hasked : asked ((d, r) :: calls) = r.asked?.toList ++ asked calls := by
      unfold asked
      cases h : r.asked? <;> simp [h]
    refine ⟨db', o', ?_, hstands', ?_⟩
    · show after (callAt (.embedded db) (d, r)).2.store calls = _
      rw [show (callAt (.embedded db) (d, r)).2.store = _ from hs₁]
      exact hrun
    · rw [hasked]
      exact hstep _ _ hhigh

/-- **Status requests converge.** While what a move needs works, a run of requests for an order that
is pending, confirmed or cancelled leaves it in the highest status of its own and those asked for
that are confirmed or cancelled. Every run that asks for the same statuses, in whatever order and
however often, leaves it there, and every message of the run is done with. -/
theorem status_requests_converge (h : Stands db id o calls.length) (hlive : o.status.Live)
    (hcalls : ∀ c ∈ calls, Able c.1 ∧ AsksFor id c.2) :
    ∃ db' final, after (.embedded db) calls = .embedded db' ∧ db'.tables.Reads id final ∧
      final.status.Highest (o.status.candidates (asked calls)) ∧
      (∀ calls', Stands db id o calls'.length → (∀ c ∈ calls', Able c.1 ∧ AsksFor id c.2) →
        (∀ t, t ∈ asked calls ↔ t ∈ asked calls') →
        ∃ db'' final', after (.embedded db) calls' = .embedded db'' ∧
          db''.tables.Reads id final' ∧ final'.status = final.status) ∧
      ∀ earlier d s m later, calls = earlier ++ (d, .change (.payment s m)) :: later →
        (handlePayment s m { d with store := after (.embedded db) earlier }).1 = .ok () := by
  obtain ⟨db', final, hrun, hstands, hhigh⟩ := requests_end (n := 0) h hlive hcalls
  refine ⟨db', final, hrun, hstands.reads, hhigh, fun calls' h' hcalls' hsame => ?_, ?_⟩
  · obtain ⟨db'', final', hrun', hstands', hhigh'⟩ := requests_end (n := 0) h' hlive hcalls'
    exact ⟨db'', final', hrun', hstands'.reads, hhigh.unique hlive hhigh' hsame⟩
  · rintro earlier d s m later rfl
    obtain ⟨hd, hr⟩ := hcalls (d, .change (.payment s m)) (by simp)
    have hlength : (earlier ++ (d, Request.change (.payment s m)) :: later).length
        = earlier.length + (later.length + 1) := by
      rw [List.length_append, List.length_cons]
    rw [hlength] at h
    obtain ⟨db₁, o₁, hrun₁, hstands₁, -⟩ :=
      requests_end h hlive fun c hc => hcalls c (List.mem_append_left _ hc)
    obtain rfl : m.orderId = id := by
      cases hr with
      | payment _ _ hm => exact hm
    exact payment_ends s m (d := { d with store := after (.embedded db) earlier }) hrun₁
      ⟨hd.transaction, hd.saveOrder, hd.cache, hd.clock⟩ hstands₁

end

/-! ## an order that is paid and cancelled -/

/-- three of five units are sold, and not paid yet -/
def soldOnCredit : List (Desk × Request) :=
  putUp ++ [(shopWith {} {}, .change (.createOrder scope { items := [⟨1, 3⟩] }))]

/-- a message that cancels, a caller who confirms and is refused, and a message that comes late -/
def cancelThenPay : List (Desk × Request) :=
  [(shopWith {} {}, .change (.payment scope ⟨1, "Failed"⟩)),
    (shopWith {} {}, .change (.changeStatus scope 1 .confirmed)),
    (shopWith {} {}, .change (.payment scope ⟨1, "success"⟩))]

/-- the same in another order, with the cancellation twice and an unknown outcome -/
def payThenCancel : List (Desk × Request) :=
  [(shopWith {} {}, .change (.payment scope ⟨1, "success"⟩)),
    (shopWith {} {}, .change (.payment scope ⟨1, "unheard of"⟩)),
    (shopWith {} {}, .change (.payment scope ⟨1, "Failed"⟩)),
    (shopWith {} {}, .change (.payment scope ⟨1, "Failed"⟩))]

theorem soldOnCredit_stands : ∃ db o, after Store.fresh soldOnCredit = .embedded db ∧
    o.status = .pending ∧ ∀ n : Nat, n ≤ 9 → Stands db 1 o n := by
  obtain ⟨db, hafter, hready⟩ := ready_after soldOnCredit
  have hread : ((Store.Orders.get 1).value? (after Store.fresh soldOnCredit)).map
      (fun o => (o.status, o.items.length)) = some (.pending, 1) := by decide +kernel
  have hcounter : (tablesOf (after Store.fresh soldOnCredit)).items.map (·.nextId) = some 2 := by
    decide +kernel
  rw [hafter] at hread hcounter
  obtain ⟨o, ho, hsame⟩ := Option.map_eq_some_iff.mp hread
  obtain ⟨hstatus, hlength⟩ := Prod.mk.inj hsame
  have hreads := (Store.Orders.reads_iff.mp (Action.ok_of_value? ho)).2.2
  refine ⟨db, o, hafter, hstatus, fun n hn => hready.stands hreads fun lines hlines => ?_⟩
  have hnext : lines.nextId = 2 := by
    have hcounter : db.tables.items.map (·.nextId) = some 2 := hcounter
    rw [hlines] at hcounter
    exact Option.some.inj hcounter
  rw [hnext, hlength]
  omega

theorem shop_able : Able (shopWith {} {}) :=
  ⟨rfl, rfl, steady_of_no_outage rfl, by decide⟩

/-- whichever comes first, the order ends cancelled, and the message that comes late is dropped -/
theorem paid_and_cancelled : ∃ db, after Store.fresh soldOnCredit = .embedded db ∧
    (∃ db' final, after (.embedded db) cancelThenPay = .embedded db' ∧
      db'.tables.Reads 1 final ∧ final.status = .cancelled) ∧
    (∃ db' final, after (.embedded db) payThenCancel = .embedded db' ∧
      db'.tables.Reads 1 final ∧ final.status = .cancelled) ∧
    (handlePayment scope ⟨1, "success"⟩ { shopWith {} {} with
      store := after (.embedded db) (cancelThenPay.take 2) }).1 = .ok () := by
  have hasked : asked cancelThenPay = [.cancelled, .confirmed, .confirmed] := by decide +kernel
  have hasked' : asked payThenCancel = [.confirmed, .cancelled, .cancelled] := by decide +kernel
  have hboth : ∀ t, t ∈ asked cancelThenPay ↔ t ∈ asked payThenCancel := by
    intro t
    rw [hasked, hasked']
    simp only [List.mem_cons, List.not_mem_nil, or_false]
    tauto
  have hcalls : ∀ c ∈ cancelThenPay, Able c.1 ∧ AsksFor 1 c.2 := by
    simp only [cancelThenPay, List.forall_mem_cons]
    exact ⟨⟨shop_able, .payment _ _ rfl⟩, ⟨shop_able, .change _ _⟩, ⟨shop_able, .payment _ _ rfl⟩,
      fun _ h => nomatch h⟩
  have hcalls' : ∀ c ∈ payThenCancel, Able c.1 ∧ AsksFor 1 c.2 := by
    simp only [payThenCancel, List.forall_mem_cons]
    exact ⟨⟨shop_able, .payment _ _ rfl⟩, ⟨shop_able, .payment _ _ rfl⟩,
      ⟨shop_able, .payment _ _ rfl⟩, ⟨shop_able, .payment _ _ rfl⟩, fun _ h => nomatch h⟩
  obtain ⟨db, o, hafter, hstatus, hstands⟩ := soldOnCredit_stands
  obtain ⟨db', final, hrun, hread, hhigh, hsame, hmessages⟩ :=
    status_requests_converge (hstands 3 (by decide)) (.inl hstatus) hcalls
  obtain ⟨db'', final', hrun', hread', heq⟩ :=
    hsame payThenCancel (hstands 4 (by decide)) hcalls' hboth
  have hlate := hmessages (cancelThenPay.take 2) (shopWith {} {}) scope ⟨1, "success"⟩ [] rfl
  have hcancelled : final.status = .cancelled := by
    have hfinal := hhigh.mem
    have hle := hhigh.above .cancelled (by rw [hasked, hstatus]; decide)
    rw [hasked] at hfinal
    have hcases : final.status = .pending ∨ final.status = .cancelled ∨
        final.status = .confirmed := by
      simpa [Status.candidates, Status.Settled, hstatus] using hfinal
    rcases hcases with h | h | h
    · rw [h] at hle
      exact absurd hle (by decide)
    · exact h
    · rw [h] at hle
      exact absurd hle (by decide)
  exact ⟨db, hafter, ⟨db', final, hrun, hread, hcancelled⟩,
    ⟨db'', final', hrun', hread', heq.trans hcancelled⟩, hlate⟩

end Desk

end OrderDesk
