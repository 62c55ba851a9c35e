import OrderDesk.Proofs.Desk.Reading

/-!
# The journal of announcements

A broker that accepts everything holds a journal of the orders: each committed order once, with what
was stored of it, and for each order its moves, one from where the one before led to.

* `Ledger`                a store and a broker, and the runs on them;
* `Announces`             a message says what was stored of an order that was asked for;
* `Chain`                 moves, each from where the one before led to, and to somewhere else;
* `Traced`                the moves of an order lead to the status that it has;
* `Does.announced`, `Does.traced`      what one change adds to the journal;
* `Ledger.Kept.call`      one call of a run;
* `journal_faithful`      the whole journal of a run from a store without orders.
-/

namespace OrderDesk.Desk

open Event (Notice Broker)
open Store (Backend Database Tables Table HasId OrderRow ItemRow Booked)

/-! ## runs on a store and a broker -/

/-- What the calls of a run share: the store, and the broker. -/
structure Ledger where
  store : Backend
  broker : Broker

/-- An order that a call committed: the request, the tables after the call, and the row. -/
structure Committed where
  request : Request
  tables : Tables
  row : OrderRow

namespace Ledger

/-- the desk of a call, with the store and the broker of the run -/
def desk (l : Ledger) (d : Desk) : Desk := { d with store := l.store, broker := some l.broker }

def next (l : Ledger) (c : Desk × Request) : Ledger :=
  ⟨(c.2.perform (l.desk c.1)).2.store, (c.2.perform (l.desk c.1)).2.broker.getD l.broker⟩

def after (l : Ledger) (calls : List (Desk × Request)) : Ledger := calls.foldl next l

def committedBy (l : Ledger) (c : Desk × Request) : List Committed :=
  (created (tablesOf l.store) (tablesOf (l.next c).store)).map
    (Committed.mk c.2 (tablesOf (l.next c).store))

/-- the orders that a run committed -/
def committed (l : Ledger) : List (Desk × Request) → List Committed
  | [] => []
  | c :: cs => l.committedBy c ++ (l.next c).committed cs

end Ledger

/-! ## what the journal says -/

def messageLine (l : Line) : CreatedItem := ⟨l.productId, l.quantity⟩

theorem messageLines_of_alike {ls ls' : List Line} (h : List.Forall₂ Line.Alike ls ls') :
    ls'.map messageLine = ls.map messageLine := by
  induction h with
  | nil => rfl
  | cons hl _ ih =>
    rw [List.map_cons, List.map_cons, ih, messageLine, messageLine, hl.productId, hl.quantity]

theorem messageLines_of_priced {t : Table Store.ProductRow} {items : List ItemRequest}
    {ls : List Line} (h : List.Forall₂ (Priced t) items ls) :
    ls.map messageLine = items.map fun it => ⟨it.productId, it.quantity⟩ := by
  induction h with
  | nil => rfl
  | cons hl _ ih => rw [List.map_cons, List.map_cons, ih, messageLine, hl.productId, hl.quantity]

/-- A message on a committed order: its id, its number, its total with two decimals, and the lines
that are stored of it, by their numbers, which are those that were asked for. -/
structure Announces (c : Committed) (m : Created) : Prop where
  id : m.orderId = c.row.id
  number : c.row.number = some m.number
  total : ∃ total : Decimal, (Store.Cell.text c.row.total).amount? = some total ∧
    m.total = total.fixed
  lines : ∃ lines ls, c.tables.items = some lines ∧
    List.Forall₂ (fun r l => ItemRow.line? r = some l)
      ((Store.linesOf lines c.row.id).mergeSort ItemRow.before) ls ∧
    m.items = some (ls.map messageLine)
  asked : ∃ s q, c.request = .change (.createOrder s q) ∧
    m.items = some (q.items.map fun it => ⟨it.productId, it.quantity⟩)

/-- Moves from a status to another: each is from where the one before led to, and leads elsewhere. -/
inductive Chain : String → List StatusChanged → String → Prop
  | nil (s : String) : Chain s [] s
  | cons {m : StatusChanged} {ms : List StatusChanged} {final : String}
      (hne : m.source ≠ m.target) (h : Chain m.target ms final) : Chain m.source (m :: ms) final

theorem Chain.concat {start final : String} {ms : List StatusChanged} {m : StatusChanged}
    (h : Chain start ms final) (hsource : m.source = final) (hne : m.source ≠ m.target) :
    Chain start (ms ++ [m]) m.target := by
  induction h with
  | nil s =>
    rw [← hsource]
    exact .cons hne (.nil _)
  | cons hne' _ ih => exact .cons hne' (ih hsource)

def creations (ns : List Notice) : List Created := ns.filterMap Notice.created?

/-- the announcements of the moves of an order -/
def moves (id : Int) (ns : List Notice) : List StatusChanged := ns.filterMap (Notice.move? id)

theorem creations_append (ns ms : List Notice) : creations (ns ++ ms) = creations ns ++ creations ms :=
  List.filterMap_append

theorem moves_append (id : Int) (ns ms : List Notice) :
    moves id (ns ++ ms) = moves id ns ++ moves id ms := List.filterMap_append

section
variable {id : Int} {before after : Order}

theorem creations_moveNotices : creations (moveNotices id before after) = [] := by
  unfold moveNotices
  split <;> rfl

theorem moves_moveNotices_ne {j : Int} (hne : j ≠ id) : moves j (moveNotices id before after) = [] := by
  unfold moveNotices
  split
  · rfl
  · have hother : ¬ id = j := Ne.symm hne
    simp [moves, Notice.move?, hother]

theorem moves_moveNotices : moves id (moveNotices id before after)
    = if before.status.name = after.status.name then []
      else [⟨id, before.status.name, after.status.name⟩] := by
  unfold moveNotices
  split
  · rfl
  · simp [moves, Notice.move?]

end

/-- The moves of an order lead from the first status to the one that it has, and there are none
before it is there. -/
structure Traced (ts : Tables) (ns : List Notice) (id : Int) : Prop where
  chain : ∃ final, Chain Status.pending.name (moves id ns) final ∧
    ∀ book row, ts.orders = some book → book.get? id = some row → row.status = final
  fresh : ¬ Issued ts id → moves id ns = []

/-! ## what one change adds -/

section
variable {limit : Decimal} {now : Stamp} {ts ts' : Tables} {r : Request} {c : Change} {o : Order}
  {ns ms : List Notice} {id : Int}

theorem Does.announces (hkept : ts.Kept limit) (h : Does limit now ts r (.placed o) ts') :
    ∃ row, Desk.created ts ts' = [row] ∧ Announces ⟨r, ts', row⟩ o.created := by
  cases h with
  | @placed s q _ _ _ book lines _ _ hbook hlines hw hplaced =>
    obtain ⟨book₁, lines₁, hbook₁, hlines₁, hbooked⟩ := hkept.orders
    obtain rfl : book = book₁ := Option.some.inj (hbook.symm.trans hbook₁)
    obtain rfl : lines = lines₁ := Option.some.inj (hlines.symm.trans hlines₁)
    obtain ⟨hid, hnumber, -⟩ := hplaced.fields
    have hnone : Store.linesOf lines book.nextId = [] :=
      hbooked.linesOf_eq_nil fun row hrow => Int.ne_of_lt (Table.id_lt_nextId hrow)
    refine ⟨OrderRow.ofNew o book.nextId, created_row hbook, hid, ?_, ?_, ?_, s, q, rfl, ?_⟩
    · show Store.Orders.storedNumber o.number = some o.number
      rw [hnumber]
      exact Store.storedNumber_eq (orderNumber_ne _)
    · obtain ⟨total, htotal, hval, -⟩ := Store.amount?_text hplaced.storable.total
      exact ⟨total, htotal, (Decimal.fixed_congr hval).symm⟩
    · obtain ⟨ls, halike, hread⟩ :=
        Store.Orders.lineRows_read book.nextId hplaced.storable.prices 0 lines.nextId
      refine ⟨_, ls, rfl, ?_, congrArg some ?_⟩
      · show List.Forall₂ _ ((Store.linesOf (Store.appendLines book.nextId 0 lines o.items)
          book.nextId).mergeSort ItemRow.before) ls
        rw [Store.linesOf_appendLines, hnone, List.nil_append,
          List.mergeSort_of_pairwise (Store.lineRows_sorted book.nextId 0 lines.nextId o.items)]
        exact hread
      · exact messageLines_of_alike halike
    · exact congrArg some (messageLines_of_priced hplaced.priced)

/-- **The new orders that a change is announced with** are those that it committed. -/
theorem Does.announced (hkept : ts.Kept limit) (h : Does limit now ts r c ts')
    (ht : Tells ts c ms) :
    List.Forall₂ Announces ((Desk.created ts ts').map (Committed.mk r ts')) (creations ms) := by
  cases c with
  | placed o =>
    obtain ⟨row, hrow, hsaid⟩ := h.announces hkept
    rw [hrow, show ms = [.created o.created] from ht]
    exact .cons hsaid .nil
  | moved o =>
    obtain ⟨target, before, -, hread, -⟩ := h.moved_from
    rw [h.created_eq_nil fun _ => nofun, ht before hread, creations_moveNotices]
    exact .nil
  | idle | erased | catalog =>
    rw [h.created_eq_nil fun _ => nofun, show ms = [] from ht]
    exact .nil

theorem Does.moves_ne (h : Does limit now ts r c ts') (ht : Tells ts c ms)
    (hne : c.order? ≠ some id) : moves id ms = [] := by
  cases c with
  | placed o =>
    rw [show ms = [.created o.created] from ht]
    rfl
  | moved o =>
    obtain ⟨target, before, -, hread, -⟩ := h.moved_from
    rw [ht before hread]
    exact moves_moveNotices_ne fun he => hne (congrArg some he.symm)
  | idle | erased | catalog =>
    rw [show ms = [] from ht]
    rfl

theorem Does.placed_row (h : Does limit now ts r (.placed o) ts') : ∃ book' row',
    ts'.orders = some book' ∧ book'.get? o.id = some row' ∧ row'.status = Status.pending.name := by
  cases h with
  | @placed _ _ _ _ _ book _ _ _ hbook _ _ hplaced =>
    obtain ⟨hid, -, hstatus, -⟩ := hplaced.fields
    have hget : (book.insert (OrderRow.ofNew o)).get? book.nextId
        = some (OrderRow.ofNew o book.nextId) := Table.get?_insert_new rfl
    rw [hid]
    exact ⟨_, _, rfl, hget, congrArg Status.name hstatus⟩

/-- the row of an order that was moved has the status that it was moved to, and had the one that it
was moved from -/
theorem Does.moved_row (h : Does limit now ts r (.moved o) ts') : ∃ before book row book' row',
    ts.Reads o.id before ∧ ts.orders = some book ∧ book.get? o.id = some row ∧
      row.status = before.status.name ∧ ts'.orders = some book' ∧ book'.get? o.id = some row' ∧
      row'.status = o.status.name := by
  cases h with
  | @moved _ _ target book lines before _ _ hbook hlines hread hmove =>
    have hid : before.id = o.id := (moveTo_id hmove).symm
    have hread : ts.Reads o.id before := by
      rw [← hid, hread.id_eq]
      exact hread
    obtain ⟨book₁, _, row, o₀, ls, hbook₁, -, hget, ho, -, hbefore⟩ := id hread
    obtain rfl : book = book₁ := Option.some.inj (hbook.symm.trans hbook₁)
    obtain ⟨-, -, hstatus, -⟩ := OrderRow.order?_eq_some_iff.mp ho
    have hkeep : ∀ row, HasId.id (OrderRow.update o row) = HasId.id row := fun _ => rfl
    have hget' : (book.update o.id (OrderRow.update o)).get? o.id = some (OrderRow.update o row) := by
      rw [Table.get?_update hkeep, if_pos rfl, hget]
      rfl
    refine ⟨before, book, row, _, _, hread, hbook, hget, ?_, rfl, hget', rfl⟩
    rw [hbefore]
    exact hstatus.symm

/-- nothing is added to the moves of an order, and its row is as it was, or is not there -/
theorem Traced.same {book book' : Table OrderRow} (htraced : Traced ts ns id)
    (hnone : moves id ms = []) (hissued : Issued ts id → Issued ts' id)
    (hbook : ts.orders = some book) (hbook' : ts'.orders = some book')
    (hrow : ∀ row, book'.get? id = some row → book.get? id = some row) : Traced ts' (ns ++ ms) id := by
  obtain ⟨final, hchain, hfinal⟩ := htraced.chain
  have hmoves : moves id (ns ++ ms) = moves id ns := by
    rw [moves_append, hnone, List.append_nil]
  refine ⟨⟨final, hmoves.symm ▸ hchain, fun b row hb hget => ?_⟩, fun hnew => ?_⟩
  · obtain rfl : book' = b := Option.some.inj (hbook'.symm.trans hb)
    exact hfinal book row hbook (hrow row hget)
  · rw [hmoves]
    exact htraced.fresh fun hold => hnew (hissued hold)

/-- **What a change adds to the moves of an order** leads to the status that it has then. -/
theorem Does.traced (h : Does limit now ts r c ts') (ht : Tells ts c ms)
    (hkept : ts.Kept limit) (hcounted : Counted ts) (htraced : Traced ts ns id) :
    Traced ts' (ns ++ ms) id := by
  obtain ⟨book, -, hbook, -⟩ := hkept.orders
  -- only a change of this order adds to its moves, and only a move does
  by_cases hne : c.order? = some id
  · cases c with
    | placed o =>
      obtain rfl : o.id = id := Option.some.inj hne
      obtain ⟨hnew, hissued⟩ := h.fresh
      obtain ⟨book', row', hbook', hget', hstatus⟩ := h.placed_row
      have hnone : moves o.id (ns ++ ms) = [] := by
        rw [moves_append, htraced.fresh hnew, show ms = [.created o.created] from ht]
        rfl
      refine ⟨⟨Status.pending.name, hnone.symm ▸ .nil _, fun b row hb hget => ?_⟩,
        fun hno => absurd hissued hno⟩
      obtain rfl : book' = b := Option.some.inj (hbook'.symm.trans hb)
      obtain rfl : row' = row := Option.some.inj (hget'.symm.trans hget)
      exact hstatus
    | moved o =>
      obtain rfl : o.id = id := Option.some.inj hne
      obtain ⟨before, book, row, book', row', hread, hbook, hget, hsource, hbook', hget', htarget⟩ :=
        h.moved_row
      obtain ⟨final, hchain, hfinal⟩ := htraced.chain
      have hbefore : before.status.name = final := hsource.symm.trans (hfinal book row hbook hget)
      refine ⟨⟨o.status.name, ?_, fun b x hb hx => ?_⟩, fun hno => ?_⟩
      · rw [moves_append, ht before hread, moves_moveNotices]
        -- a confirmed order that is confirmed again is written, and not announced
        by_cases hsame : before.status.name = o.status.name
        · rw [if_pos hsame, List.append_nil, ← hsame, hbefore]
          exact hchain
        · rw [if_neg hsame]
          exact hchain.concat hbefore hsame
      · obtain rfl : book' = b := Option.some.inj (hbook'.symm.trans hb)
        obtain rfl : row' = x := Option.some.inj (hget'.symm.trans hx)
        exact htarget
      · exact absurd (h.issued (issued_of_reads hcounted hread)) hno
    | erased j =>
      obtain rfl : j = id := Option.some.inj hne
      obtain ⟨book', hbook', hgone⟩ := h.lacks_erased
      refine htraced.same ?_ h.issued hbook hbook' fun row hrow => ?_
      · rw [show ms = [] from ht]
        rfl
      · rw [hgone] at hrow
        cases hrow
    | idle | catalog => cases hne
  · obtain ⟨book', hbook', hsame⟩ := h.order_ne hne hbook
    exact htraced.same (h.moves_ne ht hne) h.issued hbook hbook' fun row hrow => hsame ▸ hrow

theorem Does.move?_isSome (h : Does limit now ts r (.moved o) ts') : r.move?.isSome := by
  cases h with
  | moved hr => exact Option.isSome_of_eq_some hr

/-- a creation that leaves the tables as they were is not announced -/
theorem Does.silent {s : Scope} {q : OrderRequest} (hkept : ts.Kept limit)
    (h : Does limit now ts (.change (.createOrder s q)) c ts) (ht : Tells ts c ms) : ms = [] := by
  cases c with
  | placed o =>
    obtain ⟨row, hrow, -⟩ := h.announces hkept
    rw [created_self rfl] at hrow
    cases hrow
  | moved o => exact absurd h.move?_isSome Bool.false_ne_true
  | idle | erased | catalog => exact ht

end

/-! ## runs -/

/-- A ledger after the announcements `ns`, which a broker `b` took: an engine at rest with sound
orders, whose moves are traced. -/
structure Ledger.Kept (t : Event.Topology) (b : Broker) (ns : List Notice) (l : Ledger) : Prop where
  engine : ∃ limit db, l.store = .embedded db ∧ db.saved = none ∧ db.tables.Kept limit ∧
    Counted db.tables ∧ ∀ id, Traced db.tables ns id
  broker : l.broker = b.noting t ns

/-- A call whose cache and memory of keys do not panic, and that announces where the others do. -/
structure Fluent (t : Event.Topology) (d : Desk) : Prop where
  steady : Steady [.cacheSet, .remember] d
  topology : d.policy.topology = t

section
variable {t : Event.Topology} {b : Broker} {ns : List Notice} {l : Ledger}

/-- **One call** adds to the journal what it committed, and the moves that it made. -/
theorem Ledger.Kept.call (h : l.Kept t b ns) (hb : b.manner = .confirms) {c : Desk × Request}
    (hc : Fluent t c.1) : ∃ ms, (l.next c).Kept t b (ns ++ ms) ∧
      List.Forall₂ Announces (l.committedBy c) (creations ms) ∧
      ∀ s q, c.2 = .change (.createOrder s q) → (l.next c).store = l.store → ms = [] := by
  obtain ⟨d, r⟩ := c
  obtain ⟨limit, db, hs, hrest, hkept, hcounted, htraced⟩ := h.engine
  have hs₀ : (l.desk d).store = .embedded db := hs
  have hheard : Heard (l.desk d) l.broker := by
    refine ⟨rfl, ?_, hc.steady⟩
    rw [h.broker]
    exact hb
  obtain ⟨change, limit', ts, hle, hdeed, hdoes, hs'⟩ := r.does hs₀ hrest hkept
  obtain ⟨ms, htells, hbroker⟩ := hdeed.told l.broker db hheard hs₀
  have hkept' : db.tables.Kept limit' := hkept.mono hle
  have hstore : (l.next (d, r)).store = .embedded { db with tables := ts } := hs'
  have hnoted : (l.next (d, r)).broker = l.broker.noting t ms := by
    show (r.perform (l.desk d)).2.broker.getD l.broker = _
    rw [hbroker, ← hc.topology]
    rfl
  refine ⟨ms, ⟨⟨limit', _, hstore, hrest, hdoes.kept hkept', hdoes.counted hcounted, fun id =>
    hdoes.traced htells hkept' hcounted (htraced id)⟩, ?_⟩, ?_, fun s q hr hsame => ?_⟩
  · rw [hnoted, h.broker, Event.Broker.noting_append]
  · have hcommitted : l.committedBy (d, r)
        = (created db.tables ts).map (Committed.mk r ts) := by
      unfold committedBy
      rw [hstore, hs]
      rfl
    rw [hcommitted]
    exact hdoes.announced hkept' htells
  · rw [hstore, hs] at hsame
    have hts : ts = db.tables := congrArg Database.tables (Backend.embedded.inj hsame)
    have hr : r = .change (.createOrder s q) := hr
    subst hr
    rw [hts] at hdoes
    exact hdoes.silent hkept' htells

/-- **A run**, by induction on its calls. -/
theorem Ledger.Kept.run (h : l.Kept t b ns) (hb : b.manner = .confirms)
    {calls : List (Desk × Request)} (hcalls : ∀ c ∈ calls, Fluent t c.1) :
    ∃ ms, (l.after calls).Kept t b (ns ++ ms) ∧
      List.Forall₂ Announces (l.committed calls) (creations ms) := by
  induction calls generalizing l ns with
  | nil => exact ⟨[], by rw [List.append_nil]; exact h, .nil⟩
  | cons c calls ih =>
    obtain ⟨ms, hnext, hannounced, -⟩ := h.call hb (hcalls c List.mem_cons_self)
    obtain ⟨ms', hafter, hrest⟩ := ih hnext fun x hx => hcalls x (List.mem_cons_of_mem _ hx)
    refine ⟨ms ++ ms', ?_, ?_⟩
    · rw [← List.append_assoc]
      exact hafter
    · rw [creations_append]
      exact List.rel_append hannounced hrest

theorem Ledger.barren_store {db : Database} (hs : l.store = .embedded db) (hr : db.saved = none)
    {d : Desk} {s : Scope} {q : OrderRequest}
    (h : Barren (l.desk d) (.change (.createOrder s q))) :
    (l.next (d, .change (.createOrder s q))).store = l.store := by
  have hs₀ : (l.desk d).store = .embedded db := hs
  show (quietly (createOrder s q) (l.desk d)).2.store = _
  rw [quietly_state]
  rcases h with ⟨f, hfail⟩ | hreplayed
  · exact congrArg Prod.fst (createOrder_failed hs₀ hr (Prod.ext hfail rfl))
  · exact createOrder_replayed hs₀ hreplayed

/-- An engine at rest without orders, whatever its products are. -/
structure Bare (db : Database) : Prop where
  atRest : db.saved = none
  products : ∀ t, db.tables.products = some t → t.Keyed
  orders : ∃ book lines, db.tables.orders = some book ∧ db.tables.items = some lines ∧
    book.rows = [] ∧ lines.rows = [] ∧ 0 ≤ book.lastId

theorem Bare.kept {db : Database} (h : Bare db) (hs : l.store = .embedded db) :
    l.Kept t l.broker [] := by
  obtain ⟨book, lines, hbook, hlines, hrows, hlineRows, hcounter⟩ := h.orders
  have hbooked : Booked .zero book lines := .of_no_rows hrows hlineRows hcounter
  refine ⟨⟨.zero, db, hs, h.atRest, ⟨h.products, book, lines, hbook, hlines, hbooked⟩,
    fun book' hbook' r hr => ?_, fun id => ⟨⟨_, .nil _, fun book' row hbook' hget => ?_⟩,
      fun _ => rfl⟩⟩, Event.Broker.noting_nil.symm⟩
  · obtain rfl := Option.some.inj (hbook.symm.trans hbook')
    rw [hrows] at hr
    cases hr
  · obtain rfl := Option.some.inj (hbook.symm.trans hbook')
    have hmem := (Table.get?_some hget).1
    rw [hrows] at hmem
    cases hmem

/-- **The journal is faithful.** Any calls, from a store without orders and with a broker that
accepts everything, are announced so: each committed order once, in order, with what was stored of
it; and for every order its moves, one from where the one before led to, from pending to the status
that the order has as long as it is there. A creation that fails or was made before is not
announced. -/
theorem journal_faithful {db : Database} {calls : List (Desk × Request)}
    (hs : l.store = .embedded db) (hstart : Bare db) (hb : l.broker.manner = .confirms)
    (hcalls : ∀ c ∈ calls, Fluent t c.1) :
    (∃ ns, (l.after calls).broker.published = l.broker.published ++ ns.map (·.publication t) ∧
      List.Forall₂ Announces (l.committed calls) (creations ns) ∧
      ∀ id, ∃ final, Chain Status.pending.name (moves id ns) final ∧
        ∀ book row, (tablesOf (l.after calls).store).orders = some book →
          book.get? id = some row → row.status = final) ∧
    ∀ earlier d s q later, calls = earlier ++ (d, .change (.createOrder s q)) :: later →
      Barren ((l.after earlier).desk d) (.change (.createOrder s q)) →
      ((l.after earlier).next (d, .change (.createOrder s q))).broker = (l.after earlier).broker := by
  have hkept : l.Kept t l.broker [] := hstart.kept hs
  constructor
  · obtain ⟨ns, hafter, hannounced⟩ := hkept.run hb hcalls
    obtain ⟨limit, db', hs', -, -, -, htraced⟩ := hafter.engine
    refine ⟨ns, ?_, hannounced, fun id => ?_⟩
    · rw [hafter.broker]
      rfl
    · rw [hs']
      exact (htraced id).chain
  · rintro earlier d s q later rfl hbarren
    have hd : Fluent t d := hcalls (d, .change (.createOrder s q)) (by simp)
    obtain ⟨ns, hbefore, -⟩ := hkept.run hb fun c hc => hcalls c (List.mem_append_left _ hc)
    obtain ⟨limit, db', hs', hrest', -⟩ := hbefore.engine
    obtain ⟨ms, hnext, -, hsilent⟩ := hbefore.call hb (c := (d, .change (.createOrder s q))) hd
    have hnone : ms = [] := hsilent s q rfl (Ledger.barren_store hs' hrest' hbarren)
    rw [hnext.broker, hbefore.broker, hnone, List.append_nil]

end

/-! ## a small journal -/

def newLedger : Ledger := ⟨Store.fresh, {}⟩

def threeOfOne : OrderRequest := { items := [⟨1, 3⟩] }

def askThree : Desk × Request := (shopWith {} {}, .change (.createOrder scope threeOfOne))

/-- three of five units are sold -/
def soldOnce : List (Desk × Request) :=
  [(shopWith {} {}, .change (.createProduct ⟨"A", .ofInt 2, 5⟩)), askThree]

/-- the order is confirmed twice, and cancelled -/
def confirmedTwice : List (Desk × Request) :=
  [(shopWith {} {}, .change (.changeStatus scope 1 .confirmed)),
    (shopWith {} {}, .change (.payment scope ⟨1, "success"⟩)),
    (shopWith {} {}, .change (.payment scope ⟨1, "failed"⟩))]

/-- three more units are not to be had -/
def businessDay : List (Desk × Request) := soldOnce ++ askThree :: confirmedTwice

theorem Bare.of_empty {ts : Tables} (hp : ts.products = some {}) (ho : ts.orders = some {})
    (hi : ts.items = some {}) : Bare { tables := ts } := by
  refine ⟨rfl, fun t ht => ?_, {}, {}, ho, hi, rfl, rfl, Int.le_refl 0⟩
  obtain rfl := Option.some.inj (hp.symm.trans ht)
  exact Store.Stocked.empty.keyed

theorem newLedger_bare : ∃ db, newLedger.store = .embedded db ∧ Bare db := by
  have hfresh : ∃ db, Store.fresh = .embedded db ∧ Bare db :=
    ⟨_, Store.fresh_eq, .of_empty rfl rfl rfl⟩
  simpa only [newLedger] using hfresh

theorem businessDay_fluent : ∀ c ∈ businessDay, Fluent {} c.1 := by
  have hshop : Fluent {} (shopWith {} {}) := ⟨steady_of_no_outage rfl, rfl⟩
  intro c hc
  simp only [businessDay, soldOnce, confirmedTwice, askThree, List.cons_append,
    List.nil_append, List.mem_cons, List.not_mem_nil, or_false] at hc
  rcases hc with rfl | rfl | rfl | rfl | rfl | rfl <;> exact hshop

/-- one order is announced, not the one that was refused, and two moves of three -/
theorem businessDay_journal :
    (newLedger.after businessDay).broker.published.map (·.key)
        = ["order.created", "order.status_changed", "order.status_changed"] ∧
      (∃ ns m, (newLedger.after businessDay).broker.published = ns.map (·.publication {}) ∧
        creations ns = [m] ∧ m.orderId = 1 ∧ ∃ final, Chain "PENDING" (moves 1 ns) final) ∧
      ((newLedger.after soldOnce).next askThree).broker
        = (newLedger.after soldOnce).broker := by
  obtain ⟨db, hs, hbare⟩ := newLedger_bare
  obtain ⟨⟨ns, hpublished, hannounced, hmoves⟩, hbarren⟩ :=
    journal_faithful (l := newLedger) (t := {}) hs hbare rfl businessDay_fluent
  refine ⟨by decide +kernel, ?_, ?_⟩
  · have hone : (newLedger.committed businessDay).map (·.row.id) = [1] := by decide +kernel
    obtain ⟨c, hc, hid⟩ := List.map_eq_singleton_iff.mp hone
    rw [hc] at hannounced
    obtain ⟨m, ms, hsaid, hrest, hcreations⟩ := List.forall₂_cons_left_iff.mp hannounced
    rw [List.forall₂_nil_left_iff.mp hrest] at hcreations
    obtain ⟨final, hchain, -⟩ := hmoves 1
    exact ⟨ns, m, hpublished, hcreations, hsaid.id.trans hid, final, hchain⟩
  · refine hbarren soldOnce _ _ _ _ rfl (.inl (Action.failed_of_failure? ?_))
    decide +kernel

end OrderDesk.Desk
