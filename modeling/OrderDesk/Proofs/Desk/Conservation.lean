import OrderDesk.Proofs.Desk.Runs

/-!
# Conservation of stock

Stock leaves a product only with the lines of a new order, and it never comes back but by a change
of the product itself. So over any run the stock of a product and the units in the orders that were
created add up to what there was at its start.

* `after`, `callAt`       runs as lists of calls, each at a desk of its own;
* `created`, `sold`       the orders that a call created, and the units of a product in their lines;
* `Does.created`, `Does.stock`      what one change creates, and what it takes out of the stock;
* `stock_conserved`       the sum over a run from any store that was reached.
-/

namespace OrderDesk.Desk

open OrderDesk.Action (Keeps)
open Store (Backend Database Tables Table HasId ProductRow OrderRow ItemRow linesOf lineRows inside)

/-! ## runs -/

/-- A call, at a desk whose store is that of the run. -/
def callAt (b : Backend) (c : Desk × Request) : Outcome Unit × Desk :=
  c.2.perform { c.1 with store := b }

def after (b : Backend) : List (Desk × Request) → Backend
  | [] => b
  | c :: cs => after (callAt b c).2.store cs

theorem after_append (b : Backend) (calls later : List (Desk × Request)) :
    after b (calls ++ later) = after (after b calls) later := by
  induction calls generalizing b with
  | nil => rfl
  | cons c calls ih => exact ih _

/-- what every call keeps of an engine, every run keeps -/
theorem after_keeps {P : Database → Prop} (hcall : ∀ db, P db → ∀ c, ∃ db',
      (callAt (.embedded db) c).2.store = .embedded db' ∧ P db') {db : Database} (h : P db)
    (calls : List (Desk × Request)) : ∃ db', after (.embedded db) calls = .embedded db' ∧ P db' := by
  induction calls generalizing db with
  | nil => exact ⟨db, rfl, h⟩
  | cons c calls ih =>
    obtain ⟨db', hs', h'⟩ := hcall db h c
    rw [after, hs']
    exact ih h'

def tablesOf : Backend → Tables
  | .embedded db => db.tables
  | .remote _ => {}

def stock? (id : Int) (ts : Tables) : Option Int := do (← (← ts.products).get? id).stock.int?

/-- the orders that are there, and were not before -/
def created (ts ts' : Tables) : List OrderRow :=
  match ts.orders, ts'.orders with
  | some book, some book' => book'.rows.filter fun r => !book.rows.any (·.id == r.id)
  | _, _ => []

def rowUnits (id : Int) (row : ItemRow) : Int :=
  if row.productId.int? = some id then row.quantity.int?.getD 0 else 0

/-- the units of a product in the lines of an order -/
def units (id : Int) (ts : Tables) (orderId : Int) : Int :=
  match ts.items with
  | some lines => ((linesOf lines orderId).map (rowUnits id)).sum
  | none => 0

/-- the units of a product in the orders that were created -/
def sold (id : Int) (ts ts' : Tables) : Int := ((created ts ts').map fun r => units id ts' r.id).sum

/-- the units of a product in the orders that some calls created, whatever became of them -/
def soldBy (id : Int) (b : Backend) : List (Desk × Request) → Int
  | [] => 0
  | c :: cs => sold id (tablesOf b) (tablesOf (callAt b c).2.store) + soldBy id (callAt b c).2.store cs

/-- A call works on a product of the catalog. -/
def Request.Touches (id : Int) : Request → Prop
  | .change (.updateProduct _ other _) => other = id
  | .change (.deleteProduct _ other) => other = id
  | _ => False

/-- No call that works on a product goes through. -/
def Untouched (id : Int) (b : Backend) : List (Desk × Request) → Prop
  | [] => True
  | c :: cs => (c.2.Touches id → (callAt b c).1 ≠ .ok ()) ∧ Untouched id (callAt b c).2.store cs

/-! ## what one change creates -/

section
variable {ts ts' : Tables} {book book' : Table OrderRow}

theorem mem_created {r : OrderRow} (h : ts.orders = some book) (h' : ts'.orders = some book') :
    r ∈ created ts ts' ↔ r ∈ book'.rows ∧ ∀ r₀ ∈ book.rows, r₀.id ≠ r.id := by
  simp [created, h, h']

/-- no order was created where every id was there before -/
theorem created_eq_nil (h : ∀ book', ts'.orders = some book' → ∃ book, ts.orders = some book ∧
    ∀ r ∈ book'.rows, ∃ r₀ ∈ book.rows, r₀.id = r.id) : created ts ts' = [] := by
  cases h' : ts'.orders with
  | none =>
    unfold created
    rw [h']
    cases ts.orders <;> rfl
  | some book' =>
    obtain ⟨book, hbook, hall⟩ := h book' h'
    rw [List.eq_nil_iff_forall_not_mem]
    intro r hr
    obtain ⟨hmem, hnew⟩ := (mem_created hbook h').mp hr
    obtain ⟨r₀, hr₀, hid⟩ := hall r hmem
    exact hnew r₀ hr₀ hid

theorem created_self (h : ts'.orders = ts.orders) : created ts ts' = [] :=
  created_eq_nil fun book' h' => ⟨book', h ▸ h', fun r hr => ⟨r, hr, rfl⟩⟩

end

theorem units_of_lineRows (id orderId : Int) (i : Nat) (first : Int) (ls : List Line) :
    ((lineRows orderId i first ls).map (rowUnits id)).sum
      = ((ls.filter (·.productId == id)).map Line.quantity).sum := by
  induction ls generalizing i first with
  | nil => rfl
  | cons l ls ih =>
    rw [lineRows, List.map_cons, List.sum_cons, ih]
    by_cases hl : l.productId = id
    · have hunits : rowUnits id (ItemRow.ofLine orderId i l first) = l.quantity := by
        simp [rowUnits, ItemRow.ofLine, Store.Cell.int?, hl]
      rw [hunits, List.filter_cons_of_pos (by simpa using hl), List.map_cons, List.sum_cons]
    · have hunits : rowUnits id (ItemRow.ofLine orderId i l first) = 0 := by
        simp [rowUnits, ItemRow.ofLine, Store.Cell.int?, hl]
      rw [hunits, List.filter_cons_of_neg (by simpa using hl), Int.zero_add]

/-- the lines of an order have the units that were asked for -/
theorem units_of_priced {t : Table ProductRow} {items : List ItemRequest} {ls : List Line}
    (id : Int) (h : List.Forall₂ (Priced t) items ls) :
    ((ls.filter (·.productId == id)).map Line.quantity).sum = demand id items := by
  induction h with
  | nil => rfl
  | @cons it l items ls hit _ ih =>
    rw [show it :: items = [it] ++ items from rfl, demand_append, ← ih]
    by_cases hid : it.productId = id
    · have hl : l.productId = id := hit.productId.trans hid
      rw [List.filter_cons_of_pos (by simpa using hl), List.map_cons, List.sum_cons, hit.quantity,
        ← hid, demand_singleton_self]
    · have hl : l.productId ≠ id := fun he => hid (hit.productId.symm.trans he)
      rw [List.filter_cons_of_neg (by simpa using hl), demand_singleton_ne hid, Int.zero_add]

section
variable {limit limit' : Decimal} {now : Stamp} {ts ts' : Tables} {r : Request} {c : Change}

theorem Does.mono (hle : limit.value ≤ limit'.value) (h : Does limit now ts r c ts') :
    Does limit' now ts r c ts' := by
  cases h with
  | idle => exact .idle
  | placed ht hbook hlines hw hplaced => exact .placed ht hbook hlines hw (hplaced.mono hle)
  | moved hr hbook hlines hread hmove => exact .moved hr hbook hlines hread hmove
  | erased hbook hlines => exact .erased hbook hlines
  | stocked hnew ht => exact .stocked hnew ht
  | restocked hnew ht => exact .restocked hnew ht
  | unstocked ht => exact .unstocked ht
  | filed => exact .filed

/-- a change is one with a limit as great as any other, too -/
theorem Does.limited (h : Does limit now ts r c ts') (limit' : Decimal) :
    ∃ limit'' : Decimal, limit'.value ≤ limit''.value ∧ Does limit'' now ts r c ts' := by
  rcases le_total limit'.value limit.value with hle | hle
  · exact ⟨limit, hle, h⟩
  · exact ⟨limit', le_rfl, h.mono hle⟩

/-- the row of a new order is what is created -/
theorem created_row {products : Option (Table ProductRow)} {book : Table OrderRow}
    {lines : Table ItemRow} {o : Order} (hbook : ts.orders = some book) :
    created ts (Store.Orders.withNew { ts with products } book lines o)
      = [OrderRow.ofNew o book.nextId] := by
  have hfresh : ∀ r ∈ book.rows, r.id ≠ book.nextId :=
    fun r hr => Int.ne_of_lt (Table.id_lt_nextId hr)
  unfold created
  rw [hbook]
  show (book.rows ++ [OrderRow.ofNew o book.nextId]).filter _ = _
  rw [List.filter_append, List.filter_eq_nil_iff.mpr, List.nil_append, List.filter_cons_of_pos,
    List.filter_nil]
  · simpa [OrderRow.ofNew] using hfresh
  · intro r hr
    simpa using ⟨r, hr, rfl⟩

/-- a new order is the one that is created, with the units that were asked for -/
theorem created_withNew {number : String} {items : List ItemRequest} {t t' : Table ProductRow}
    {book : Table OrderRow} {lines : Table ItemRow} {o : Order} (hsound : ts.Sound limit')
    (hbook : ts.orders = some book) (hlines : ts.items = some lines)
    (h : Placed limit now number items t t' book lines o) :
    ∃ row, row.id = o.id ∧
      created ts (Store.Orders.withNew { ts with products := some t' } book lines o) = [row] ∧
      ∀ id, sold id ts (Store.Orders.withNew { ts with products := some t' } book lines o)
        = demand id items := by
  obtain ⟨book₁, lines₁, hbook₁, hlines₁, hbooked⟩ := hsound.orders
  obtain rfl : book = book₁ := Option.some.inj (hbook.symm.trans hbook₁)
  obtain rfl : lines = lines₁ := Option.some.inj (hlines.symm.trans hlines₁)
  have hfresh : ∀ r ∈ book.rows, r.id ≠ book.nextId :=
    fun r hr => Int.ne_of_lt (Table.id_lt_nextId hr)
  refine ⟨_, h.fields.1.symm, created_row hbook, fun id => ?_⟩
  rw [sold, created_row hbook, List.map_singleton, List.sum_singleton]
  show ((linesOf (Store.appendLines book.nextId 0 lines o.items) book.nextId).map (rowUnits id)).sum
    = _
  rw [Store.linesOf_appendLines, hbooked.linesOf_eq_nil hfresh, List.nil_append, units_of_lineRows,
    units_of_priced id h.priced]

/-- only a new order is created -/
theorem Does.created_eq_nil (h : Does limit now ts r c ts') (hc : ∀ o, c ≠ .placed o) :
    created ts ts' = [] := by
  cases h with
  | placed => exact absurd rfl (hc _)
  | @moved _ _ _ book _ _ after _ hbook =>
    refine Desk.created_eq_nil fun book' h' => ⟨book, hbook, fun row hrow => ?_⟩
    have hkeep : ∀ r : OrderRow, HasId.id (OrderRow.update after r) = HasId.id r := fun _ => rfl
    have h' : book.update after.id (OrderRow.update after) = book' := Option.some.inj h'
    have hmem : HasId.id row ∈ book.rows.map HasId.id := by
      rw [← Table.ids_update hkeep, h']
      exact List.mem_map_of_mem hrow
    obtain ⟨row₀, hrow₀, hid⟩ := List.mem_map.mp hmem
    exact ⟨row₀, hrow₀, hid⟩
  | @erased _ id book _ hbook =>
    refine Desk.created_eq_nil fun book' h' => ⟨book, hbook, fun row hrow => ?_⟩
    have h' : book.erase (·.id == id) = book' := Option.some.inj h'
    rw [← h'] at hrow
    exact ⟨row, (Table.mem_erase.mp hrow).1, rfl⟩
  | idle | stocked | restocked | unstocked | filed => exact created_self rfl

/-- **What a change creates**: nothing, or one order with the units that were asked for. -/
theorem Does.created (hsound : ts.Sound limit') (h : Does limit now ts r c ts') :
    created ts ts' = [] ∨ ∃ s q row, r = .change (.createOrder s q) ∧ created ts ts' = [row] ∧
      ∀ id, sold id ts ts' = demand id q.items := by
  cases c with
  | placed o =>
    cases h with
    | placed ht hbook hlines hw hplaced =>
      obtain ⟨row, -, hrow, hsold⟩ := created_withNew hsound hbook hlines hplaced
      exact .inr ⟨_, _, row, rfl, hrow, hsold⟩
  | idle | moved | erased | catalog => exact .inl (h.created_eq_nil fun _ => nofun)

theorem sold_of_created (id : Int) (h : Desk.created ts ts' = []) : sold id ts ts' = 0 := by
  rw [sold, h]
  rfl

theorem stock?_eq_some_iff {id n : Int} : stock? id ts = some n ↔
    ∃ t row, ts.products = some t ∧ t.get? id = some row ∧ row.stock.int? = some n := by
  simp [stock?, Option.bind_eq_some_iff]

theorem Served.stock {t t' : Table ProductRow} {items : List ItemRequest} {id n : Int}
    (h : Served now t items t') {row : ProductRow} (hget : t.get? id = some row)
    (hrow : row.stock.int? = some n) :
    ∃ row', t'.get? id = some row' ∧ row'.stock.int? = some (n - demand id items) := by
  by_cases hn : Named id items
  · obtain ⟨r, p, hget₁, hp, -, hget'⟩ := h.named id hn
    obtain rfl : row = r := Option.some.inj (hget.symm.trans hget₁)
    obtain ⟨-, -, -, hstock, -⟩ := ProductRow.product?_eq_some_iff.mp hp
    have hp : p.stock = n := Option.some.inj (hstock.symm.trans hrow)
    exact ⟨_, hget', by rw [← hp]; rfl⟩
  · exact ⟨row, (h.other id hn).trans hget, by rw [demand_of_not_named hn, Int.sub_zero, hrow]⟩

/-- but for a new order, a change leaves the row of a product that it does not touch -/
theorem Does.row {id : Int} {t : Table ProductRow} {row : ProductRow}
    (h : Does limit now ts r c ts') (hc : ∀ o, c ≠ .placed o) (hno : ¬ r.Touches id)
    (ht : ts.products = some t) (hget : t.get? id = some row) :
    ∃ t', ts'.products = some t' ∧ t'.get? id = some row := by
  cases h with
  | placed => exact absurd rfl (hc _)
  | idle | moved | erased | filed => exact ⟨t, ht, hget⟩
  | stocked _ ht₁ =>
    obtain rfl := Option.some.inj (ht.symm.trans ht₁)
    exact ⟨_, rfl, Table.get?_insert_old hget⟩
  | @restocked _ other _ _ _ _ _ ht₁ =>
    obtain rfl := Option.some.inj (ht.symm.trans ht₁)
    have hne : id ≠ other := fun he => hno he.symm
    refine ⟨_, rfl, ?_⟩
    rw [← hget]
    exact Table.get?_update_ne (fun _ => rfl) hne
  | @unstocked _ other _ ht₁ =>
    obtain rfl := Option.some.inj (ht.symm.trans ht₁)
    have hne : id ≠ other := fun he => hno he.symm
    exact ⟨_, rfl, (Table.get?_erase_ne hne).trans hget⟩

/-- **What a change takes out of the stock** of a product that it does not touch is what it sells. -/
theorem Does.stock {id n : Int} (hsound : ts.Sound limit') (h : Does limit now ts r c ts')
    (hno : ¬ r.Touches id) (hn : stock? id ts = some n) :
    ∃ m, stock? id ts' = some m ∧ m + sold id ts ts' = n := by
  obtain ⟨t, row, ht, hget, hrow⟩ := stock?_eq_some_iff.mp hn
  by_cases hc : ∀ o, c ≠ .placed o
  · obtain ⟨t', ht', hget'⟩ := h.row hc hno ht hget
    have hsold : sold id ts ts' = 0 := sold_of_created id (h.created_eq_nil hc)
    exact ⟨n, stock?_eq_some_iff.mpr ⟨t', row, ht', hget', hrow⟩, by omega⟩
  · obtain ⟨o, rfl⟩ : ∃ o, c = .placed o := by
      simpa using hc
    cases h with
    | placed ht₁ hbook hlines hw hplaced =>
      obtain rfl := Option.some.inj (ht.symm.trans ht₁)
      obtain ⟨-, -, -, hsold⟩ := created_withNew hsound hbook hlines hplaced
      obtain ⟨row', hget', hrow'⟩ := hplaced.served.stock hget hrow
      refine ⟨_, stock?_eq_some_iff.mpr ⟨_, row', rfl, hget', hrow'⟩, ?_⟩
      rw [hsold]
      omega

end

/-! ## what one call creates -/

/-- An engine at rest with sound tables, whatever the limit on orders was. -/
def AtRest (b : Backend) : Prop :=
  ∃ limit db, b = .embedded db ∧ db.saved = none ∧ db.tables.Sound limit

/-- A key led to something before. -/
def Replayed (d : Desk) (r : OrderRequest) : Prop :=
  usesKey d r = true ∧ ∃ raw, (lookBack r d).1 = .ok (some raw)

/-- A call that creates no order: any but a creation, one that fails, and one that was made before. -/
def Barren (d : Desk) : Request → Prop
  | .change (.createOrder s r) => (∃ f, (createOrder s r d).1 = .failed f) ∨ Replayed d r
  | _ => True

section
variable {b : Backend} {d : Desk} {db : Database} {s : Scope}

/-- **A call from a store at rest** is a deed, with a limit as great as any other. -/
theorem Request.does {limit : Decimal} (r : Request) (hs : d.store = .embedded db)
    (hr : db.saved = none) (hkept : db.tables.Kept limit) : ∃ c limit' ts,
      limit.value ≤ limit'.value ∧ Deed r c d (r.perform d).2 ∧
      Does limit' d.clock.utc db.tables r c ts ∧
      (r.perform d).2.store = .embedded { db with tables := ts } := by
  obtain ⟨c, hdeed⟩ := r.deed hs hr hkept
  obtain ⟨db₁, ts, hs₁, hs', hdoes⟩ := hdeed.does
  obtain rfl : db = db₁ := Backend.embedded.inj (hs.symm.trans hs₁)
  obtain ⟨limit', hle, hdoes'⟩ := hdoes.limited limit
  exact ⟨c, limit', ts, hle, hdeed, hdoes', hs'⟩

/-- **A call from a store at rest** makes a change, and the store is at rest again. -/
theorem AtRest.callAt (h : AtRest b) (c : Desk × Request) : AtRest (callAt b c).2.store ∧
    ∃ limit now change, (tablesOf b).Sound limit ∧
      Does limit now (tablesOf b) c.2 change (tablesOf (callAt b c).2.store) := by
  obtain ⟨limit, db, rfl, hr, hsound⟩ := h
  obtain ⟨d, r⟩ := c
  obtain ⟨change, limit', ts, hle, -, hdoes, hs'⟩ :=
    r.does (d := { d with store := .embedded db }) rfl hr hsound.kept
  have hsound' : db.tables.Sound limit' := hsound.mono hle
  have hstore : (Desk.callAt (.embedded db) (d, r)).2.store = .embedded { db with tables := ts } := hs'
  rw [hstore]
  exact ⟨⟨limit', _, rfl, hr, hdoes.sound hsound'⟩, limit', d.clock.utc, change, hsound', hdoes⟩

theorem AtRest.after (h : AtRest b) (calls : List (Desk × Request)) : AtRest (after b calls) := by
  induction calls generalizing b with
  | nil => exact h
  | cons c calls ih => exact ih (h.callAt c).1

theorem atRest_fresh : AtRest Store.fresh :=
  ⟨.zero, _, Store.fresh_eq, rfl, ⟨_, rfl, Store.Stocked.empty⟩, _, _, rfl, rfl,
    Store.Booked.empty .zero⟩

theorem replayed_tracer {r : OrderRequest} (t : Telemetry.Tracer) (h : Replayed d r) :
    Replayed { d with tracer := t } r := by
  obtain ⟨hk, raw, hback⟩ := h
  obtain ⟨hout, k, e, hredis, hf, he, hraw, -⟩ := lookBack_some_iff.mp (Prod.ext hback rfl)
  exact ⟨hk, raw, congrArg Prod.fst (lookBack_some_iff (d := { d with tracer := t }) |>.mpr
    ⟨hout, k, e, hredis, hf, he, hraw, rfl⟩)⟩

/-- a creation that was made before leaves the store as it was -/
theorem createOrder_replayed {r : OrderRequest} (hs : d.store = .embedded db) (h : Replayed d r) :
    (createOrder s r d).2.store = d.store := by
  rcases hrun : createOrder s r d with ⟨out, d'⟩
  obtain ⟨s', t, t', m, d₁, hend, rfl⟩ := createOrder_end hrun
  obtain ⟨hk, raw, hback⟩ := replayed_tracer t h
  have hcreate : (createUnmeasured s' r { d with tracer := t }).2.store = d.store := by
    rw [createUnmeasured_keyed hk]
    cases checkItems r.items with
    | error f => rfl
    | ok u =>
      rcases hfound : lookBack r { d with tracer := t } with ⟨o, d₂⟩
      rw [hfound] at hback
      obtain rfl : o = .ok (some raw) := hback
      have hbefore : Writes [] { d with tracer := t } d₂ := (lookBack_writes r).of_eq hfound
      have hafter : Writes [] d₂ (replay s' raw d₂).2 :=
        replay_looks s' raw d₂ ⟨db, hbefore.store.trans hs⟩
      rw [Action.bind_of_ok Action.ofExcept_ok, Action.bind_of_ok hfound]
      exact hafter.store.trans hbefore.store
  rw [hend] at hcreate
  exact hcreate

/-- a creation that is answered, and was not made before, creates the order of its answer -/
theorem createOrder_creates {limit : Decimal} {r : OrderRequest} {a : Summary} {d' : Desk}
    (hs : d.store = .embedded db) (hr : db.saved = none) (hsound : db.tables.Sound limit)
    (hnew : ¬ Replayed d r) (h : createOrder s r d = (.ok a, d')) : ∃ row, row.id = a.id ∧
      created db.tables (tablesOf d'.store) = [row] ∧
      ∀ id, sold id db.tables (tablesOf d'.store) = demand id r.items := by
  obtain ⟨s', t, t', m, d₃, hcreate, rfl⟩ := createOrder_end h
  rcases createUnmeasured_ok hcreate with ⟨raw, d₁, hk, hback, -⟩ |
    ⟨d₁, d₂, o, hform, hbefore, hstore, hafter⟩
  · have hreplayed : Replayed { d with tracer := t } r := ⟨hk, raw, congrArg Prod.fst hback⟩
    exact absurd (replayed_tracer d.tracer hreplayed) hnew
  · obtain ⟨d₄, ts, hplace, hts, hs₂, -⟩ := transaction_commits (W := [])
      (placeOrder_works r.items) (hbefore.store.trans hs) hr hstore
    obtain ⟨t₁, t₂, book, lines, -, hbook, hlines, hplaced, hstored⟩ := placeOrder_ok
      (d := { d₁ with store := .embedded (inside db db.tables) }) rfl rfl hform hplace
    have hts : ts = Store.Orders.withNew { db.tables with products := some t₂ } book lines o := by
      rw [hts] at hstored
      exact congrArg Database.tables (Backend.embedded.inj hstored)
    have hkept : Writes (OrderCache.key o.id :: r.names) d₂ d₃ :=
      (afterwards_writes s' r _ o List.mem_cons_self fun hk => by
        simp [names_of_usesKey hk]).of_eq hafter
    obtain ⟨_, _, -, ha⟩ := Action.bind_ok_iff.mp hafter
    have ha : o.summary = a := Outcome.ok.inj (Prod.mk.inj ha).1
    obtain ⟨row, hid, hcreated, hsold⟩ := created_withNew hsound hbook hlines hplaced
    have htables : tablesOf d₃.store
        = Store.Orders.withNew { db.tables with products := some t₂ } book lines o := by
      rw [hkept.store, hs₂, hts]
      rfl
    refine ⟨row, ?_, ?_, fun id => ?_⟩
    · rw [hid, ← ha]
      rfl
    · show created db.tables (tablesOf d₃.store) = _
      rw [htables, hcreated]
    · show sold id db.tables (tablesOf d₃.store) = _
      rw [htables, hsold]

theorem updateProduct_undone {id : Int} {draft : ProductDraft} (hs : d.store = .embedded db)
    (hr : db.saved = none) (h : ∀ p, (updateProduct s id draft d).1 ≠ .ok p) :
    (updateProduct s id draft d).2.store = d.store := by
  unfold updateProduct at h ⊢
  cases hnew : draft.check with
  | error f => rfl
  | ok new =>
    rw [hnew, Action.bind_of_ok Action.ofExcept_ok] at h
    rw [Action.bind_of_ok Action.ofExcept_ok]
    rcases Action.bind_ends (transaction (replaceProduct id new)) (fun p => do
        log s .info "product updated" [("product_id", .int id), ("stock", .int p.stock)]
        return p) d with ⟨p, d₁, -, hend⟩ | ⟨hno, -, hend⟩
    · exact absurd (congrArg Prod.fst hend) (h p)
    · rw [hend]
      exact transaction_undone (replaceProduct_works id new) hs hr hno

theorem deleteProduct_undone {id : Int} (hs : d.store = .embedded db)
    (h : (deleteProduct s id d).1 ≠ .ok ()) : (deleteProduct s id d).2.store = d.store := by
  rcases Action.bind_ends (Store.onStore (Store.Products.delete id) : Action Desk Unit)
    (fun _ => log s .info "product deleted" [("product_id", .int id)]) d with
    ⟨u, d₁, -, hend⟩ | ⟨hno, -, hend⟩
  · exact absurd (congrArg Prod.fst hend) h
  · rcases hdel : Store.Products.delete id (.embedded db) with ⟨out, b⟩
    have hrun : (Store.onStore (Store.Products.delete id) : Action Desk Unit) d
        = (out, { d with store := b }) := onStore_eq_iff.mpr ⟨b, by rw [hs]; exact hdel, rfl⟩
    rw [hrun] at hno hend
    have hstore : (deleteProduct s id d).2.store = b := congrArg Desk.store hend
    rw [hstore, hs]
    cases out with
    | ok u => exact absurd rfl (hno u)
    | failed f => exact Store.Products.delete_failed hdel
    | panicked text =>
      exact absurd (congrArg Prod.fst hdel) (Store.changeOne_noPanic _ _ _ _ _)

/-- a call on a product that does not go through leaves the store as it was -/
theorem untouched_store {r : Request} {id : Int} (hs : d.store = .embedded db)
    (hr : db.saved = none) (ht : r.Touches id) (h : (r.perform d).1 ≠ .ok ()) :
    (r.perform d).2.store = d.store := by
  cases r with
  | look q => exact ht.elim
  | change op =>
    cases op with
    | updateProduct s other draft =>
      rw [show (Request.change (.updateProduct s other draft)).perform
        = quietly (updateProduct s other draft) from rfl, quietly_state]
      exact updateProduct_undone hs hr fun p hp => h (quietly_of_ok hp)
    | deleteProduct s other => exact deleteProduct_undone hs h
    | _ => exact ht.elim

/-- **A call takes out of the stock of a product what it sells of it**, unless it works on it and
goes through. -/
theorem AtRest.stock {id n : Int} (h : AtRest b) (c : Desk × Request)
    (hno : c.2.Touches id → (Desk.callAt b c).1 ≠ .ok ()) (hn : stock? id (tablesOf b) = some n) :
    ∃ m, stock? id (tablesOf (Desk.callAt b c).2.store) = some m ∧
      m + sold id (tablesOf b) (tablesOf (Desk.callAt b c).2.store) = n := by
  by_cases ht : c.2.Touches id
  · obtain ⟨limit, db, rfl, hr, -⟩ := h
    have hsame : (Desk.callAt (.embedded db) c).2.store = .embedded db :=
      untouched_store (d := { c.1 with store := .embedded db }) rfl hr ht (hno ht)
    rw [hsame]
    exact ⟨n, hn, by rw [sold_of_created id (created_self rfl), Int.add_zero]⟩
  · obtain ⟨-, limit, now, change, hsound, hdoes⟩ := h.callAt c
    exact hdoes.stock hsound ht hn

theorem AtRest.stock_after {id n : Int} (h : AtRest b) {calls : List (Desk × Request)}
    (hno : Untouched id b calls) (hn : stock? id (tablesOf b) = some n) :
    ∃ m, stock? id (tablesOf (Desk.after b calls)) = some m ∧ m + soldBy id b calls = n := by
  induction calls generalizing b n with
  | nil => exact ⟨n, hn, Int.add_zero n⟩
  | cons c calls ih =>
    obtain ⟨m, hm, hsum⟩ := h.stock c hno.1 hn
    obtain ⟨m', hm', hsum'⟩ := ih (h.callAt c).1 hno.2 hm
    exact ⟨m', hm', by rw [soldBy]; omega⟩

theorem AtRest.created_of_barren (h : AtRest b) (c : Desk × Request)
    (hbarren : Barren { c.1 with store := b } c.2) :
    created (tablesOf b) (tablesOf (Desk.callAt b c).2.store) = [] := by
  obtain ⟨-, limit, now, change, hsound, hdoes⟩ := h.callAt c
  obtain ⟨limit, db, rfl, hr, -⟩ := h
  obtain ⟨d, r⟩ := c
  rcases hdoes.created hsound with hnone | ⟨s, q, row, hcreation, -⟩
  · exact hnone
  · have hcreation : r = .change (.createOrder s q) := hcreation
    subst hcreation
    -- the store is as it was
    have hstore : (createOrder s q { d with store := .embedded db }).2.store = .embedded db := by
      rcases hbarren with ⟨f, hfail⟩ | hreplayed
      · have he := createOrder_failed (d := { d with store := .embedded db }) rfl hr
          (Prod.ext hfail rfl)
        exact congrArg Prod.fst he
      · exact createOrder_replayed rfl hreplayed
    have hcall : (Desk.callAt (.embedded db) (d, .change (.createOrder s q))).2.store
        = .embedded db := (congrArg Desk.store (quietly_state _)).trans hstore
    rw [hcall]
    exact created_self rfl

end

/-! ## what holds of every run -/

/-- **Stock is conserved.** Over any calls from any store that was reached, the stock of a product
that no call works on, together with its units in the orders that were created, whatever became of
them, is its stock at the start. A call that is barren creates no order; a creation that is answered
creates the order of its answer, with the units that were asked for. -/
theorem stock_conserved (before : List (Desk × Request)) :
    (∀ id n calls, stock? id (tablesOf (after Store.fresh before)) = some n →
      Untouched id (after Store.fresh before) calls →
      ∃ m, stock? id (tablesOf (after (after Store.fresh before) calls)) = some m ∧
        m + soldBy id (after Store.fresh before) calls = n) ∧
    (∀ (d : Desk) r, Barren { d with store := after Store.fresh before } r →
      created (tablesOf (after Store.fresh before))
        (tablesOf (callAt (after Store.fresh before) (d, r)).2.store) = []) ∧
    ∀ (d : Desk) s r a d', createOrder s r { d with store := after Store.fresh before } = (.ok a, d') →
      ¬ Replayed { d with store := after Store.fresh before } r →
      ∃ row, row.id = a.id ∧
        created (tablesOf (after Store.fresh before)) (tablesOf d'.store) = [row] ∧
        ∀ id, sold id (tablesOf (after Store.fresh before)) (tablesOf d'.store)
          = demand id r.items := by
  have hrest : AtRest (after Store.fresh before) := atRest_fresh.after before
  refine ⟨fun id n calls hn hno => hrest.stock_after hno hn,
    fun d r hbarren => hrest.created_of_barren (d, r) hbarren, fun d s r a d' hok hnew => ?_⟩
  obtain ⟨limit, db, hb, hr, hsound⟩ := hrest
  rw [hb] at hok hnew ⊢
  exact createOrder_creates rfl hr hsound hnew hok

/-- the calls of a small shop: five units are put up, three are sold, and the order is removed -/
def putUp : List (Desk × Request) :=
  [(shopWith {} {}, .change (.createProduct ⟨"A", .ofInt 2, 5⟩))]

def sellThree : List (Desk × Request) :=
  [(shopWith {} {}, .change (.createOrder scope threeUnits)),
    (shopWith {} {}, .change (.deleteOrder scope 1))]

/-- three of five units are gone, although no order is left -/
theorem sellThree_leaves_two :
    stock? 1 (tablesOf (after (after Store.fresh putUp) sellThree)) = some 2 ∧
      soldBy 1 (after Store.fresh putUp) sellThree = 3 ∧
      created (tablesOf (after Store.fresh putUp)) (tablesOf (callAt (after Store.fresh putUp)
        (shopWith {} {}, .change (.deleteOrder scope 1))).2.store) = [] ∧
      ∃ a d' row, createOrder scope threeUnits
          { shopWith {} {} with store := after Store.fresh putUp } = (.ok a, d') ∧
        created (tablesOf (after Store.fresh putUp)) (tablesOf d'.store) = [row] ∧
        row.id = a.id := by
  obtain ⟨hrun, hbarren, hanswer⟩ := stock_conserved putUp
  have hstart : stock? 1 (tablesOf (after Store.fresh putUp)) = some 5 := by decide +kernel
  have hsold : soldBy 1 (after Store.fresh putUp) sellThree = 3 := by decide +kernel
  obtain ⟨m, hm, hsum⟩ := hrun 1 5 sellThree hstart
    ⟨fun h => h.elim, fun h => h.elim, trivial⟩
  have h2 : m = 2 := by omega
  obtain ⟨a, ha⟩ := Option.isSome_iff_exists.mp (by decide +kernel :
    ((createOrder scope threeUnits).value?
      { shopWith {} {} with store := after Store.fresh putUp }).isSome = true)
  have hok := Action.ok_of_value? ha
  obtain ⟨row, hid, hrow, -⟩ := hanswer _ _ _ _ _ hok fun h => absurd h.1 (by decide +kernel)
  exact ⟨h2 ▸ hm, hsold, hbarren (shopWith {} {}) (.change (.deleteOrder scope 1)) trivial,
    a, _, row, hok, hrow, hid⟩

end OrderDesk.Desk
