import OrderDesk.Proofs.Decimal.Cents
import OrderDesk.Proofs.Desk.Immutable

/-!
# Amounts as clients see them

Clients see amounts with two places. The catalog rounds every price to whole cents before it writes
it, the lines of an order have the prices of their products, and changes of status write an order
anew as it was read. So every amount of an order is a whole number of cents, and what is shown of it
is exact.

* `Line.ShownExactly`, `Order.ShownExactly`      what is shown reads as the amounts themselves;
* `Order.shownExactly`      so it is when the prices are whole cents and the total is that of the
                            lines;
* `Tables.PricedLines`      every line in the store has a price that a product can have;
* `Tables.Keeps`            the store has an order with these amounts;
* `Does.pricedLines`        what every change keeps;
* `amounts_exact`           what holds after every run.
-/

namespace OrderDesk

open Decimal (Denotes InCents)

/-! ## what is shown of an order -/

/-- The price and the worth of a line are shown exactly. -/
structure Line.ShownExactly (l : Line) : Prop where
  unitPrice : Denotes l.summary.unitPrice l.unitPrice.value
  subtotal : Denotes l.summary.subtotal (l.quantity * l.unitPrice.value)

/-- Every amount of an order is shown exactly, also where the order is announced, and the amounts of
the lines add up to the total as they are shown. -/
structure Order.ShownExactly (o : Order) : Prop where
  lines : ∀ l ∈ o.items, l.ShownExactly
  total : Denotes o.summary.total o.total.value
  announced : Denotes o.created.total o.total.value
  adds : ∃ qs, List.Forall₂ (fun (s : LineSummary) q => Denotes s.subtotal q) o.summary.items qs ∧
    Denotes o.summary.total qs.sum

theorem Line.shownExactly {l : Line} (h : l.unitPrice.IsPrice) : l.ShownExactly := by
  have hprice : InCents l.unitPrice.value := h.2
  have hcost : l.subtotal.value = l.quantity * l.unitPrice.value := by
    rw [l.value_subtotal, cost, mul_comm]
  have hsubtotal : InCents l.subtotal.value := by
    rw [hcost, mul_comm]
    exact hprice.mul_intCast l.quantity
  refine ⟨Decimal.fixed_exact_iff.mpr hprice, ?_⟩
  rw [← hcost]
  exact Decimal.fixed_exact_iff.mpr hsubtotal

/-- **An order at prices of whole cents** is shown exactly when its total is that of its lines. -/
theorem Order.shownExactly {o : Order} (hprices : ∀ l ∈ o.items, l.unitPrice.IsPrice)
    (hbalanced : o.Balanced) : o.ShownExactly := by
  have hlines : ∀ l ∈ o.items, l.ShownExactly := fun l hl => Line.shownExactly (hprices l hl)
  have hcents : InCents o.total.value := by
    rw [hbalanced]
    apply InCents.sum
    intro q hq
    obtain ⟨l, hl, rfl⟩ := List.mem_map.mp hq
    have hprice : InCents l.unitPrice.value := (hprices l hl).2
    exact hprice.mul_intCast l.quantity
  have htotal : Denotes o.total.fixed o.total.value := Decimal.fixed_exact_iff.mpr hcents
  refine ⟨hlines, htotal, htotal, o.items.map Line.cost, ?_, hbalanced ▸ htotal⟩
  show List.Forall₂ _ (o.items.map Line.summary) (o.items.map Line.cost)
  rw [List.forall₂_map_left_iff, List.forall₂_map_right_iff, List.forall₂_same]
  intro l hl
  have hsubtotal := (hlines l hl).subtotal
  rw [mul_comm] at hsubtotal
  exact hsubtotal

namespace Store

/-! ## prices in the store -/

/-- Every line in the store has a price that a product can have. -/
def Tables.PricedLines (ts : Tables) : Prop := ∀ lines, ts.items = some lines →
  ∀ r ∈ lines.rows, ∃ a : Decimal, (Cell.text r.unitPrice).amount? = some a ∧ a.IsPrice

/-- The row of a line has its quantity and the text of its price. -/
structure ItemRow.Keeps (r : ItemRow) (l : Line) : Prop where
  quantity : r.quantity = .int l.quantity
  unitPrice : r.unitPrice = l.unitPrice.text

/-- The store has the order under its id, with the texts of its amounts. -/
def Tables.Keeps (ts : Tables) (o : Order) : Prop :=
  ∃ book lines row, ts.orders = some book ∧ ts.items = some lines ∧ book.get? o.id = some row ∧
    row.total = o.total.text ∧ List.Forall₂ ItemRow.Keeps (linesOf lines o.id) o.items

section
variable {ts : Tables} {book : Table OrderRow} {lines : Table ItemRow} {o : Order} {id : Int}

theorem Tables.PricedLines.prices (h : ts.PricedLines) (hread : ts.Reads id o) :
    ∀ l ∈ o.items, l.unitPrice.IsPrice := by
  obtain ⟨book, lines, r, o₀, ls, -, hlines, -, -, hls, rfl⟩ := hread
  intro l hl
  obtain ⟨row, hrow, hline⟩ := exists_of_mem_forall₂ hls hl
  obtain ⟨-, -, -, hprice⟩ := ItemRow.line?_eq_some_iff.mp hline
  have hmem : row ∈ lines.rows := (List.mem_filter.mp (List.mem_mergeSort.mp hrow)).1
  obtain ⟨a, ha, hisPrice⟩ := h lines hlines row hmem
  obtain rfl : a = l.unitPrice := Option.some.inj (ha.symm.trans hprice)
  exact hisPrice

/-- the lines of an order are written at prices as good as those before them -/
theorem pricedLines_appendLines {i : Nat}
    (h : ∀ r ∈ lines.rows, ∃ a : Decimal, (Cell.text r.unitPrice).amount? = some a ∧ a.IsPrice)
    (hprices : ∀ l ∈ o.items, l.unitPrice.IsPrice) (hstor : o.Storable) :
    ∀ r ∈ (appendLines id i lines o.items).rows,
      ∃ a : Decimal, (Cell.text r.unitPrice).amount? = some a ∧ a.IsPrice := by
  intro r hr
  rw [rows_appendLines] at hr
  rcases List.mem_append.mp hr with hr | hr
  · exact h r hr
  · obtain ⟨l, hl, k, n, rfl⟩ := exists_of_mem_lineRows hr
    exact price_of_text (hprices l hl) (hstor.prices l hl)

theorem keeps_lineRows (i : Nat) (first : Int) (ls : List Line) :
    List.Forall₂ ItemRow.Keeps (lineRows id i first ls) ls := by
  induction ls generalizing i first with
  | nil => exact .nil
  | cons l ls ih => exact .cons ⟨rfl, rfl⟩ (ih (i + 1) (first + 1))

/-- a new order is in the store with its amounts -/
theorem keeps_withNew (hid : o.id = book.nextId) (hnone : linesOf lines book.nextId = []) :
    (Orders.withNew ts book lines o).Keeps o := by
  have hget : (book.insert (OrderRow.ofNew o)).get? book.nextId
      = some (OrderRow.ofNew o book.nextId) := Table.get?_insert_new rfl
  refine ⟨_, _, OrderRow.ofNew o book.nextId, rfl, rfl, hid ▸ hget, rfl, ?_⟩
  have hrows := linesOf_appendLines book.nextId 0 lines o.items
  rw [hnone, List.nil_append] at hrows
  rw [hid, hrows]
  exact keeps_lineRows 0 lines.nextId o.items

end

end Store

namespace Desk

open Event (Notice)
open Store (Backend Database Tables Table OrderRow ItemRow ProductRow)

section
variable {limit : Decimal} {now : Stamp} {number : String} {items : List ItemRequest}
  {t t' : Table ProductRow} {book : Table OrderRow} {lines : Table ItemRow} {o : Order}
  {ts ts' : Tables} {r : Request} {c : Change}

/-! ## what changes keep -/

/-- the lines of a new order have the prices of their products -/
theorem Placed.prices (h : Placed limit now number items t t' book lines o)
    (hstocked : Store.Stocked t) : ∀ l ∈ o.items, l.unitPrice.IsPrice := by
  intro l hl
  obtain ⟨it, -, hpriced⟩ := Store.exists_of_mem_forall₂ h.priced hl
  obtain ⟨p, hp, -, hprice⟩ := hpriced.product
  obtain ⟨row, hget, hrow⟩ := Option.bind_eq_some_iff.mp hp
  have hsound : p.Sound := (hstocked.rows row (Table.get?_some hget).1).read hrow
  rw [Decimal.IsPrice, hprice]
  exact hsound.price

/-- **Every change keeps the prices of lines** to those that a product can have. -/
theorem Does.pricedLines (hsound : ts.Sound limit) (hpriced : ts.PricedLines)
    (h : Does limit now ts r c ts') : ts'.PricedLines := by
  cases h with
  | placed ht _ hlines _ hplaced =>
    obtain ⟨t₁, ht₁, hstocked⟩ := hsound.products
    obtain rfl := Option.some.inj (ht₁.symm.trans ht)
    intro lines' hlines'
    rw [← Option.some.inj hlines']
    exact Store.pricedLines_appendLines (hpriced _ hlines) (hplaced.prices hstocked)
      hplaced.storable
  | moved _ _ hlines hread hmove =>
    have hkept := hsound.kept
    have hstor := (moveTo_sound (hkept.reads hread).1 hmove).1.storable
    have hprices := hpriced.prices hread
    rw [moveTo_eq hmove] at hstor ⊢
    intro lines' hlines'
    rw [← Option.some.inj hlines']
    refine Store.pricedLines_appendLines ?_ hprices hstor
    intro row hrow
    exact hpriced _ hlines row (Table.mem_erase.mp hrow).1
  | erased _ hlines =>
    intro lines' hlines' row hrow
    rw [← Option.some.inj hlines'] at hrow
    exact hpriced _ hlines row (Table.mem_erase.mp hrow).1
  | idle | stocked | restocked | unstocked | filed => exact hpriced

end

/-! ## stores with such prices -/

/-- A store that can be read, whose lines have prices that a product can have. -/
structure Billable (db : Database) : Prop extends Ready db where
  priced : db.tables.PricedLines

/-- How amounts are shown from a store: exactly, whether an order is read by its id or on a page,
answered to the client who asked for it, or announced. -/
structure ShowsExactly (b : Backend) : Prop where
  read : ∀ keep id o b', Store.Orders.read keep id b = (.ok o, b') → o.ShownExactly
  listed : ∀ status page p b', Store.Orders.find status page b = (.ok p, b') →
    ∀ o ∈ p.content, o.ShownExactly
  placed : ∀ (d : Desk) items o d', d.store = b → WellFormed items →
    reserveAndStore items d = (.ok o, d') → o.ShownExactly ∧ (tablesOf d'.store).Keeps o
  answered : ∀ (d : Desk) s r a d', d.store = b → createOrder s r d = (.ok a, d') →
    ∃ o : Order, a = o.summary ∧ o.ShownExactly
  announced : ∀ (d : Desk) (r : Request) broker, d.store = b → Heard d broker →
    ∃ ns, (r.perform d).2.broker = some (broker.noting d.policy.topology ns) ∧
      ∀ m, Notice.created m ∈ ns → ∃ o : Order, m = o.created ∧ o.ShownExactly ∧
        (tablesOf (r.perform d).2.store).Keeps o

section
variable {limit : Decimal} {now : Stamp} {db : Database} {d d' : Desk} {s : Scope} {o : Order}
  {id : Int} {items : List ItemRequest}

theorem billable_fresh : ∃ db, Store.fresh = .embedded db ∧ Billable db := by
  obtain ⟨db, hfresh, hready⟩ := ready_fresh
  obtain rfl : _ = db := Backend.embedded.inj (Store.fresh_eq.symm.trans hfresh)
  refine ⟨_, hfresh, hready, fun lines hlines row hrow => ?_⟩
  rw [← Option.some.inj hlines] at hrow
  cases hrow

theorem Billable.after (h : Billable db) (calls : List (Desk × Request)) :
    ∃ db', Desk.after (.embedded db) calls = .embedded db' ∧ Billable db' := by
  refine after_keeps (fun db h x => ?_) h calls
  obtain ⟨c, limit, ts, -, hsound, hdoes, hs', hready⟩ :=
    h.toReady.deed (d := { x.1 with store := .embedded db }) rfl x.2
  exact ⟨_, hs', hready, hdoes.pricedLines hsound h.priced⟩

theorem Billable.reads (h : Billable db) (hread : db.tables.Reads id o) : o.ShownExactly := by
  obtain ⟨limit, hsound⟩ := h.sound
  have hfair : Store.Fair limit o.total o.items := (hsound.kept.reads hread).1.fair
  exact Order.shownExactly (h.priced.prices hread) hfair.sum

/-- **A new order** is shown exactly, and is in the store with the amounts that are shown. -/
theorem Billable.places (h : Billable db) {number : String} {t t' : Table ProductRow}
    {book : Table OrderRow} {lines : Table ItemRow} (ht : db.tables.products = some t)
    (hbook : db.tables.orders = some book) (hlines : db.tables.items = some lines)
    (hplaced : Placed limit now number items t t' book lines o) :
    o.ShownExactly ∧
      (Store.Orders.withNew { db.tables with products := some t' } book lines o).Keeps o := by
  obtain ⟨limit', ⟨t₁, ht₁, hstocked⟩, book₁, lines₁, hbook₁, hlines₁, hbooked⟩ := h.sound
  obtain rfl : t₁ = t := Option.some.inj (ht₁.symm.trans ht)
  obtain rfl : book₁ = book := Option.some.inj (hbook₁.symm.trans hbook)
  obtain rfl : lines₁ = lines := Option.some.inj (hlines₁.symm.trans hlines)
  have hid : o.id = book₁.nextId := by rw [hplaced.header]
  have hnone : Store.linesOf lines₁ book₁.nextId = [] :=
    hbooked.linesOf_eq_nil fun r hr => Int.ne_of_lt (Table.id_lt_nextId hr)
  exact ⟨Order.shownExactly (hplaced.prices hstocked) hplaced.balanced,
    Store.keeps_withNew hid hnone⟩

theorem Billable.reserved (h : Billable db) (hs : d.store = .embedded db) (hw : WellFormed items)
    (hplace : reserveAndStore items d = (.ok o, d')) :
    o.ShownExactly ∧ (tablesOf d'.store).Keeps o := by
  obtain ⟨d₁, ts, hbody, hts, hs', -⟩ :=
    transaction_commits (W := []) (placeOrder_works items) hs h.atRest hplace
  obtain ⟨t, t', book, lines, ht, hbook, hlines, hplaced, hstored⟩ :=
    placeOrder_ok (d := { d with store := .embedded (Store.inside db db.tables) }) rfl rfl hw hbody
  have htables : ts = Store.Orders.withNew { db.tables with products := some t' } book lines o :=
    congrArg Database.tables (Backend.embedded.inj (hts.symm.trans hstored))
  rw [hs', htables]
  exact h.places ht hbook hlines hplaced

theorem Billable.replayed (h : Billable db) {raw : String} {a : Summary}
    (hs : d.store = .embedded db) (hreplay : replay s raw d = (.ok a, d')) :
    ∃ o : Order, a = o.summary ∧ o.ShownExactly := by
  unfold replay at hreplay
  cases hraw : Word.parseInt? raw with
  | none =>
    rw [hraw] at hreplay
    cases hreplay
  | some id =>
    rw [hraw] at hreplay
    obtain ⟨o, d₁, hget, hrest⟩ := Action.bind_ok_iff.mp hreplay
    obtain ⟨-, b, hread, -⟩ := stored_ok_iff.mp hget
    rw [hs] at hread
    rw [Action.bind_of_ok log_apply] at hrest
    have ha : o.summary = a := Outcome.ok.inj (Prod.mk.inj hrest).1
    exact ⟨o, ha.symm, h.reads (Store.Orders.reads_iff.mp hread).2.2⟩

/-- **The answer to a creation** shows an order exactly, whether it was made now or before. -/
theorem Billable.answers (h : Billable db) {r : OrderRequest} {a : Summary}
    (hs : d.store = .embedded db) (hcreate : createOrder s r d = (.ok a, d')) :
    ∃ o : Order, a = o.summary ∧ o.ShownExactly := by
  obtain ⟨s', t, t', m, d₁, hcreated, rfl⟩ := createOrder_end hcreate
  rcases createUnmeasured_ok hcreated with ⟨raw, d₂, -, hback, hreplay⟩ |
    ⟨d₂, d₃, o, hform, hbefore, hplace, hafter⟩
  · have hlooks : Writes [] { d with tracer := t } d₂ := (lookBack_writes r).of_eq hback
    exact h.replayed (hlooks.store.trans hs) hreplay
  · obtain ⟨_, _, -, hanswer⟩ := Action.bind_ok_iff.mp hafter
    have ha : o.summary = a := Outcome.ok.inj (Prod.mk.inj hanswer).1
    exact ⟨o, ha.symm, (h.reserved (hbefore.store.trans hs) hform hplace).1⟩

/-- a move is not announced as a new order -/
theorem not_created_mem_moveNotices {before after : Order} {m : Created} :
    Notice.created m ∉ moveNotices id before after := by
  unfold moveNotices
  split <;> simp

theorem Billable.announces (h : Billable db) {broker : Event.Broker} (hs : d.store = .embedded db)
    (hheard : Heard d broker) (r : Request) :
    ∃ ns, (r.perform d).2.broker = some (broker.noting d.policy.topology ns) ∧
      ∀ m, Notice.created m ∈ ns → ∃ o : Order, m = o.created ∧ o.ShownExactly ∧
        (tablesOf (r.perform d).2.store).Keeps o := by
  obtain ⟨c, limit, ts, hdeed, -, hdoes, hs', -⟩ := h.toReady.deed hs r
  obtain ⟨ns, htells, hbroker⟩ := hdeed.told broker db hheard hs
  refine ⟨ns, hbroker, fun m hm => ?_⟩
  rw [hs']
  cases c with
  | placed o =>
    cases hdoes with
    | placed ht hbook hlines _ hplaced =>
      rw [show ns = [.created o.created] from htells] at hm
      obtain rfl : m = o.created := Notice.created.inj (List.mem_singleton.mp hm)
      exact ⟨o, rfl, h.places ht hbook hlines hplaced⟩
  | moved o =>
    obtain ⟨target, before, -, hread, -⟩ := hdoes.moved_from
    rw [show ns = moveNotices o.id before o from htells before hread] at hm
    exact absurd hm not_created_mem_moveNotices
  | idle | erased | catalog =>
    rw [show ns = [] from htells] at hm
    cases hm

theorem Billable.showsExactly (h : Billable db) : ShowsExactly (.embedded db) where
  read keep id o b' hread := h.reads (Store.Orders.reads_iff.mp hread).2.2
  listed status page p b' hfind o ho := by
    obtain ⟨limit, hsound⟩ := h.sound
    exact h.reads (Store.Orders.find_reads hsound.kept hfind o ho)
  placed _ _ _ _ hs hw hplace := h.reserved hs hw hplace
  answered _ _ _ _ _ hs hcreate := h.answers hs hcreate
  announced _ r _ hs hheard := h.announces hs hheard r

end

/-- **Amounts are shown exactly** after any calls from a new store. -/
theorem amounts_exact (calls : List (Desk × Request)) :
    ShowsExactly (after Store.fresh calls) := by
  obtain ⟨db, hfresh, hbillable⟩ := billable_fresh
  obtain ⟨db', hafter, hbillable'⟩ := hbillable.after calls
  rw [hfresh, hafter]
  exact hbillable'.showsExactly

end Desk

end OrderDesk
