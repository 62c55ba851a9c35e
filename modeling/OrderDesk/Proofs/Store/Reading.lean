import OrderDesk.Proofs.Store.Sound

/-!
# What is read after a change

An order that was written is read as it was written, but for the spelling of its amounts, and every
other order is read as before. An id that was given out is never given out again.

* `Tables.Reads.unique`             an order is read in one way;
* `Tables.Reads.length_items`       with a line for every row that names it;
* `reads_withNew_ne`, `reads_withChanged_ne`, `reads_erased_ne`      the other orders;
* `reads_withNew`, `reads_withChanged`      the order that was written;
* `Tables.Lacks`, `Tables.Gone`     there is no such order; it is not there any more;
* `Orders.read_lacks`               what reading such an order ends in;
* `Tables.Penned`                   every amount was written by the service;
* `Tables.Penned.canonical`         an order is read with amounts in their own spelling.
-/

namespace OrderDesk.Store

section
variable {ts ts' : Tables} {book book' : Table OrderRow} {lines lines' : Table ItemRow}
  {o o' : Order} {id j : Int}

theorem Tables.Reads.unique (h : ts.Reads id o) (h' : ts.Reads id o') : o = o' := by
  have hread : Orders.get id (.embedded { tables := ts }) = (.ok o, .embedded { tables := ts }) :=
    Orders.reads_iff.mpr ⟨rfl, rfl, h⟩
  have hread' : Orders.get id (.embedded { tables := ts }) = (.ok o', .embedded { tables := ts }) :=
    Orders.reads_iff.mpr ⟨rfl, rfl, h'⟩
  rw [hread] at hread'
  exact Outcome.ok.inj (congrArg Prod.fst hread')

/-- an order has as many lines as there are rows that name it -/
theorem Tables.Reads.length_items (h : ts.Reads id o) :
    ts.items.map (fun lines => (linesOf lines id).length) = some o.items.length := by
  obtain ⟨book, lines, r, o₀, ls, -, hlines, -, -, hread, rfl⟩ := h
  rw [hlines]
  exact congrArg some ((List.length_mergeSort _).symm.trans hread.length_eq)

theorem Tables.Reads.status_name (h : ts.Reads id o) :
    (ts.orders.bind (·.get? id)).map OrderRow.status = some o.status.name := by
  obtain ⟨book, lines, r, o₀, ls, hbook, -, hget, ho, -, rfl⟩ := h
  rw [hbook, Option.bind_some, hget, Option.map_some, (OrderRow.order?_eq_some_iff.mp ho).2.2.1]

/-- reading an order depends on its row and on the rows of its lines -/
theorem reads_congr (hbook : ts.orders = some book) (hlines : ts.items = some lines)
    (hbook' : ts'.orders = some book') (hlines' : ts'.items = some lines')
    (hrow : book'.get? id = book.get? id) (hsame : linesOf lines' id = linesOf lines id) :
    ts'.Reads id o ↔ ts.Reads id o := by
  unfold Tables.Reads
  simp only [hbook, hlines, hbook', hlines', Option.some.injEq]
  constructor
  · rintro ⟨_, _, r, o₀, ls, rfl, rfl, hget, ho, hread, rfl⟩
    exact ⟨_, _, r, o₀, ls, rfl, rfl, hrow ▸ hget, ho, hsame ▸ hread, rfl⟩
  · rintro ⟨_, _, r, o₀, ls, rfl, rfl, hget, ho, hread, rfl⟩
    exact ⟨_, _, r, o₀, ls, rfl, rfl, hrow ▸ hget, ho, hsame.symm ▸ hread, rfl⟩

/-! ## the other orders -/

theorem reads_withNew_ne (hbook : ts.orders = some book) (hlines : ts.items = some lines)
    (hne : j ≠ book.nextId) {products : Option (Table ProductRow)} :
    (Orders.withNew { ts with products } book lines o).Reads j o' ↔ ts.Reads j o' :=
  reads_congr hbook hlines rfl rfl (Table.get?_insert_ne rfl hne) (linesOf_appendLines_ne hne _ _ _)

theorem reads_withChanged_ne (hbook : ts.orders = some book) (hlines : ts.items = some lines)
    (hne : j ≠ o.id) : (Orders.withChanged ts book lines o).Reads j o' ↔ ts.Reads j o' := by
  refine reads_congr hbook hlines rfl rfl (Table.get?_update_ne (fun _ => rfl) hne) ?_
  rw [linesOf_appendLines_ne hne, linesOf_erase_ne hne]

theorem reads_erased_ne (hbook : ts.orders = some book) (hlines : ts.items = some lines)
    (hne : j ≠ id) :
    ({ ts with
      orders := some (book.erase (·.id == id)),
      items := some (lines.erase (·.orderId == .int id)) } : Tables).Reads j o' ↔ ts.Reads j o' :=
  reads_congr hbook hlines rfl rfl (Table.get?_erase_ne hne) (linesOf_erase_ne hne lines)

/-! ## the order that was written -/

/-- an order is read from a row and rows of lines that spell it -/
theorem reads_written {row : OrderRow} {amount : Decimal} {first : Int}
    (hbook : ts.orders = some book) (hlines : ts.items = some lines)
    (hget : book.get? o.id = some row) (hval : amount.value = o.total.value)
    (hrow : row.order? = some { o with total := amount, lines := some [] }) (hstor : o.Storable)
    (hrows : linesOf lines o.id = lineRows o.id 0 first o.items) :
    ∃ (total : Decimal) (ls : List Line), total.value = o.total.value ∧
      List.Forall₂ Line.Alike ls o.items ∧ ts.Reads o.id { o with total, lines := some ls } := by
  obtain ⟨ls, halike, hread⟩ := Orders.lineRows_read o.id hstor.prices 0 first
  refine ⟨amount, ls, hval, halike, book, lines, row, _, ls, hbook, hlines, hget, hrow, ?_, rfl⟩
  rw [hrows, List.mergeSort_of_pairwise (lineRows_sorted o.id 0 first o.items)]
  exact hread

theorem reads_withNew (hid : o.id = book.nextId) (hstor : o.Storable)
    (hc : (stored (.time o.createdAt)).time? = some o.createdAt)
    (hu : (stored (.time o.updatedAt)).time? = some o.updatedAt)
    (hnone : linesOf lines book.nextId = []) :
    ∃ (total : Decimal) (ls : List Line), total.value = o.total.value ∧
      List.Forall₂ Line.Alike ls o.items ∧
      (Orders.withNew ts book lines o).Reads o.id { o with total, lines := some ls } := by
  obtain ⟨amount, hval, hrow⟩ := Orders.order?_ofNew book.nextId hstor hc hu
  have hget : (book.insert (OrderRow.ofNew o)).get? book.nextId = some (OrderRow.ofNew o book.nextId) :=
    Table.get?_insert_new rfl
  have hrows : linesOf (appendLines book.nextId 0 lines o.items) o.id
      = lineRows o.id 0 lines.nextId o.items := by
    rw [hid, linesOf_appendLines, hnone, List.nil_append]
  rw [← hid] at hget hrow
  exact reads_written rfl rfl hget hval hrow hstor hrows

theorem reads_withChanged {row : OrderRow} (hget : book.get? o.id = some row) (hstor : o.Storable)
    (hc : (stored row.createdAt).time? = some o.createdAt)
    (hu : (stored (.time o.updatedAt)).time? = some o.updatedAt) :
    ∃ (total : Decimal) (ls : List Line), total.value = o.total.value ∧
      List.Forall₂ Line.Alike ls o.items ∧
      (Orders.withChanged ts book lines o).Reads o.id { o with total, lines := some ls } := by
  obtain ⟨amount, hval, hrow⟩ := Orders.order?_update (Table.get?_some hget).2 hstor hc hu
  have hkeep : ∀ r, HasId.id (OrderRow.update o r) = HasId.id r := fun _ => rfl
  have hget' : (book.update o.id (OrderRow.update o)).get? o.id = some (OrderRow.update o row) := by
    rw [Table.get?_update hkeep, if_pos rfl, hget]
    rfl
  have hrows : linesOf (appendLines o.id 0 (lines.erase (·.orderId == .int o.id)) o.items) o.id
      = lineRows o.id 0 (lines.erase (·.orderId == .int o.id)).nextId o.items := by
    rw [linesOf_appendLines, linesOf_erase, List.nil_append]
  exact reads_written rfl rfl hget' hval hrow hstor hrows

/-! ## orders that are not there -/

/-- There is no order with this id. -/
def Tables.Lacks (ts : Tables) (id : Int) : Prop :=
  ∃ book, ts.orders = some book ∧ book.get? id = none

/-- The id was given out, and its order is not there any more. -/
def Tables.Gone (ts : Tables) (id : Int) : Prop :=
  ∃ book, ts.orders = some book ∧ book.get? id = none ∧ id ≤ book.lastId

theorem Tables.Gone.lacks (h : ts.Gone id) : ts.Lacks id := by
  obtain ⟨book, hbook, hnone, -⟩ := h
  exact ⟨book, hbook, hnone⟩

theorem Tables.Lacks.not_reads (h : ts.Lacks id) : ¬ ts.Reads id o := by
  obtain ⟨book, hbook, hnone⟩ := h
  rintro ⟨book', lines, r, o₀, ls, hbook', -, hget, -⟩
  obtain rfl : book = book' := Option.some.inj (hbook.symm.trans hbook')
  rw [hnone] at hget
  cases hget

theorem Orders.read_lacks {db : Database} (keep : Bool) (hclosed : db.closed = false)
    (h : db.tables.Lacks id) :
    Orders.read keep id (.embedded db) = (.failed (.cause (missing id)), .embedded db) := by
  obtain ⟨book, hbook, hnone⟩ := h
  have hrow : readOne ("get order " ++ toString id) (missing id) scan (.selectOrder id keep)
      (.embedded db) = (.failed (.cause (missing id)), .embedded db) :=
    readRow_missing (answer_orders rfl) (fun _ => rfl) (fun t ht => by rw [← ht]) hclosed hbook hnone
  unfold Orders.read
  exact Action.bind_of_failed hrow

theorem Orders.get_lacks {db : Database} (hclosed : db.closed = false) (h : db.tables.Lacks id) :
    Orders.get id (.embedded db) = (.failed (.cause (missing id)), .embedded db) :=
  Orders.read_lacks false hclosed h

end

/-! ## the spelling of amounts -/

/-- A text that the service writes for an amount. -/
def Penned (s : String) : Prop := ∃ a : Decimal, -2 ^ 31 ≤ a.exp ∧ s = a.text

theorem text_of_penned {s : String} {a : Decimal} (h : Penned s)
    (ha : (Cell.text s).amount? = some a) : a.text = s := by
  obtain ⟨b, hb, rfl⟩ := h
  obtain ⟨c, hc, hval, -⟩ := amount?_text hb
  obtain rfl : c = a := Option.some.inj (hc.symm.trans ha)
  exact Decimal.text_congr hval

/-- An order with lines, whose amounts are spelled as they are read. -/
structure Canonical (o : Order) : Prop where
  total : (Cell.text o.total.text).amount? = some o.total
  prices : ∀ l ∈ o.items, (Cell.text l.unitPrice.text).amount? = some l.unitPrice
  hasLines : o.lines.isSome

theorem eq_of_spelled {a b : Decimal} (ha : (Cell.text a.text).amount? = some a)
    (hb : (Cell.text b.text).amount? = some b) (h : a.value = b.value) : a = b := by
  rw [Decimal.text_congr h] at ha
  exact Option.some.inj (ha.symm.trans hb)

theorem lines_eq_of_spelled {ls ls' : List Line} (h : List.Forall₂ Line.Alike ls ls')
    (hp : ∀ l ∈ ls, (Cell.text l.unitPrice.text).amount? = some l.unitPrice)
    (hp' : ∀ l ∈ ls', (Cell.text l.unitPrice.text).amount? = some l.unitPrice) : ls = ls' := by
  induction h with
  | nil => rfl
  | @cons l l' ls ls' hl _ ih =>
    have hprice : l.unitPrice = l'.unitPrice :=
      eq_of_spelled (hp l List.mem_cons_self) (hp' l' List.mem_cons_self) hl.price
    have hline : l = l' := by
      cases l
      cases l'
      exact (Line.mk.injEq ..).mpr ⟨hl.productId, hl.productName, hl.quantity, hprice⟩
    rw [hline, ih (fun x hx => hp x (List.mem_cons_of_mem _ hx))
      fun x hx => hp' x (List.mem_cons_of_mem _ hx)]

/-- **Alike orders in such a spelling are the same.** -/
theorem Canonical.eq_of_alike {o o' : Order} (h : Canonical o) (h' : Canonical o')
    (ha : o.Alike o') : o = o' := by
  have hitems : o.items = o'.items := lines_eq_of_spelled ha.items h.prices h'.prices
  have htotal : o.total = o'.total := eq_of_spelled h.total h'.total ha.total
  obtain ⟨ls, hls⟩ := Option.isSome_iff_exists.mp h.hasLines
  obtain ⟨ls', hls'⟩ := Option.isSome_iff_exists.mp h'.hasLines
  have hlines : o.lines = o'.lines := by
    unfold Order.items at hitems
    rw [hls, hls'] at hitems ⊢
    exact congrArg some hitems
  cases o
  cases o'
  exact (Order.mk.injEq ..).mpr
    ⟨ha.id, ha.number, ha.status, htotal, hlines, ha.createdAt, ha.updatedAt⟩

/-- Every amount of the orders and of their lines was written by the service. -/
structure Tables.Penned (ts : Tables) : Prop where
  totals : ∀ book, ts.orders = some book → ∀ row ∈ book.rows, Store.Penned row.total
  prices : ∀ lines, ts.items = some lines → ∀ row ∈ lines.rows, Store.Penned row.unitPrice

section
variable {ts : Tables} {book : Table OrderRow} {lines : Table ItemRow} {o : Order} {id : Int}

theorem Tables.Penned.canonical (h : ts.Penned) (hread : ts.Reads id o) : Canonical o := by
  obtain ⟨book, lines, row, o₀, ls, hbook, hlines, hget, ho, hls, rfl⟩ := hread
  obtain ⟨-, -, -, htotal, -⟩ := OrderRow.order?_eq_some_iff.mp ho
  refine ⟨?_, fun l hl => ?_, rfl⟩
  · rw [text_of_penned (h.totals book hbook row (Table.get?_some hget).1) htotal]
    exact htotal
  · obtain ⟨r, hr, hline⟩ := exists_of_mem_forall₂ hls hl
    obtain ⟨-, -, -, hprice⟩ := ItemRow.line?_eq_some_iff.mp hline
    have hmem : r ∈ lines.rows := (List.mem_filter.mp (List.mem_mergeSort.mp hr)).1
    rw [text_of_penned (h.prices lines hlines r hmem) hprice]
    exact hprice

theorem penned_appendLines {i : Nat} (h : ∀ row ∈ lines.rows, Penned row.unitPrice)
    (hstor : o.Storable) : ∀ row ∈ (appendLines id i lines o.items).rows, Penned row.unitPrice := by
  intro row hrow
  rw [rows_appendLines] at hrow
  rcases List.mem_append.mp hrow with hrow | hrow
  · exact h row hrow
  · obtain ⟨l, hl, k, n, rfl⟩ := exists_of_mem_lineRows hrow
    exact ⟨l.unitPrice, hstor.prices l hl, rfl⟩

theorem Tables.Penned.withNew (h : ts.Penned) (hbook : ts.orders = some book)
    (hlines : ts.items = some lines) (hstor : o.Storable) {products : Option (Table ProductRow)} :
    (Orders.withNew { ts with products } book lines o).Penned := by
  refine ⟨fun book' h' row hrow => ?_, fun lines' h' => ?_⟩
  · rw [← Option.some.inj h'] at hrow
    rcases List.mem_append.mp hrow with hrow | hrow
    · exact h.totals book hbook row hrow
    · rw [List.mem_singleton.mp hrow]
      exact ⟨o.total, hstor.total, rfl⟩
  · rw [← Option.some.inj h']
    exact penned_appendLines (h.prices lines hlines) hstor

theorem Tables.Penned.withChanged (h : ts.Penned) (hbook : ts.orders = some book)
    (hlines : ts.items = some lines) (hstor : o.Storable) :
    (Orders.withChanged ts book lines o).Penned := by
  refine ⟨fun book' h' row hrow => ?_, fun lines' h' => ?_⟩
  · rw [← Option.some.inj h'] at hrow
    obtain ⟨row₀, hrow₀, ⟨-, rfl⟩ | ⟨-, rfl⟩⟩ := Table.mem_update hrow
    · exact ⟨o.total, hstor.total, rfl⟩
    · exact h.totals book hbook row hrow₀
  · rw [← Option.some.inj h']
    exact penned_appendLines
      (fun row hrow => h.prices lines hlines row (Table.mem_erase.mp hrow).1) hstor

theorem Tables.Penned.erased (h : ts.Penned) (hbook : ts.orders = some book)
    (hlines : ts.items = some lines) : ({ ts with
      orders := some (book.erase (·.id == id)),
      items := some (lines.erase (·.orderId == .int id)) } : Tables).Penned := by
  refine ⟨fun book' h' row hrow => ?_, fun lines' h' row hrow => ?_⟩
  · rw [← Option.some.inj h'] at hrow
    exact h.totals book hbook row (Table.mem_erase.mp hrow).1
  · rw [← Option.some.inj h'] at hrow
    exact h.prices lines hlines row (Table.mem_erase.mp hrow).1

end

end OrderDesk.Store
