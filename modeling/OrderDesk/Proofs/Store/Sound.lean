import OrderDesk.Proofs.Store.Calls
import OrderDesk.Text.Blank

/-!
# Sound tables

What the service keeps true of its tables, and the changes that keep it so. A price or a total is
kept as a text, so soundness speaks of the number that the text spells; every change writes the
text anew and has to read back as the same number.

* `Product.Sound`, `ProductRow.Sound`, `Stocked`     products;
* `Spells`                        the rows of an order spell its lines, numbered from zero on;
* `Order.Sound`, `OrderRow.Sound`, `Booked`          orders and their lines;
* `Booked.insert`, `Booked.update`, `Booked.erase`   the three changes of an order;
* `Tables.Sound`                  the whole of it.
-/

namespace OrderDesk

open OrderDesk.Action (Keeps)

/-! ## products -/

/-- An amount that a price can be: not negative, with two places at most. -/
def Decimal.IsPrice (a : Decimal) : Prop := 0 ≤ a.value ∧ ∃ k : ℤ, a.value = k / 100

/-- A name without blanks around it, not empty and of at most `limit` octets. -/
structure IsName (limit : Nat) (s : String) : Prop where
  trimmed : Text.trim s = s
  nonempty : s ≠ ""
  short : s.utf8ByteSize ≤ limit

/-- A product that the catalog can hold. -/
structure Product.Sound (p : Product) : Prop where
  name : IsName 120 p.name
  price : p.price.IsPrice
  storable : -2 ^ 31 ≤ p.price.exp
  stock : 0 ≤ p.stock

namespace Store

/-- A row that spells such a product. -/
structure ProductRow.Sound (r : ProductRow) : Prop where
  name : IsName 120 r.name
  price : ∃ a : Decimal, (Cell.text r.price).amount? = some a ∧ a.IsPrice
  stock : ∃ n : Int, r.stock = .int n ∧ 0 ≤ n

theorem price_of_text {a : Decimal} (h : a.IsPrice) (he : -2 ^ 31 ≤ a.exp) :
    ∃ b : Decimal, (Cell.text a.text).amount? = some b ∧ b.IsPrice := by
  obtain ⟨b, hb, hval, -⟩ := amount?_text he
  refine ⟨b, hb, ?_⟩
  rw [Decimal.IsPrice, hval]
  exact h

theorem ProductRow.Sound.read {r : ProductRow} {p : Product} (h : r.Sound)
    (hp : r.product? = some p) : p.Sound := by
  obtain ⟨-, hname, hprice, hstock, -, -⟩ := ProductRow.product?_eq_some_iff.mp hp
  obtain ⟨a, ha, hisPrice⟩ := h.price
  obtain ⟨n, hn, h0⟩ := h.stock
  have hpa : p.price = a := Option.some.inj (hprice.symm.trans ha)
  have hpn : p.stock = n := by
    rw [hn] at hstock
    exact (Option.some.inj hstock).symm
  refine ⟨?_, ?_, exp_of_amount? hprice, ?_⟩
  · rw [hname]
    exact h.name
  · rw [hpa]
    exact hisPrice
  · rw [hpn]
    exact h0

theorem Product.Sound.ofNew {p : Product} (h : p.Sound) (id : Int) :
    (ProductRow.ofNew p id).Sound :=
  ⟨h.name, price_of_text h.price h.storable, p.stock, rfl, h.stock⟩

theorem Product.Sound.update {p : Product} (h : p.Sound) (r : ProductRow) :
    (ProductRow.update p r).Sound :=
  ⟨h.name, price_of_text h.price h.storable, p.stock, rfl, h.stock⟩

/-- A table of sound products. -/
structure Stocked (t : Table ProductRow) : Prop where
  keyed : t.Keyed
  rows : ∀ r ∈ t.rows, r.Sound

namespace Stocked

variable {t : Table ProductRow} {p : Product}

theorem empty : Stocked {} := ⟨Table.Keyed.empty, fun _ h => nomatch h⟩

theorem insert (h : Stocked t) (hp : p.Sound) : Stocked (t.insert (ProductRow.ofNew p)) := by
  refine ⟨h.keyed.insert rfl, fun r hr => ?_⟩
  rcases List.mem_append.mp hr with hr | hr
  · exact h.rows r hr
  · rw [List.mem_singleton.mp hr]
    exact Product.Sound.ofNew hp _

theorem update (h : Stocked t) (hp : p.Sound) (id : Int) :
    Stocked (t.update id (ProductRow.update p)) := by
  refine ⟨h.keyed.update fun _ => rfl, fun r hr => ?_⟩
  obtain ⟨r₀, hr₀, ⟨-, rfl⟩ | ⟨-, rfl⟩⟩ := Table.mem_update hr
  · exact Product.Sound.update hp r₀
  · exact h.rows r hr₀

theorem erase (h : Stocked t) (q : ProductRow → Bool) : Stocked (t.erase q) :=
  ⟨h.keyed.erase, fun r hr => h.rows r (Table.mem_erase.mp hr).1⟩

end Stocked

/-! ## the lines of an order -/

/-- The rows of an order spell its lines, numbered from zero on. -/
structure Spells (t : Table ItemRow) (id : Int) (ls : List Line) : Prop where
  numbers : (linesOf t id).map ItemRow.lineNo = (List.range ls.length).map fun i : Nat => Cell.int i
  read : List.Forall₂ (fun r l => ItemRow.line? r = some l) (linesOf t id) ls

theorem numbers_lineRows (orderId : Int) (i : Nat) (id : Int) (ls : List Line) :
    (lineRows orderId i id ls).map ItemRow.lineNo
      = (List.range' i ls.length).map fun k : Nat => Cell.int k := by
  induction ls generalizing i id with
  | nil => rfl
  | cons l ls ih =>
    rw [lineRows, List.map_cons, ih, List.length_cons, List.range'_succ, List.map_cons]
    rfl

theorem Spells.pairwise {t : Table ItemRow} {id : Int} {ls : List Line} (h : Spells t id ls) :
    (linesOf t id).Pairwise fun a b => a.before b = true := by
  have hlt : ((linesOf t id).map ItemRow.lineNo).Pairwise fun a b => a.before b = true := by
    rw [h.numbers, List.pairwise_map]
    refine List.pairwise_lt_range.imp fun {i j} hij => ?_
    rw [Cell.before_int, decide_eq_true_iff]
    omega
  rw [List.pairwise_map] at hlt
  refine hlt.imp_of_mem fun {a b} ha hb hab => ?_
  have hsame : ∀ r ∈ linesOf t id, r.orderId = .int id := by
    intro r hr
    simpa using (List.mem_filter.mp hr).2
  rw [ItemRow.before, if_pos (by rw [hsame a ha, hsame b hb])]
  exact hab

theorem Spells.sorted {t : Table ItemRow} {id : Int} {ls : List Line} (h : Spells t id ls) :
    (linesOf t id).mergeSort ItemRow.before = linesOf t id := List.mergeSort_of_pairwise h.pairwise

theorem Spells.unique {t : Table ItemRow} {id : Int} {ls ls' : List Line} (h : Spells t id ls)
    (h' : List.Forall₂ (fun r l => ItemRow.line? r = some l) (linesOf t id) ls') : ls' = ls := by
  have hread := h.read
  clear h
  generalize linesOf t id = rows at hread h'
  induction hread generalizing ls' with
  | nil =>
    cases h'
    rfl
  | cons hl _ ih =>
    cases h' with
    | cons hl' hrest =>
      rw [ih hrest, Option.some.inj (hl'.symm.trans hl)]

/-- a price that was read has a text that reads back -/
theorem prices_of_spelled {rows : List ItemRow} {ls : List Line}
    (h : List.Forall₂ (fun r l => ItemRow.line? r = some l) rows ls) :
    ∀ l ∈ ls, -2 ^ 31 ≤ l.unitPrice.exp := by
  intro l hl
  obtain ⟨r, -, hr⟩ := exists_of_mem_forall₂ h hl
  exact exp_of_amount? (ItemRow.line?_eq_some_iff.mp hr).2.2.2

/-- stored lines are spelled, but for the spelling of their prices -/
theorem spells_of_lineRows {t : Table ItemRow} {id first : Int} {ls : List Line}
    (hp : ∀ l ∈ ls, -2 ^ 31 ≤ l.unitPrice.exp) (ht : linesOf t id = lineRows id 0 first ls) :
    ∃ ls', List.Forall₂ Line.Alike ls' ls ∧ Spells t id ls' := by
  obtain ⟨ls', halike, hread⟩ := Orders.lineRows_read id hp 0 first
  have hlen : ls'.length = ls.length := halike.length_eq
  refine ⟨ls', halike, ⟨?_, by rw [ht]; exact hread⟩⟩
  rw [ht, numbers_lineRows, hlen, List.range_eq_range']

/-! ## orders -/

/-- What an order can be worth: lines of at least one unit each, with their sum as the total, which
is within the limit. -/
structure Fair (limit total : Decimal) (ls : List Line) : Prop where
  nonempty : ls ≠ []
  quantities : ∀ l ∈ ls, 1 ≤ l.quantity
  sum : total.value = (ls.map Line.cost).sum
  affordable : total.value ≤ limit.value

theorem Fair.congr {limit total total' : Decimal} {ls ls' : List Line} (h : Fair limit total ls)
    (ht : total'.value = total.value) (hl : List.Forall₂ Line.Alike ls' ls) :
    Fair limit total' ls' where
  nonempty := by
    rintro rfl
    cases hl
    exact h.nonempty rfl
  quantities l' hl' := by
    obtain ⟨l, hmem, halike⟩ := exists_of_mem_forall₂ hl.flip hl'
    rw [halike.quantity]
    exact h.quantities l hmem
  sum := by rw [ht, h.sum, Line.costs_of_alike hl]
  affordable := ht ▸ h.affordable

theorem Fair.mono {limit limit' total : Decimal} {ls : List Line} (h : Fair limit total ls)
    (hle : limit.value ≤ limit'.value) : Fair limit' total ls :=
  ⟨h.nonempty, h.quantities, h.sum, h.affordable.trans hle⟩

end Store

/-- An order that the store can hold. -/
structure Order.Sound (limit : Decimal) (o : Order) : Prop where
  status : o.status.Live
  number : o.number ≠ ""
  fair : Store.Fair limit o.total o.items
  storable : o.Storable

namespace Store

/-- A row that spells such an order together with the rows of its lines. -/
structure OrderRow.Sound (limit : Decimal) (lines : Table ItemRow) (r : OrderRow) : Prop where
  status : (⟨r.status⟩ : Status).Live
  number : ∃ s, s ≠ "" ∧ r.number = some s
  spelled : ∃ total ls, (Cell.text r.total).amount? = some total ∧ Spells lines r.id ls ∧
    Fair limit total ls

section
variable {limit : Decimal} {book : Table OrderRow} {lines lines' : Table ItemRow} {r : OrderRow}
  {o : Order}

theorem storedNumber_eq {s : String} (h : s ≠ "") : Orders.storedNumber s = some s := if_neg h

/-- a row is as sound as before while its lines are as they were -/
theorem OrderRow.Sound.frame (h : r.Sound limit lines)
    (hsame : linesOf lines' r.id = linesOf lines r.id) : r.Sound limit lines' := by
  obtain ⟨total, ls, htotal, hspells, hfair⟩ := h.spelled
  refine ⟨h.status, h.number, total, ls, htotal, ⟨?_, ?_⟩, hfair⟩
  · rw [hsame]
    exact hspells.numbers
  · rw [hsame]
    exact hspells.read

theorem OrderRow.Sound.of_order (first : Int) (h : o.Sound limit) (hs : r.status = o.status.name)
    (hn : r.number = Orders.storedNumber o.number) (ht : r.total = o.total.text)
    (hl : linesOf lines r.id = lineRows r.id 0 first o.items) : r.Sound limit lines := by
  obtain ⟨total, htotal, hval, -⟩ := amount?_text h.storable.total
  obtain ⟨ls, halike, hspells⟩ := spells_of_lineRows h.storable.prices hl
  refine ⟨?_, ⟨o.number, h.number, ?_⟩, total, ls, ?_, hspells, h.fair.congr hval halike⟩
  · rw [hs]
    exact h.status
  · rw [hn, storedNumber_eq h.number]
  · rw [ht]
    exact htotal

theorem OrderRow.Sound.read {o₀ : Order} {ls : List Line} (h : r.Sound limit lines)
    (ho : r.order? = some o₀)
    (hl : List.Forall₂ (fun r l => ItemRow.line? r = some l)
      ((linesOf lines r.id).mergeSort ItemRow.before) ls) :
    ({ o₀ with lines := some ls } : Order).Sound limit := by
  obtain ⟨total, ls', htotal, hspells, hfair⟩ := h.spelled
  obtain ⟨-, hnumber, hstatus, hot, -, -, -⟩ := OrderRow.order?_eq_some_iff.mp ho
  obtain ⟨s, hne, hs⟩ := h.number
  rw [hspells.sorted] at hl
  have hls : ls = ls' := hspells.unique hl
  have hot' : o₀.total = total := Option.some.inj (hot.symm.trans htotal)
  refine ⟨?_, ?_, ?_, ⟨exp_of_amount? hot, prices_of_spelled hl⟩⟩
  · have hst : o₀.status = ⟨r.status⟩ := by rw [← hstatus]
    show o₀.status.Live
    rw [hst]
    exact h.status
  · show o₀.number ≠ ""
    rw [hnumber, hs]
    exact hne
  · show Fair limit o₀.total ls
    rw [hot', hls]
    exact hfair

/-- Tables of sound orders and their lines: no number twice, and no line without its order. -/
structure Booked (limit : Decimal) (book : Table OrderRow) (lines : Table ItemRow) : Prop where
  keyed : book.Keyed
  numbers : (book.rows.map OrderRow.number).Nodup
  orders : ∀ r ∈ book.rows, r.Sound limit lines
  owned : ∀ row ∈ lines.rows, ∃ r ∈ book.rows, row.orderId = .int r.id

namespace Booked

theorem of_no_rows (hbook : book.rows = []) (hlines : lines.rows = []) (hcounter : 0 ≤ book.lastId) :
    Booked limit book lines := by
  refine ⟨⟨?_, ?_, hcounter⟩, ?_, ?_, ?_⟩ <;> simp [hbook, hlines]

theorem empty (limit : Decimal) : Booked limit {} {} := of_no_rows rfl rfl (Int.le_refl 0)

theorem linesOf_eq_nil {id : Int} (h : Booked limit book lines) (hid : ∀ r ∈ book.rows, r.id ≠ id) :
    linesOf lines id = [] := by
  rw [linesOf, List.filter_eq_nil_iff]
  intro row hrow hname
  obtain ⟨r, hr, hown⟩ := h.owned row hrow
  have hname : row.orderId = .int id := by simpa using hname
  rw [hown] at hname
  exact hid r hr (Cell.int.inj hname)

/-- **A new order** with a number of its own. -/
theorem insert (h : Booked limit book lines) (ho : o.Sound limit)
    (hnew : ∀ r ∈ book.rows, r.number ≠ some o.number) :
    Booked limit (book.insert (OrderRow.ofNew o))
      (appendLines book.nextId 0 lines o.items) := by
  have hfresh : ∀ r ∈ book.rows, r.id ≠ book.nextId :=
    fun r hr => Int.ne_of_lt (Table.id_lt_nextId hr)
  have hnumber : (OrderRow.ofNew o book.nextId).number = some o.number := storedNumber_eq ho.number
  refine ⟨h.keyed.insert rfl, ?_, fun r hr => ?_, fun row hrow => ?_⟩
  · show ((book.rows ++ [OrderRow.ofNew o book.nextId]).map OrderRow.number).Nodup
    rw [List.map_append, List.map_singleton, hnumber, List.nodup_append]
    refine ⟨h.numbers, List.nodup_singleton _, ?_⟩
    intro a ha b hb
    obtain ⟨r, hr, rfl⟩ := List.mem_map.mp ha
    rw [List.mem_singleton.mp hb]
    exact hnew r hr
  · rcases List.mem_append.mp hr with hr | hr
    · exact (h.orders r hr).frame (linesOf_appendLines_ne (hfresh r hr) 0 lines o.items)
    · rw [List.mem_singleton.mp hr]
      refine .of_order lines.nextId ho rfl rfl rfl ?_
      show linesOf (appendLines book.nextId 0 lines o.items) book.nextId = _
      rw [linesOf_appendLines, h.linesOf_eq_nil hfresh, List.nil_append]
      rfl
  · rw [rows_appendLines] at hrow
    rcases List.mem_append.mp hrow with hrow | hrow
    · obtain ⟨r, hr, hown⟩ := h.owned row hrow
      exact ⟨r, List.mem_append_left _ hr, hown⟩
    · exact ⟨_, List.mem_append_right _ List.mem_cons_self, orderId_of_mem_lineRows hrow⟩

/-- The one row with an id has the number that is written in its place. -/
theorem numbers_update (h : Booked limit book lines) (ho : o.Sound limit)
    (hr : book.get? o.id = some r) (hn : r.number = some o.number) :
    (book.update o.id (OrderRow.update o)).rows.map OrderRow.number
      = book.rows.map OrderRow.number := by
  show (book.rows.map _).map _ = _
  rw [List.map_map]
  apply List.map_congr_left
  intro x hx
  show OrderRow.number (if HasId.id x == o.id then _ else x) = x.number
  by_cases hid : HasId.id x = o.id
  · obtain ⟨hmem, hrid⟩ := Table.get?_some hr
    have hxr : x = r := List.inj_on_of_nodup_map h.keyed.unique hx hmem (hid.trans hrid.symm)
    rw [if_pos (by simpa using hid), hxr, hn]
    exact storedNumber_eq ho.number
  · rw [if_neg (by simpa using hid)]

/-- **A change of an order** that keeps its number: its lines are removed and written anew. -/
theorem update (h : Booked limit book lines) (ho : o.Sound limit) (hr : book.get? o.id = some r)
    (hn : r.number = some o.number) :
    Booked limit (book.update o.id (OrderRow.update o))
      (appendLines o.id 0 (lines.erase (·.orderId == .int o.id)) o.items) := by
  have hkeep : ∀ r : OrderRow, HasId.id (OrderRow.update o r) = HasId.id r := fun _ => rfl
  have hids : (book.update o.id (OrderRow.update o)).rows.map HasId.id
      = book.rows.map HasId.id := Table.ids_update hkeep
  have hthere : ∀ x ∈ book.rows, ∃ x' ∈ (book.update o.id (OrderRow.update o)).rows,
      x'.id = x.id := by
    intro x hx
    have hmem : HasId.id x ∈ (book.update o.id (OrderRow.update o)).rows.map HasId.id := by
      rw [hids]
      exact List.mem_map_of_mem hx
    obtain ⟨x', hx', he⟩ := List.mem_map.mp hmem
    exact ⟨x', hx', he⟩
  refine ⟨h.keyed.update hkeep, ?_, fun x hx => ?_, fun row hrow => ?_⟩
  · rw [h.numbers_update ho hr hn]
    exact h.numbers
  · obtain ⟨x₀, hx₀, ⟨hid, rfl⟩ | ⟨hid, rfl⟩⟩ := Table.mem_update hx
    · have hid : x₀.id = o.id := hid
      refine .of_order (lines.erase (·.orderId == .int o.id)).nextId ho rfl rfl rfl ?_
      show linesOf _ x₀.id = lineRows x₀.id 0 _ o.items
      rw [hid, linesOf_appendLines, linesOf_erase, List.nil_append]
    · have hne : x.id ≠ o.id := hid
      refine (h.orders x hx₀).frame ?_
      rw [linesOf_appendLines_ne hne, linesOf_erase_ne hne]
  · rw [rows_appendLines] at hrow
    rcases List.mem_append.mp hrow with hrow | hrow
    · obtain ⟨x, hx, hown⟩ := h.owned row (Table.mem_erase.mp hrow).1
      obtain ⟨x', hx', he⟩ := hthere x hx
      exact ⟨x', hx', by rw [he]; exact hown⟩
    · obtain ⟨hmem, hid⟩ := Table.get?_some hr
      obtain ⟨x', hx', he⟩ := hthere r hmem
      refine ⟨x', hx', ?_⟩
      rw [orderId_of_mem_lineRows hrow, he]
      exact congrArg Cell.int hid.symm

/-- **The removal of an order** and its lines. -/
theorem erase (h : Booked limit book lines) (id : Int) :
    Booked limit (book.erase (·.id == id)) (lines.erase (·.orderId == .int id)) := by
  refine ⟨h.keyed.erase, ?_, fun r hr => ?_, fun row hrow => ?_⟩
  · exact h.numbers.sublist (List.filter_sublist.map _)
  · obtain ⟨hr, hne⟩ := Table.mem_erase.mp hr
    have hne : r.id ≠ id := by simpa using hne
    exact (h.orders r hr).frame (linesOf_erase_ne hne lines)
  · obtain ⟨hrow, hne⟩ := Table.mem_erase.mp hrow
    obtain ⟨r, hr, hown⟩ := h.owned row hrow
    refine ⟨r, Table.mem_erase.mpr ⟨hr, ?_⟩, hown⟩
    rw [hown] at hne
    simpa using hne

end Booked

/-- What the service keeps true of its tables. -/
structure Tables.Sound (limit : Decimal) (ts : Tables) : Prop where
  products : ∃ t, ts.products = some t ∧ Stocked t
  orders : ∃ book lines, ts.orders = some book ∧ ts.items = some lines ∧ Booked limit book lines

/-- What the service keeps true of its orders, whatever rows its products have. -/
structure Tables.Kept (limit : Decimal) (ts : Tables) : Prop where
  products : ∀ t, ts.products = some t → t.Keyed
  orders : ∃ book lines, ts.orders = some book ∧ ts.items = some lines ∧ Booked limit book lines

theorem Tables.Sound.kept {ts : Tables} (h : ts.Sound limit) : ts.Kept limit where
  products t ht := by
    obtain ⟨t₁, ht₁, hstocked⟩ := h.products
    obtain rfl : t₁ = t := Option.some.inj (ht₁.symm.trans ht)
    exact hstocked.keyed
  orders := h.orders

theorem Tables.Kept.mono {limit' : Decimal} {ts : Tables} (h : ts.Kept limit)
    (hle : limit.value ≤ limit'.value) : ts.Kept limit' := by
  obtain ⟨book, lines, hbook, hlines, hbooked⟩ := h.orders
  refine ⟨h.products, book, lines, hbook, hlines, hbooked.keyed, hbooked.numbers, ?_, hbooked.owned⟩
  intro r hr
  obtain ⟨hstatus, hnumber, total, ls, htotal, hspells, hfair⟩ := hbooked.orders r hr
  exact ⟨hstatus, hnumber, total, ls, htotal, hspells, hfair.mono hle⟩

theorem Tables.Sound.mono {limit' : Decimal} {ts : Tables} (h : ts.Sound limit)
    (hle : limit.value ≤ limit'.value) : ts.Sound limit' :=
  ⟨h.products, (h.kept.mono hle).orders⟩

/-- what such tables spell is a sound order, with its row -/
theorem Tables.Kept.reads {ts : Tables} {id : Int} (h : ts.Kept limit) (hread : ts.Reads id o) :
    o.Sound limit ∧ o.id = id ∧ 0 < id ∧ ∃ book lines r, ts.orders = some book ∧
      ts.items = some lines ∧ Booked limit book lines ∧ book.get? id = some r ∧
      r.number = some o.number := by
  obtain ⟨book, lines, r, o₀, ls, hbook, hlines, hget, ho, hread, rfl⟩ := hread
  obtain ⟨book₁, lines₁, hbook₁, hlines₁, hbooked⟩ := h.orders
  obtain rfl : book₁ = book := Option.some.inj (hbook₁.symm.trans hbook)
  obtain rfl : lines₁ = lines := Option.some.inj (hlines₁.symm.trans hlines)
  obtain ⟨hmem, hid⟩ := Table.get?_some hget
  have hid : r.id = id := hid
  have hr : r.Sound limit lines₁ := hbooked.orders r hmem
  obtain ⟨hoid, hnumber, -⟩ := OrderRow.order?_eq_some_iff.mp ho
  obtain ⟨n, -, hn⟩ := hr.number
  refine ⟨hr.read ho (hid ▸ hread), hoid.trans hid, ?_, book₁, lines₁, r, hbook, hlines, hbooked,
    hget, ?_⟩
  · rw [← hid]
    exact hbooked.keyed.positive r hmem
  · show r.number = some o₀.number
    rw [hnumber, hn]
    rfl

theorem Tables.Kept.product_pos {ts : Tables} {t : Table ProductRow} {id : Int}
    (h : ts.Kept limit) (ht : ts.products = some t) {row : ProductRow}
    (hget : t.get? id = some row) : 0 < id := by
  obtain ⟨hmem, rfl⟩ := Table.get?_some hget
  exact (h.products t ht).positive row hmem

end

end Store

end OrderDesk
