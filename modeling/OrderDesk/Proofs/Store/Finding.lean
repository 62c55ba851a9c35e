import OrderDesk.Proofs.Store.Reading
import Mathlib.Data.Prod.Lex

/-!
# Pages of orders

The rows of all lines of a page are read at once, sorted by the order that they name and by their
numbers, and then handed to the orders of the page. So a page shows every order as it is read alone.

* `Booked.numbered`         every row of a line names an order, and has a number;
* `Spells.among`            the rows of one order, among the sorted rows of several;
* `Orders.attach_eq_map`    the lines that each order of a page gets;
* `Orders.loadLines_reads`  the orders of some rows are as they are read by their ids;
* `Orders.find_rows`        what a page is made of, whatever rows there are;
* `Orders.find_ok`          what a page shows;
* `Orders.find_reads`, `Orders.find_lists`     each order as it is read by its id, and all of them.
-/

namespace OrderDesk.Store

section
variable {limit : Decimal} {book : Table OrderRow} {lines : Table ItemRow} {id : Int}
  {ls : List Line}

/-! ## sorted rows -/

/-- A row of a line that names an order and has a number. -/
def ItemRow.Numbered (r : ItemRow) : Prop := ∃ id n : Int, r.orderId = .int id ∧ r.lineNo = .int n

theorem Booked.numbered (h : Booked limit book lines) : ∀ row ∈ lines.rows, row.Numbered := by
  intro row hrow
  obtain ⟨r, hr, hown⟩ := h.owned row hrow
  obtain ⟨-, -, total, ls, -, hspells, -⟩ := h.orders r hr
  have hmem : row.lineNo ∈ (linesOf lines r.id).map ItemRow.lineNo :=
    List.mem_map_of_mem (List.mem_filter.mpr ⟨hrow, by simpa using hown⟩)
  rw [hspells.numbers] at hmem
  obtain ⟨i, -, hi⟩ := List.mem_map.mp hmem
  exact ⟨r.id, i, hown, hi.symm⟩

/-- what such rows are sorted by -/
def ItemRow.place (r : ItemRow) : Int ×ₗ Int := toLex (r.orderId.int?.getD 0, r.lineNo.int?.getD 0)

theorem ItemRow.before_iff {a b : ItemRow} (ha : a.Numbered) (hb : b.Numbered) :
    a.before b = true ↔ a.place ≤ b.place := by
  obtain ⟨i, n, hi, hn⟩ := ha
  obtain ⟨j, m, hj, hm⟩ := hb
  have hplaces : a.place ≤ b.place ↔ i < j ∨ i = j ∧ n ≤ m := by
    rw [place, place, hi, hn, hj, hm]
    exact Prod.Lex.toLex_le_toLex
  rw [hplaces, before, hi, hn, hj, hm, Cell.before_int, Cell.before_int]
  by_cases hij : i = j
  · simp [hij]
  · have hle : i ≤ j ↔ i < j := by omega
    simp [hij, hle]

/-- **The rows of one order among the sorted rows of several** are its rows by number. -/
theorem Spells.among {p : ItemRow → Bool} (h : Spells lines id ls)
    (hnum : ∀ r ∈ lines.rows, r.Numbered) (hp : ∀ r ∈ linesOf lines id, p r = true) :
    ((lines.rows.filter p).mergeSort ItemRow.before).filter (·.orderId == .int id)
      = linesOf lines id := by
  have hmine : (lines.rows.filter p).filter (·.orderId == .int id) = linesOf lines id := by
    rw [List.filter_comm]
    exact List.filter_eq_self.mpr hp
  -- the engine's order is total on such rows only, and the lemmas on sorting want it total
  let le (a b : ItemRow) : Bool := decide (a.place ≤ b.place)
  have hle : ∀ a ∈ lines.rows, ∀ b ∈ lines.rows, a.before b = le a b := fun a ha b hb =>
    Bool.eq_iff_iff.mpr ((ItemRow.before_iff (hnum a ha) (hnum b hb)).trans decide_eq_true_iff.symm)
  have hsort : (lines.rows.filter p).mergeSort ItemRow.before = (lines.rows.filter p).mergeSort le := by
    have hmap := List.map_mergeSort (r := ItemRow.before) (f := fun row => row) (s := le)
      (l := lines.rows.filter p) fun a ha b hb =>
        hle a (List.mem_filter.mp ha).1 b (List.mem_filter.mp hb).1
    simpa using hmap
  have hpair : (linesOf lines id).Pairwise fun a b => le a b = true :=
    h.pairwise.imp_of_mem fun {a b} ha hb hab =>
      hle a (List.mem_filter.mp ha).1 b (List.mem_filter.mp hb).1 ▸ hab
  have hsub : (linesOf lines id).Sublist ((lines.rows.filter p).mergeSort ItemRow.before) := by
    rw [hsort]
    refine List.sublist_mergeSort (fun a b c hab hbc => ?_) (fun a b => ?_) hpair ?_
    · exact decide_eq_true ((of_decide_eq_true hab).trans (of_decide_eq_true hbc))
    · simpa [le] using le_total a.place b.place
    · rw [← hmine]
      exact List.filter_sublist
  have hperm := (List.mergeSort_perm (lines.rows.filter p) ItemRow.before).filter
    (·.orderId == .int id)
  rw [hmine] at hperm
  have hself : (linesOf lines id).filter (·.orderId == .int id) = linesOf lines id := by
    rw [linesOf, List.filter_filter]
    simp
  have hkept := hsub.filter (·.orderId == .int id)
  rw [hself] at hkept
  exact (hkept.eq_of_length hperm.length_eq.symm).symm

end

namespace Orders

/-! ## the lines of a page -/

/-- orders with ids of their own get the lines that name them -/
theorem attach_eq_map (items : List (Int × Line)) {os : List Order}
    (h : (os.map Order.id).Nodup) : attach items os
      = os.map fun o => { o with lines := some ((items.filter (·.1 == o.id)).map Prod.snd) } := by
  induction os with
  | nil => rfl
  | cons o os ih =>
    rw [List.map_cons, List.nodup_cons] at h
    have hnone : os.any (·.id == o.id) = false := by
      rw [List.any_eq_false]
      intro x hx he
      exact h.1 (eq_of_beq he ▸ List.mem_map_of_mem hx)
    rw [attach, ih h.2, hnone, if_neg Bool.false_ne_true, List.map_cons]

section
variable {limit : Decimal} {db : Database} {b : Backend} {lines : Table ItemRow}

theorem named_of_scanned {rows : List ItemRow} {items : List (Int × Line)}
    (hnum : ∀ row ∈ rows, row.Numbered)
    (h : scanAll scanItem (.ofRows (rows.map ItemRow.cells)) = .ok items) :
    List.Forall₂ (fun row x => row.orderId = .int x.1 ∧ row.line? = some x.2) rows items := by
  have hread := (List.forall₂_and_left _ _).mpr ⟨hnum, scanAll_ofRows_iff.mp h⟩
  refine hread.imp fun row x hx => ?_
  obtain ⟨⟨i, n, hi, -⟩, hscan⟩ := hx
  obtain ⟨hid, hline⟩ := scanItem_ok_iff.mp hscan
  rw [hi] at hid ⊢
  exact ⟨congrArg Cell.int (Option.some.inj hid), hline⟩

/-- **Orders with ids of their own** get the lines that are read for each of them. -/
theorem loadLines_ok {os as : List Order} (hlines : db.tables.items = some lines)
    (hnum : ∀ r ∈ lines.rows, r.Numbered) (hids : (os.map Order.id).Nodup)
    (hspelled : ∀ o ∈ os, ∃ ls, Spells lines o.id ls)
    (h : loadLines os (.embedded db) = (.ok as, b)) : ∃ ls : Order → List Line,
      as = os.map (fun o => { o with lines := some (ls o) }) ∧ ∀ o ∈ os,
        List.Forall₂ (fun r l => ItemRow.line? r = some l)
          ((linesOf lines o.id).mergeSort ItemRow.before) (ls o) := by
  unfold loadLines at h
  split at h
  · next hnil =>
    obtain ⟨has, -⟩ := Prod.mk.inj h
    rw [List.isEmpty_iff.mp hnil, ← Outcome.ok.inj has]
    exact ⟨fun _ => [], rfl, fun _ ho => nomatch ho⟩
  · obtain ⟨items, b₁, hall, hret⟩ := Action.bind_ok_iff.mp h
    obtain ⟨has, -⟩ := Prod.mk.inj hret
    obtain ⟨r, hsend, hscan⟩ := allRows_ok_iff.mp hall
    obtain ⟨-, -, -, t, ht, rfl⟩ := selectItems_ok_iff.mp hsend
    obtain rfl : lines = t := Option.some.inj (hlines.symm.trans ht)
    rw [← Outcome.ok.inj has, attach_eq_map items hids]
    refine ⟨_, rfl, fun o ho => ?_⟩
    obtain ⟨ls, hspells⟩ := hspelled o ho
    have hnamed := named_of_scanned (fun row hrow => hnum row
      (List.mem_filter.mp (List.mem_mergeSort.mp hrow)).1) hscan
    have hmine := List.rel_filter (p := (·.orderId == .int o.id)) (q := (·.1 == o.id))
      (fun row x hx => by simp [hx.1]) hnamed
    rw [hspells.among hnum fun row hrow => ?_] at hmine
    · rw [hspells.sorted, List.forall₂_map_right_iff]
      exact hmine.imp fun _ _ hx => hx.2
    · have hown : row.orderId = .int o.id := by simpa using (List.mem_filter.mp hrow).2
      rw [List.any_eq_true]
      exact ⟨o.id, List.mem_map_of_mem ho, by simpa using hown⟩

/-- **The orders of some rows**, with their lines, are as they are read by their ids. -/
theorem loadLines_reads {book : Table OrderRow} {rows : List OrderRow} {os as : List Order}
    (hbook : db.tables.orders = some book) (hlines : db.tables.items = some lines)
    (hunique : (book.rows.map HasId.id).Nodup) (hnum : ∀ r ∈ lines.rows, r.Numbered)
    (hspelled : ∀ row ∈ rows, ∃ ls, Spells lines row.id ls) (hsub : rows.Sublist book.rows)
    (hread : List.Forall₂ (fun row o => OrderRow.order? row = some o) rows os)
    (h : loadLines os (.embedded db) = (.ok as, b)) :
    List.Forall₂ (fun row a => db.tables.Reads row.id a) rows as := by
  have hrows : List.Forall₂ (fun row o => row ∈ rows ∧ OrderRow.order? row = some o) rows os :=
    (List.forall₂_and_left _ _).mpr ⟨fun _ hrow => hrow, hread⟩
  have hid : ∀ {row : OrderRow} {o : Order}, row.order? = some o → o.id = row.id :=
    fun ho => (OrderRow.order?_eq_some_iff.mp ho).1
  have hids : os.map Order.id = rows.map HasId.id :=
    map_eq_of_forall₂ (hread.flip.imp fun _ _ ho => hid ho)
  have hspelled : ∀ o ∈ os, ∃ ls, Spells lines o.id ls := by
    intro o ho
    obtain ⟨row, -, hmem, horder⟩ := exists_of_mem_forall₂ hrows ho
    exact hid horder ▸ hspelled row hmem
  obtain ⟨ls, rfl, hlined⟩ :=
    loadLines_ok hlines hnum (hids ▸ hunique.sublist (hsub.map _)) hspelled h
  rw [List.forall₂_map_right_iff]
  refine ((List.forall₂_and_left _ _).mpr ⟨hlined, hrows.flip⟩).flip.imp ?_
  rintro row o ⟨hlined, hmem, horder⟩
  have hget : book.get? row.id = some row := Table.get?_of_mem hunique (hsub.subset hmem)
  exact ⟨book, lines, row, o, ls o, hbook, hlines, hget, horder, hid horder ▸ hlined, rfl⟩

/-! ## pages -/

theorem window_sublist {α : Type} (limit offset : Int) (rows : List α) :
    (window limit offset rows).Sublist rows := by
  have hdrop := List.drop_sublist offset.toNat rows
  unfold window
  split
  · exact hdrop
  · exact (List.take_sublist _ _).trans hdrop

/-- the first page, with room for all rows, is all of them -/
theorem window_first {α : Type} {size : Int} {rows : List α} (h : rows.length ≤ size) :
    window size (PageRequest.offset ⟨0, size⟩) rows = rows := by
  have hoffset : PageRequest.offset ⟨0, size⟩ = 0 := by
    unfold PageRequest.offset
    rw [Int.zero_mul]
    rfl
  unfold window
  rw [hoffset, if_neg (by omega)]
  exact List.take_of_length_le (by rw [Int.toNat_zero, List.drop_zero]; omega)

theorem withStatus_sublist (status : Option String) (rows : List OrderRow) :
    (withStatus status rows).Sublist rows := by
  cases status with
  | none => exact List.Sublist.refl rows
  | some s => exact List.filter_sublist

/-- A page that is read: the rows of its window, and then the lines of their orders. -/
theorem find_rows {status : Option Status} {page : PageRequest} {p : Page Order}
    (h : find status page (.embedded db) = (.ok p, b)) : ∃ book os,
      db.tables.orders = some book ∧ p = ⟨p.content, page.number, page.size,
        (withStatus (status.map Status.name) book.rows).length⟩ ∧
      List.Forall₂ (fun row o => OrderRow.order? row = some o)
        (window page.size page.offset (withStatus (status.map Status.name) book.rows)) os ∧
      loadLines os (.embedded db) = (.ok p.content, b) := by
  obtain ⟨total, b₁, hcount, h⟩ := Action.bind_ok_iff.mp h
  obtain ⟨r₁, row₁, rest, hsent, hfirst, htotal⟩ :=
    firstRow_ok_iff.mp (Action.context_ok_iff.mp hcount)
  obtain ⟨-, rfl, book, hbook, rfl⟩ := (query_ok_iff (answer_orders rfl) (fun _ => rfl)
    fun t ht => by rw [← ht]).mp hsent
  obtain ⟨rfl, -⟩ := List.cons.inj hfirst
  set rows := withStatus (status.map Status.name) book.rows with hrows
  obtain rfl : (rows.length : Int) = total := Except.ok.inj htotal
  split at h
  · next hzero =>
    -- without rows nothing else is asked for
    have hnone : rows = [] := List.length_eq_zero_iff.mp (by omega)
    obtain ⟨hp, rfl⟩ := Prod.mk.inj h
    rw [← Outcome.ok.inj hp]
    refine ⟨book, [], hbook, rfl, ?_, rfl⟩
    rw [← hrows, hnone, List.sublist_nil.mp (window_sublist page.size page.offset [])]
    exact .nil
  obtain ⟨os, b₂, hlist, h⟩ := Action.bind_ok_iff.mp h
  obtain ⟨as, b₃, hload, hret⟩ := Action.bind_ok_iff.mp h
  obtain ⟨hp, rfl⟩ := Prod.mk.inj hret
  obtain ⟨r, hsend, hscan⟩ := allRows_ok_iff.mp hlist
  obtain ⟨-, rfl, t, ht, rfl⟩ := (query_ok_iff (answer_orders rfl) (fun _ => rfl)
    fun t ht => by rw [← ht]).mp hsend
  obtain rfl : book = t := Option.some.inj (hbook.symm.trans ht)
  rw [← Outcome.ok.inj hp]
  exact ⟨book, os, hbook, rfl,
    (scanAll_ofRows_iff.mp hscan).imp fun _ _ ho => scan_ok_iff.mp ho, hload⟩

/-- **A page shows the orders of its rows**, each as it is read by its id. -/
theorem find_ok {status : Option Status} {page : PageRequest} {p : Page Order}
    (hkept : db.tables.Kept limit) (h : find status page (.embedded db) = (.ok p, b)) :
    b = .embedded db ∧ ∃ book, db.tables.orders = some book ∧
      p.total = (withStatus (status.map Status.name) book.rows).length ∧
      List.Forall₂ (fun row a => db.tables.Reads row.id a)
        (window page.size page.offset (withStatus (status.map Status.name) book.rows)) p.content := by
  have hb : b = .embedded db := ((find_readOnly status page).of_eq h).embedded rfl
  obtain ⟨book, lines, hbook, hlines, hbooked⟩ := hkept.orders
  obtain ⟨book', os, hbook', hp, hrows, hload⟩ := find_rows h
  obtain rfl : book = book' := Option.some.inj (hbook.symm.trans hbook')
  have hsub : (window page.size page.offset
      (withStatus (status.map Status.name) book.rows)).Sublist book.rows :=
    (window_sublist _ _ _).trans (withStatus_sublist _ _)
  refine ⟨hb, book, hbook, by rw [hp], ?_⟩
  refine loadLines_reads hbook hlines hbooked.keyed.unique hbooked.numbered (fun row hrow => ?_) hsub
    hrows hload
  obtain ⟨-, -, -, ls, -, hspells, -⟩ := hbooked.orders row (hsub.subset hrow)
  exact ⟨ls, hspells⟩

theorem find_reads {status : Option Status} {page : PageRequest} {p : Page Order}
    (hkept : db.tables.Kept limit) (h : find status page (.embedded db) = (.ok p, b)) :
    ∀ a ∈ p.content, db.tables.Reads a.id a := by
  intro a ha
  obtain ⟨-, book, -, -, hread⟩ := find_ok hkept h
  obtain ⟨row, -, hread⟩ := exists_of_mem_forall₂ hread ha
  rw [hread.id_eq]
  exact hread

/-- **A page with room for all orders** shows every order that is read. -/
theorem find_lists {size id : Int} {o : Order} {p : Page Order} (hkept : db.tables.Kept limit)
    (h : find none ⟨0, size⟩ (.embedded db) = (.ok p, b)) (hsize : p.total ≤ size)
    (hread : db.tables.Reads id o) : o ∈ p.content := by
  obtain ⟨-, book, hbook, htotal, hpage⟩ := find_ok hkept h
  have htotal : p.total = book.rows.length := htotal
  have hall : window size (PageRequest.offset ⟨0, size⟩) book.rows = book.rows :=
    window_first (by omega)
  have hthere := hread
  obtain ⟨book₁, -, row, -, -, hbook₁, -, hget, -⟩ := hthere
  obtain rfl : book = book₁ := Option.some.inj (hbook.symm.trans hbook₁)
  obtain ⟨hmem, rfl⟩ := Table.get?_some hget
  have hrows : List.Forall₂ (fun row a => db.tables.Reads row.id a) book.rows p.content := hall ▸ hpage
  obtain ⟨a, ha, hread'⟩ := exists_of_mem_forall₂ hrows.flip hmem
  rw [hread.unique hread']
  exact ha

end

end Orders

end OrderDesk.Store
