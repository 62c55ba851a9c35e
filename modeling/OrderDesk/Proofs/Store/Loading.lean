import OrderDesk.Proofs.Store.Archive
import OrderDesk.Proofs.Store.Paging

/-!
# Lines that are read at once

The lines of a page are read by one question and handed out among its orders. Whatever was saved and
removed before, each order of a page is the one that is read alone by its id: its lines, by number,
and no line of another order.

* `Arranged`                        the rows of each order are those of one writing of its lines;
* `Arranged.add`, `Arranged.replace`, `Arranged.remove`      the three changes of an order;
* `Orders.find_shows`               a page over such rows;
* `Shelved.perform`, `Shelved.after`      one call, and every run of calls;
* `find_agrees_with_get`            a page that is read after a run of calls.
-/

namespace OrderDesk.Store

open Orders (Shelves)
open OrderDesk.Action (Keeps)

/-! ## tables whose lines were written order by order -/

/-- Every row of a line names an order that is there, and the rows that name an order are those of
one writing of its lines. -/
structure Arranged (book : Table OrderRow) (lines : Table ItemRow) : Prop where
  keyed : book.Keyed
  owned : ∀ row ∈ lines.rows, ∃ r ∈ book.rows, row.orderId = .int r.id
  written : ∀ id, ∃ first ls, linesOf lines id = lineRows id 0 first ls

namespace Arranged

variable {book : Table OrderRow} {lines : Table ItemRow} {o : Order} {id : Int}

theorem empty : Arranged {} {} :=
  ⟨.empty, fun _ h => absurd h List.not_mem_nil, fun _ => ⟨0, [], rfl⟩⟩

/-- no line names the next order -/
theorem linesOf_nextId (h : Arranged book lines) : linesOf lines book.nextId = [] := by
  refine List.filter_eq_nil_iff.mpr fun row hrow hown => ?_
  obtain ⟨r, hr, hid⟩ := h.owned row hrow
  have hlt : r.id < book.nextId := Table.id_lt_nextId hr
  rw [eq_of_beq hown] at hid
  have : book.nextId = r.id := Cell.int.inj hid
  omega

/-- the rows of the order that is written, and those of the others -/
theorem written_appendLines (hnone : linesOf lines id = [])
    (h : ∀ j, j ≠ id → ∃ first ls, linesOf lines j = lineRows j 0 first ls) (j : Int) :
    ∃ first ls, linesOf (appendLines id 0 lines o.items) j = lineRows j 0 first ls := by
  by_cases hj : j = id
  · refine ⟨lines.nextId, o.items, ?_⟩
    rw [hj, linesOf_appendLines, hnone, List.nil_append]
  · rw [linesOf_appendLines_ne hj]
    exact h j hj

theorem add (h : Arranged book lines) : Arranged (book.insert (OrderRow.ofNew o))
    (appendLines book.nextId 0 lines o.items) where
  keyed := h.keyed.insert rfl
  owned row hrow := by
    rw [rows_appendLines] at hrow
    rcases List.mem_append.mp hrow with hrow | hrow
    · obtain ⟨r, hr, hown⟩ := h.owned row hrow
      exact ⟨r, List.mem_append_left _ hr, hown⟩
    · exact ⟨_, List.mem_append_right _ List.mem_cons_self, orderId_of_mem_lineRows hrow⟩
  written := written_appendLines h.linesOf_nextId fun j _ => h.written j

theorem replace (h : Arranged book lines) (hget : (book.get? o.id).isSome) :
    Arranged (book.update o.id (OrderRow.update o))
      (appendLines o.id 0 (lines.erase (·.orderId == .int o.id)) o.items) where
  keyed := h.keyed.update fun _ => rfl
  owned row hrow := by
    have hkeep : ∀ r, HasId.id (OrderRow.update o r) = HasId.id r := fun _ => rfl
    have hids : (book.update o.id (OrderRow.update o)).rows.map HasId.id = book.rows.map HasId.id :=
      Table.ids_update hkeep
    have hthere : ∀ r ∈ book.rows, ∃ r' ∈ (book.update o.id (OrderRow.update o)).rows,
        r'.id = r.id := fun r hr => by
      have hmem : HasId.id r ∈ book.rows.map HasId.id := List.mem_map_of_mem hr
      rw [← hids] at hmem
      exact List.mem_map.mp hmem
    rw [rows_appendLines] at hrow
    rcases List.mem_append.mp hrow with hrow | hrow
    · obtain ⟨r, hr, hown⟩ := h.owned row (Table.mem_erase.mp hrow).1
      obtain ⟨r', hr', hid⟩ := hthere r hr
      exact ⟨r', hr', by rw [hown, hid]⟩
    · obtain ⟨r, hget⟩ := Option.isSome_iff_exists.mp hget
      obtain ⟨hr, hrid⟩ := Table.get?_some hget
      obtain ⟨r', hr', hid⟩ := hthere r hr
      refine ⟨r', hr', ?_⟩
      rw [orderId_of_mem_lineRows hrow, hid]
      exact congrArg Cell.int hrid.symm
  written := written_appendLines (linesOf_erase o.id lines) fun j hj => by
    rw [linesOf_erase_ne hj]
    exact h.written j

theorem remove (h : Arranged book lines) (id : Int) :
    Arranged (book.erase (·.id == id)) (lines.erase (·.orderId == .int id)) where
  keyed := h.keyed.erase
  owned row hrow := by
    obtain ⟨hrow, hkept⟩ := Table.mem_erase.mp hrow
    obtain ⟨r, hr, hown⟩ := h.owned row hrow
    refine ⟨r, Table.mem_erase.mpr ⟨hr, ?_⟩, hown⟩
    rw [hown] at hkept
    simpa using hkept
  written j := by
    by_cases hj : j = id
    · refine ⟨0, [], ?_⟩
      rw [hj, linesOf_erase]
      rfl
    · rw [linesOf_erase_ne hj]
      exact h.written j

/-! ## reading -/

theorem numbered (h : Arranged book lines) : ∀ row ∈ lines.rows, row.Numbered := by
  intro row hrow
  obtain ⟨r, -, hown⟩ := h.owned row hrow
  obtain ⟨first, ls, hrows⟩ := h.written r.id
  have hmine : row ∈ linesOf lines r.id := List.mem_filter.mpr ⟨hrow, by simpa using hown⟩
  rw [hrows] at hmine
  obtain ⟨l, -, i, n, rfl⟩ := exists_of_mem_lineRows hmine
  exact ⟨r.id, i, rfl, rfl⟩

/-- lines that can be read are spelled by their rows, numbered from zero -/
theorem spells (h : Arranged book lines) (hread : ∀ r ∈ linesOf lines id, r.line?.isSome) :
    ∃ ls, Spells lines id ls := by
  obtain ⟨first, written, hrows⟩ := h.written id
  obtain ⟨ls, hls⟩ := exists_forall₂ (R := fun r l => ItemRow.line? r = some l)
    fun r hr => Option.isSome_iff_exists.mp (hread r hr)
  refine ⟨ls, ?_, hls⟩
  rw [← hls.length_eq, hrows, numbers_lineRows, length_lineRows, List.range_eq_range']

end Arranged

/-- what is read under an id is what the rows of the lines spell -/
theorem Tables.Reads.spells {ts : Tables} {lines : Table ItemRow} {id : Int} {o : Order}
    {ls : List Line} (hlines : ts.items = some lines) (hspells : Spells lines id ls)
    (h : ts.Reads id o) : o.lines = some o.items ∧ Spells lines id o.items := by
  obtain ⟨book, lines', row, o₀, ls', -, hlines', -, -, hread, rfl⟩ := h
  obtain rfl : lines = lines' := Option.some.inj (hlines.symm.trans hlines')
  rw [hspells.sorted] at hread
  refine ⟨rfl, ?_, hread⟩
  have hlength : ls'.length = ls.length := by
    rw [← hread.length_eq, hspells.read.length_eq]
  exact hspells.numbers.trans (by rw [← hlength]; rfl)

/-- **A page over such tables** shows each order as it is read by its id, with the lines that its rows
spell. -/
theorem Orders.find_shows {db : Database} {book : Table OrderRow} {lines : Table ItemRow}
    {status : Option Status} {page : PageRequest} {p : Page Order} {b : Backend}
    (hs : Shelves db book lines) (h : Arranged book lines)
    (hfind : find status page (.embedded db) = (.ok p, b)) :
    ∀ o ∈ p.content, db.tables.Reads o.id o ∧ o.lines = some o.items ∧ Spells lines o.id o.items := by
  obtain ⟨book', os, hbook', -, hrows, hload⟩ := find_rows hfind
  obtain rfl : book = book' := Option.some.inj (hs.orders.symm.trans hbook')
  have hspelled : ∀ row ∈ window page.size page.offset
      (withStatus (status.map Status.name) book.rows), ∃ ls, Spells lines row.id ls := fun row hrow =>
    h.spells (legible_of_find hs.orders hs.items hfind row hrow).2
  have hreads := loadLines_reads hs.orders hs.items h.keyed.unique h.numbered hspelled
    ((window_sublist _ _ _).trans (withStatus_sublist _ _)) hrows hload
  intro o ho
  obtain ⟨row, hrow, hread⟩ := exists_of_mem_forall₂
    ((List.forall₂_and_left _ _).mpr ⟨hspelled, hreads⟩) ho
  obtain ⟨⟨ls, hls⟩, hread⟩ := hread
  rw [← hread.id_eq] at hls
  rw [← hread.id_eq] at hread
  exact ⟨hread, hread.spells hs.items hls⟩

/-! ## calls -/

/-- A store at rest whose tables are arranged. -/
def Shelved (b : Backend) : Prop :=
  ∃ db book lines, b = .embedded db ∧ db.saved = none ∧ Shelves db book lines ∧ Arranged book lines

namespace Shelved

theorem fresh : Shelved fresh := ⟨_, {}, {}, fresh_eq, rfl, ⟨rfl, rfl, rfl⟩, .empty⟩

section
variable {db : Database} {book : Table OrderRow} {lines : Table ItemRow} {o : Order}
  (hrest : db.saved = none) (hs : Shelves db book lines) (h : Arranged book lines)

include hrest hs h

theorem at_rest : Shelved (.embedded db) := ⟨db, book, lines, rfl, hrest, hs, h⟩

theorem add (hb : o.Balanced) (hid : o.id = 0) : Shelved (Orders.save o (.embedded db)).2 := by
  have hstay := at_rest hrest hs h
  by_cases hidless : 2 ^ 63 ≤ book.nextId
  · rw [Orders.save_new_idless hs hrest hb hid hidless]
    exact hstay
  have hroom := not_le.mp hidless
  cases hfree : Tables.numberTaken book (Orders.storedNumber o.number) book.nextId with
  | true =>
    rw [Orders.save_new_taken hs hrest hb hid hroom hfree]
    exact hstay
  | false =>
    by_cases hfit : Orders.Fits lines o
    · rw [Orders.save_new hs hrest hb hid hroom hfree hfit]
      exact ⟨_, _, _, rfl, hrest, ⟨hs.isOpen, rfl, rfl⟩, h.add⟩
    · obtain ⟨c, hfull⟩ := Orders.save_new_full hs hrest hb hid hroom hfree hfit
      rw [hfull]
      exact hstay

theorem replace (hb : o.Balanced) (hid : o.id ≠ 0) : Shelved (Orders.save o (.embedded db)).2 := by
  have hstay := at_rest hrest hs h
  cases hget : book.get? o.id with
  | none =>
    rw [Orders.save_missing hs hrest hb hid hget]
    exact hstay
  | some row =>
    have hthere : (book.get? o.id).isSome := Option.isSome_of_eq_some hget
    cases hfree : Tables.numberTaken book (Orders.storedNumber o.number) o.id with
    | true =>
      rw [Orders.save_old_taken hs hrest hb hid hthere hfree]
      exact hstay
    | false =>
      by_cases hroom : Orders.Fits (lines.erase (·.orderId == .int o.id)) o
      · rw [Orders.save_old hs hrest hb hid hthere hfree hroom]
        exact ⟨_, _, _, rfl, hrest, ⟨hs.isOpen, rfl, rfl⟩, h.replace hthere⟩
      · obtain ⟨c, hfull⟩ := Orders.save_old_full hs hrest hb hid hthere hfree hroom
        rw [hfull]
        exact hstay

theorem save (o : Order) : Shelved (Orders.save o (.embedded db)).2 := by
  by_cases hb : o.Balanced
  · by_cases hid : o.id = 0
    · exact add hrest hs h hb hid
    · exact replace hrest hs h hb hid
  · rw [Orders.save_mismatch hb]
    exact at_rest hrest hs h

theorem delete (id : Int) : Shelved (Orders.delete id (.embedded db)).2 := by
  cases hget : book.get? id with
  | none =>
    rw [Orders.delete_lacks hs hrest hget]
    exact at_rest hrest hs h
  | some row =>
    rw [Orders.delete_there hs hrest (Option.isSome_of_eq_some hget)]
    exact ⟨_, _, _, rfl, hrest, ⟨hs.isOpen, rfl, rfl⟩, h.remove id⟩

end

/-- **One call** leaves such a store, whatever it ends in. -/
theorem perform {b : Backend} (h : Shelved b) (c : OrderCall) : Shelved (c.perform b).2 := by
  obtain ⟨db, book, lines, rfl, hrest, hs, ha⟩ := h
  have hread : ∀ {α : Type} {x : Action Backend α} (g : α → OrderAnswer), Keeps ReadOnly x →
      Shelved ((do return g (← x)) (Backend.embedded db)).2 := fun {α x} g hx => by
    have hsame : (x (.embedded db)).2 = .embedded db := (hx _).embedded rfl
    rw [Action.bind_pure_snd, hsame]
    exact at_rest hrest hs ha
  cases c with
  | save o =>
    rw [OrderCall.perform, Action.bind_pure_snd]
    exact save hrest hs ha o
  | delete id =>
    rw [OrderCall.perform, Action.bind_pure_snd]
    exact delete hrest hs ha id
  | get id => exact hread _ (Orders.read_readOnly false id)
  | lock id => exact hread _ (Orders.read_readOnly true id)
  | exists? id => exact hread _ (Orders.exists?_readOnly id)

/-- **Every run of calls** does. -/
theorem after {b : Backend} (h : Shelved b) (calls : List OrderCall) : Shelved (after b calls) := by
  induction calls generalizing b with
  | nil => exact h
  | cons c calls ih => exact ih (h.perform c)

end Shelved

/-! ## every run -/

/-- **A page shows each order as it is read alone.** After every run of calls on a new store, a page
that is read leaves the store as it was, and each of its orders is read by its id, the same in every
field: with the lines that the rows which name it spell, one by one and by number, which are none
where no row does. -/
theorem find_agrees_with_get (calls : List OrderCall) {status : Option Status} {page : PageRequest}
    {p : Page Order} {b : Backend}
    (h : Orders.find status page (after fresh calls) = (.ok p, b)) :
    b = after fresh calls ∧
    (∀ o ∈ p.content, Orders.get o.id (after fresh calls) = (.ok o, after fresh calls)) ∧
    ∃ db lines, after fresh calls = .embedded db ∧ db.tables.items = some lines ∧
      ∀ o ∈ p.content, o.lines = some o.items ∧ Spells lines o.id o.items := by
  obtain ⟨db, book, lines, hdb, hrest, hs, ha⟩ := Shelved.fresh.after calls
  rw [hdb] at h ⊢
  have hshows := Orders.find_shows hs ha h
  refine ⟨((Orders.find_readOnly status page).of_eq h).embedded rfl, fun o ho => ?_,
    db, lines, rfl, hs.items, fun o ho => (hshows o ho).2⟩
  exact Orders.reads_iff.mpr ⟨hs.isOpen, rfl, (hshows o ho).1⟩

/-- three orders of one, no and two lines; the line of the first is written anew, after the others -/
def interleaved : List OrderCall :=
  let order (id : Int) (number : String) (total : Decimal) (ls : List Line) : Order :=
    { id, number, status := .pending, total, lines := some ls, createdAt := ⟨0, 0, 0⟩
      updatedAt := ⟨0, 0, 0⟩ }
  let bolts : Line := ⟨3, "bolt", 1, ⟨5, 0⟩⟩
  let nuts : Line := ⟨4, "nut", 4, ⟨2, 0⟩⟩
  [.save (order 0 "N-1" ⟨5, 0⟩ [bolts]), .save (order 0 "N-2" ⟨0, 0⟩ []),
    .save (order 0 "N-3" ⟨13, 0⟩ [nuts, bolts]), .save (order 0 "" ⟨5, 0⟩ [bolts]),
    .save (order 1 "N-1" ⟨8, 0⟩ [nuts]), .delete 4]

/-- a page of the first two shows one line and none, each order as it is read alone -/
theorem interleaved_page : ∃ p, Orders.find none ⟨0, 2⟩ (after fresh interleaved)
      = (.ok p, after fresh interleaved) ∧
    p.total = 3 ∧ p.content.map (fun o => o.items.map Line.productName) = [["nut"], []] ∧
    ∀ o ∈ p.content, Orders.get o.id (after fresh interleaved) = (.ok o, after fresh interleaved) := by
  have hvalue : ((Orders.find none ⟨0, 2⟩).value? (after fresh interleaved)).map
      (fun p => (p.total, p.content.map fun o => o.items.map Line.productName))
        = some (3, [["nut"], []]) := by decide +kernel
  obtain ⟨p, hp, hshown⟩ := Option.map_eq_some_iff.mp hvalue
  obtain ⟨htotal, hnames⟩ := Prod.mk.inj hshown
  obtain ⟨b, hfind⟩ : ∃ b, Orders.find none ⟨0, 2⟩ (after fresh interleaved) = (.ok p, b) :=
    ⟨_, Action.ok_of_value? hp⟩
  have hagrees := find_agrees_with_get interleaved hfind
  rw [hagrees.1] at hfind
  exact ⟨p, hfind, htotal, hnames, hagrees.2.1⟩

end OrderDesk.Store
