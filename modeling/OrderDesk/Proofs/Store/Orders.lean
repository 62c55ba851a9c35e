import OrderDesk.Proofs.Order.Amounts
import OrderDesk.Proofs.Store.Products
import Mathlib.Data.List.Forall2

/-!
# Orders in the tables

An order is stored as one row and a row for each line, and read back from both.

* `OrderRow.order?`, `ItemRow.line?`     what a row spells;
* `appendLines`                          the table of lines after those of an order were appended;
* `Orders.insertLines_ok_iff`            the lines are appended, if there are ids for them;
* `Orders.insert_ok_iff`                 a new order is stored;
* `Orders.update_ok_iff`                 an order is changed, its lines written anew;
* `Orders.delete_ok`                     an order is removed with its lines;
* `Orders.read_ok_iff`                   an order is read with the lines that name it, by number;
* `Orders.read_withNew`                  a new order reads back as it was stored.
-/

namespace OrderDesk.Store

/-! ## rows -/

/-- the order that a row spells, without its lines -/
def OrderRow.order? (r : OrderRow) : Option Order := do
  some ⟨r.id, r.number.getD "", ⟨r.status⟩, ← (Cell.text r.total).amount?, some [],
    ← (stored r.createdAt).time?, ← (stored r.updatedAt).time?⟩

def ItemRow.line? (r : ItemRow) : Option Line := do
  some ⟨← r.productId.int?, r.productName, ← r.quantity.int?, ← (Cell.text r.unitPrice).amount?⟩

def OrderRow.ofNew (o : Order) (id : Int) : OrderRow :=
  ⟨id, Orders.storedNumber o.number, o.status.name, o.total.text, .time o.createdAt,
    .time o.updatedAt⟩

/-- a row with everything of an order but its id and its first day -/
def OrderRow.update (o : Order) (r : OrderRow) : OrderRow :=
  { r with
    number := Orders.storedNumber o.number, status := o.status.name, total := o.total.text,
    updatedAt := .time o.updatedAt }

/-- the row of the `i`-th line of an order -/
def ItemRow.ofLine (orderId : Int) (i : Nat) (l : Line) (id : Int) : ItemRow :=
  ⟨id, .int orderId, .int i, .int l.productId, l.productName, .int l.quantity, l.unitPrice.text⟩

theorem OrderRow.order?_eq_some_iff {r : OrderRow} {o : Order} : r.order? = some o ↔
    o.id = r.id ∧ o.number = r.number.getD "" ∧ o.status.name = r.status ∧
      (Cell.text r.total).amount? = some o.total ∧ o.lines = some [] ∧
      (stored r.createdAt).time? = some o.createdAt ∧
      (stored r.updatedAt).time? = some o.updatedAt := by
  obtain ⟨id, number, ⟨status⟩, total, lines, createdAt, updatedAt⟩ := o
  simp only [order?, bind, Option.bind_eq_some_iff, Option.some.injEq, Order.mk.injEq,
    Status.mk.injEq]
  constructor
  · rintro ⟨_, ha, _, hc, _, hu, rfl, rfl, rfl, rfl, rfl, rfl, rfl⟩
    exact ⟨rfl, rfl, rfl, ha, rfl, hc, hu⟩
  · rintro ⟨rfl, rfl, rfl, ha, rfl, hc, hu⟩
    exact ⟨_, ha, _, hc, _, hu, rfl, rfl, rfl, rfl, rfl, rfl, rfl⟩

theorem ItemRow.line?_eq_some_iff {r : ItemRow} {l : Line} : r.line? = some l ↔
    r.productId.int? = some l.productId ∧ l.productName = r.productName ∧
      r.quantity.int? = some l.quantity ∧ (Cell.text r.unitPrice).amount? = some l.unitPrice := by
  obtain ⟨productId, name, quantity, price⟩ := l
  simp only [line?, bind, Option.bind_eq_some_iff, Option.some.injEq, Line.mk.injEq]
  constructor
  · rintro ⟨_, hp, _, hq, _, ha, rfl, rfl, rfl, rfl⟩
    exact ⟨hp, rfl, hq, ha⟩
  · rintro ⟨hp, rfl, hq, ha⟩
    exact ⟨_, hp, _, hq, _, ha, rfl, rfl, rfl, rfl⟩

theorem Orders.scan_ok_iff {r : OrderRow} {o : Order} :
    Orders.scan r.cells = .ok o ↔ r.order? = some o := by
  unfold Orders.scan
  rw [scanRow_ok_iff, and_iff_right (show r.cells.length = 6 from rfl)]
  -- the number alone has a cell that depends on whether it is there
  obtain ⟨id, number, status, total, createdAt, updatedAt⟩ := r
  cases number <;> rfl

theorem Orders.scanItem_ok_iff {r : ItemRow} {x : Int × Line} :
    Orders.scanItem r.cells = .ok x ↔ r.orderId.int? = some x.1 ∧ r.line? = some x.2 := by
  unfold Orders.scanItem
  rw [scanRow_ok_iff, and_iff_right (show r.cells.length = 5 from rfl)]
  obtain ⟨id, productId, name, quantity, price⟩ := x
  simp only [ItemRow.cells, ItemRow.line?_eq_some_iff, bind, Option.bind_eq_some_iff,
    Option.some.injEq, Prod.mk.injEq, Line.mk.injEq]
  constructor
  · rintro ⟨_, hi, _, hp, _, hn, _, hq, _, ha, rfl, rfl, rfl, rfl, rfl⟩
    obtain rfl : r.productName = _ := Option.some.inj hn
    exact ⟨hi, hp, rfl, hq, ha⟩
  · rintro ⟨hi, hp, rfl, hq, ha⟩
    exact ⟨_, hi, _, hp, _, rfl, _, hq, _, ha, rfl, rfl, rfl, rfl, rfl⟩

/-! ## the lines of an order -/

/-- the table of lines after those of the order `orderId` were appended, from the `i`-th on -/
def appendLines (orderId : Int) : Nat → Table ItemRow → List Line → Table ItemRow
  | _, t, [] => t
  | i, t, l :: ls => appendLines orderId (i + 1) (t.insert (ItemRow.ofLine orderId i l)) ls

/-- the rows of the lines of an order, with ids counting up -/
def lineRows (orderId : Int) : Nat → Int → List Line → List ItemRow
  | _, _, [] => []
  | i, id, l :: ls => ItemRow.ofLine orderId i l id :: lineRows orderId (i + 1) (id + 1) ls

def linesOf (t : Table ItemRow) (orderId : Int) : List ItemRow :=
  t.rows.filter (·.orderId == .int orderId)

theorem rows_appendLines (orderId : Int) (i : Nat) (t : Table ItemRow) (ls : List Line) :
    (appendLines orderId i t ls).rows = t.rows ++ lineRows orderId i t.nextId ls := by
  induction ls generalizing i t with
  | nil => simp [appendLines, lineRows]
  | cons l ls ih =>
    rw [appendLines, ih, Table.nextId_insert rfl, lineRows]
    show t.rows ++ [_] ++ _ = _
    rw [List.append_assoc, List.singleton_append]

theorem nextId_appendLines (orderId : Int) (i : Nat) (t : Table ItemRow) (ls : List Line) :
    (appendLines orderId i t ls).nextId = t.nextId + ls.length := by
  induction ls generalizing i t with
  | nil => exact (Int.add_zero _).symm
  | cons l ls ih =>
    rw [appendLines, ih, Table.nextId_insert rfl, List.length_cons]
    omega

theorem exists_of_mem_lineRows {orderId : Int} {i : Nat} {id : Int} {ls : List Line} {r : ItemRow}
    (h : r ∈ lineRows orderId i id ls) : ∃ l ∈ ls, ∃ k n, r = ItemRow.ofLine orderId k l n := by
  induction ls generalizing i id with
  | nil => cases h
  | cons l ls ih =>
    rcases List.mem_cons.mp h with rfl | h
    · exact ⟨l, List.mem_cons_self, i, id, rfl⟩
    · obtain ⟨l', hl', hr⟩ := ih h
      exact ⟨l', List.mem_cons_of_mem _ hl', hr⟩

theorem orderId_of_mem_lineRows {orderId : Int} {i : Nat} {id : Int} {ls : List Line} {r : ItemRow}
    (h : r ∈ lineRows orderId i id ls) : r.orderId = .int orderId := by
  obtain ⟨l, -, k, n, rfl⟩ := exists_of_mem_lineRows h
  rfl

theorem length_lineRows (orderId : Int) (i : Nat) (id : Int) (ls : List Line) :
    (lineRows orderId i id ls).length = ls.length := by
  induction ls generalizing i id with
  | nil => rfl
  | cons l ls ih =>
    show (lineRows orderId (i + 1) (id + 1) ls).length + 1 = ls.length + 1
    rw [ih]

theorem linesOf_appendLines_ne {orderId j : Int} (hj : j ≠ orderId) (i : Nat) (t : Table ItemRow)
    (ls : List Line) : linesOf (appendLines orderId i t ls) j = linesOf t j := by
  have hnone : (lineRows orderId i t.nextId ls).filter (·.orderId == .int j) = [] := by
    rw [List.filter_eq_nil_iff]
    intro r hr
    simp [orderId_of_mem_lineRows hr, Ne.symm hj]
  rw [linesOf, rows_appendLines, List.filter_append, hnone, List.append_nil]
  rfl

/-- the lines of the order itself come after those that named it before -/
theorem linesOf_appendLines (orderId : Int) (i : Nat) (t : Table ItemRow) (ls : List Line) :
    linesOf (appendLines orderId i t ls) orderId
      = linesOf t orderId ++ lineRows orderId i t.nextId ls := by
  have hall : (lineRows orderId i t.nextId ls).filter (·.orderId == .int orderId)
      = lineRows orderId i t.nextId ls := by
    rw [List.filter_eq_self]
    intro r hr
    simp [orderId_of_mem_lineRows hr]
  rw [linesOf, rows_appendLines, List.filter_append, hall]
  rfl

theorem linesOf_erase_ne {orderId j : Int} (hj : j ≠ orderId) (t : Table ItemRow) :
    linesOf (t.erase (·.orderId == .int orderId)) j = linesOf t j := by
  show (t.rows.filter _).filter _ = t.rows.filter _
  rw [List.filter_filter]
  apply List.filter_congr
  intro r _
  by_cases hr : r.orderId = .int j
  · simp [hr, hj]
  · simp [hr]

theorem linesOf_erase (orderId : Int) (t : Table ItemRow) :
    linesOf (t.erase (·.orderId == .int orderId)) orderId = [] := by
  show (t.rows.filter _).filter _ = []
  rw [List.filter_filter, List.filter_eq_nil_iff]
  intro r _
  simp

theorem Cell.before_int (n m : Int) : (Cell.int n).before (.int m) = decide (n ≤ m) := by
  show decide (n * 1 ≤ m * 1) = _
  rw [Int.mul_one, Int.mul_one]

/-- the rows of stored lines are in the order of their numbers -/
theorem lineRows_sorted (orderId : Int) (i : Nat) (id : Int) (ls : List Line) :
    (lineRows orderId i id ls).Pairwise fun a b => a.before b := by
  have hle : ∀ (ls : List Line) (i j : Nat) (id : Int), i ≤ j → ∀ r ∈ lineRows orderId j id ls,
      ∃ k : Nat, i ≤ k ∧ r.lineNo = .int k := by
    intro ls
    induction ls with
    | nil => intro i j id _ r hr; cases hr
    | cons l ls ih =>
      intro i j id hij r hr
      rcases List.mem_cons.mp hr with rfl | hr
      · exact ⟨j, hij, rfl⟩
      · exact ih i (j + 1) (id + 1) (by omega) r hr
  induction ls generalizing i id with
  | nil => exact .nil
  | cons l ls ih =>
    refine .cons (fun r hr => ?_) (ih (i + 1) (id + 1))
    obtain ⟨k, hk, hno⟩ := hle ls (i + 1) (i + 1) (id + 1) (Nat.le_refl _) r hr
    have ho := orderId_of_mem_lineRows hr
    rw [ItemRow.before, if_pos (by rw [ho]; rfl), hno]
    show (Cell.int i).before (.int k) = true
    rw [Cell.before_int, decide_eq_true_iff]
    omega

namespace Orders

section
variable {db : Database} {b : Backend} {o o' : Order} {id : Int}

/-! ## writing -/

theorem insertItem_ok_iff {t : Table ItemRow} (hc : db.closed = false)
    (ht : db.tables.items = some t) {i : Nat} {l : Line} {r : Reply} :
    send (.insertItem id i l) (.embedded db) = (.ok r, b) ↔
      t.nextId < 2 ^ 63 ∧ r = { affected := .ok 1, id := t.nextId } ∧ b = .embedded { db with
        tables := { db.tables with items := some (t.insert (ItemRow.ofLine id i l)) } } := by
  rw [send_through (answer_items rfl)]
  constructor
  · rintro ⟨-, t₁, t', ht₁, hi, rfl⟩
    obtain rfl : t = t₁ := Option.some.inj (ht.symm.trans ht₁)
    simp only [Tables.onItems] at hi
    obtain ⟨-, hn, rfl, rfl⟩ := inserted_ok_iff.mp hi
    exact ⟨hn, rfl, rfl⟩
  · rintro ⟨hn, rfl, rfl⟩
    exact ⟨hc, t, _, ht, inserted_ok_iff.mpr ⟨rfl, hn, rfl, rfl⟩, rfl⟩

/-- **The lines of an order are appended**, if there are ids for all of them. -/
theorem insertLines_ok_iff {t : Table ItemRow} (hc : db.closed = false)
    (ht : db.tables.items = some t) {i : Nat} {ls : List Line} :
    insertLines id i ls (.embedded db) = (.ok (), b) ↔
      (ls = [] ∨ t.nextId + ls.length ≤ 2 ^ 63) ∧ b = .embedded { db with
        tables := { db.tables with items := some (appendLines id i t ls) } } := by
  -- every line takes one id, so the room for the rest is what is left after the first
  induction ls generalizing i db t with
  | nil =>
    have hdb : ({ db with tables := { db.tables with items := some t } } : Database) = db := by
      rw [← ht]
    simp [insertLines, appendLines, hdb, eq_comm]
  | cons l ls ih =>
    rw [insertLines, Action.bind_ok_iff]
    simp only [Action.context_ok_iff, insertItem_ok_iff hc ht]
    have hnext : (t.insert (ItemRow.ofLine id i l)).nextId = t.nextId + 1 :=
      Table.nextId_insert rfl
    have hc₁ : ({ db with tables := { db.tables with
        items := some (t.insert (ItemRow.ofLine id i l)) } } : Database).closed = false := hc
    constructor
    · rintro ⟨_, _, ⟨hn, rfl, rfl⟩, hrest⟩
      obtain ⟨hfit, rfl⟩ := (ih hc₁ rfl).mp hrest
      refine ⟨.inr ?_, rfl⟩
      rw [List.length_cons]
      rcases hfit with rfl | hfit
      · simp only [List.length_nil]; omega
      · omega
    · rintro ⟨hfit, rfl⟩
      have hfit : t.nextId + (ls.length + 1 : Nat) ≤ 2 ^ 63 := by simpa using hfit
      refine ⟨_, _, ⟨by omega, rfl, rfl⟩, ?_⟩
      exact (ih hc₁ rfl).mpr ⟨.inr (by omega), rfl⟩

theorem items_of_insertLines {i : Nat} {ls : List Line} (hne : ls ≠ [])
    (h : insertLines id i ls (.embedded db) = (.ok (), b)) : ∃ t, db.tables.items = some t := by
  cases ls with
  | nil => exact absurd rfl hne
  | cons l ls =>
    rw [insertLines, Action.bind_ok_iff] at h
    obtain ⟨r, b₁, hs, -⟩ := h
    obtain ⟨-, t, -, ht, -⟩ := (send_through (answer_items rfl)).mp (Action.context_ok_iff.mp hs)
    exact ⟨t, ht⟩

theorem insertRow_ok_iff : insertRow o (.embedded db) = (.ok id, b) ↔
    db.closed = false ∧ ∃ t, db.tables.orders = some t ∧
      Tables.numberTaken t (storedNumber o.number) t.nextId = false ∧ t.nextId < 2 ^ 63 ∧
      id = t.nextId ∧ b = .embedded { db with
        tables := { db.tables with orders := some (t.insert (OrderRow.ofNew o)) } } := by
  unfold insertRow
  rw [Action.context_ok_iff, insertNew_ok_iff rfl]
  constructor
  · rintro ⟨r, hs, rfl⟩
    obtain ⟨hc, t, t', ht, hi, rfl⟩ := (send_through (answer_orders rfl)).mp hs
    obtain ⟨hrule, hn, rfl, rfl⟩ := inserted_ok_iff.mp hi
    exact ⟨hc, t, ht, by simpa using hrule, hn, rfl, rfl⟩
  · rintro ⟨hc, t, ht, hk, hn, rfl, rfl⟩
    refine ⟨{ affected := .ok 1, id := t.nextId },
      (send_through (answer_orders rfl)).mpr ⟨hc, t, _, ht, ?_, rfl⟩, rfl⟩
    exact inserted_ok_iff.mpr ⟨if_neg (by simp [hk]), hn, rfl, rfl⟩

theorem updateRow_ok_iff : updateRow o (.embedded db) = (.ok (), b) ↔
    db.closed = false ∧ ∃ t lines, db.tables.orders = some t ∧ db.tables.items = some lines ∧
      (t.get? o.id).isSome ∧ Tables.numberTaken t (storedNumber o.number) o.id = false ∧
      b = .embedded { db with tables := { db.tables with
        orders := some (t.update o.id (OrderRow.update o)),
        items := some (lines.erase (·.orderId == .int o.id)) } } := by
  unfold updateRow
  simp only [Action.bind_ok_iff, Action.context_ok_iff, Action.pure_apply, Prod.mk.injEq]
  constructor
  · rintro ⟨_, b₁, hu, _, _, hd, -, rfl⟩
    obtain ⟨r, n, hs, hn, hne⟩ := changeOne_ok_iff.mp hu
    obtain ⟨hc, t, t', ht, hup, rfl⟩ := (send_through (answer_orders rfl)).mp hs
    obtain ⟨-, lines, _, hl, hdel, rfl⟩ := (send_through (answer_items rfl)).mp hd
    obtain ⟨-, rfl⟩ := Prod.mk.inj (Except.ok.inj hdel)
    simp only [Tables.onOrders] at hup
    cases hg : t.get? o.id with
    | none =>
      rw [hg] at hup
      obtain ⟨rfl, -⟩ := Prod.mk.inj (Except.ok.inj hup)
      exact absurd (Except.ok.inj hn).symm hne
    | some row =>
      by_cases hk : Tables.numberTaken t (storedNumber o.number) o.id
      · simp [hg, hk] at hup
      simp only [hg, if_neg hk] at hup
      obtain ⟨-, rfl⟩ := Prod.mk.inj (Except.ok.inj hup)
      exact ⟨hc, t, lines, ht, hl, Option.isSome_of_eq_some hg, by simpa using hk, rfl⟩
  · rintro ⟨hc, t, lines, ht, hl, hg, hk, rfl⟩
    obtain ⟨row, hg⟩ := Option.isSome_iff_exists.mp hg
    have hrow : send (.updateOrder o.id (storedNumber o.number) o.status.name o.total o.updatedAt)
        (.embedded db) = (.ok (.changed 1), .embedded { db with tables := { db.tables with
          orders := some (t.update o.id (OrderRow.update o)) } }) := by
      refine (send_through (answer_orders rfl)).mpr ⟨hc, t, _, ht, ?_, rfl⟩
      simp only [Tables.onOrders, hg]
      rw [if_neg (by simp [hk])]
      rfl
    refine ⟨(), _, changeOne_ok_iff.mpr ⟨_, 1, hrow, rfl, by decide⟩,
      .changed (lines.count (·.orderId == .int o.id)), _, ?_, trivial, rfl⟩
    exact (send_through (answer_items rfl)).mpr ⟨hc, lines, _, hl, rfl, rfl⟩

theorem save_ok_iff_write {b₀ : Backend} : save o b₀ = (.ok o', b) ↔
    ∃ d, write o ⟨b₀, o.id⟩ = (.ok (), d) ∧ o' = { o with id := d.id } ∧ b = d.store := by
  unfold save
  rcases hw : write o ⟨b₀, o.id⟩ with ⟨r, d⟩
  cases r <;> simp [eq_comm]

/-- inside a transaction an order is written row first, then line by line -/
theorem write_ok_iff (hopen : db.saved.isSome) {d : Draft} :
    write o ⟨.embedded db, o.id⟩ = (.ok (), d) ↔ o.Balanced ∧ ∃ b₁,
      storeRow o (.embedded db) = (.ok d.id, b₁) ∧
      insertLines d.id 0 o.items b₁ = (.ok (), d.store) := by
  unfold write
  by_cases hb : o.itemTotal.eqv o.total = true
  · rw [if_pos hb, within_of_open (s := (⟨.embedded db, o.id⟩ : Draft)) rfl hopen,
      Action.bind_ok_iff]
    simp only [Action.bind_ok_iff, onStore, Action.on_eq_iff, Action.change_apply, Prod.mk.injEq,
      true_and, Order.balanced_iff.mp hb]
    constructor
    · rintro ⟨id, _, ⟨b₁, hs, rfl⟩, -, _, rfl, b₂, hl, rfl⟩
      exact ⟨b₁, hs, hl⟩
    · rintro ⟨b₁, hs, hl⟩
      exact ⟨d.id, _, ⟨b₁, hs, rfl⟩, (), _, rfl, d.store, hl, rfl⟩
  · have hn : ¬ o.Balanced := fun h => hb (Order.balanced_iff.mpr h)
    simp [if_neg hb, hn]

theorem save_ok_iff (hopen : db.saved.isSome) : save o (.embedded db) = (.ok o', b) ↔
    o.Balanced ∧ ∃ id b₁, storeRow o (.embedded db) = (.ok id, b₁) ∧
      insertLines id 0 o.items b₁ = (.ok (), b) ∧ o' = { o with id } := by
  rw [save_ok_iff_write]
  simp only [write_ok_iff hopen]
  constructor
  · rintro ⟨d, ⟨hb, b₁, hs, hl⟩, rfl, rfl⟩
    exact ⟨hb, d.id, b₁, hs, hl, rfl⟩
  · rintro ⟨hb, id, b₁, hs, hl, rfl⟩
    exact ⟨⟨b, id⟩, ⟨hb, b₁, hs, hl⟩, rfl, rfl⟩

/-- the tables after a new order was stored -/
def withNew (ts : Tables) (t : Table OrderRow) (lines : Table ItemRow) (o : Order) : Tables :=
  { ts with
    orders := some (t.insert (OrderRow.ofNew o)),
    items := some (appendLines t.nextId 0 lines o.items) }

/-- **A new order is stored**: its total is that of its lines, its number is not in use, and there
are ids for it and for its lines. -/
theorem insert_ok_iff (hopen : db.saved.isSome) (h0 : o.id = 0) (hne : o.items ≠ []) :
    save o (.embedded db) = (.ok o', b) ↔ o.Balanced ∧ db.closed = false ∧
      ∃ t lines, db.tables.orders = some t ∧ db.tables.items = some lines ∧
        Tables.numberTaken t (storedNumber o.number) t.nextId = false ∧ t.nextId < 2 ^ 63 ∧
        lines.nextId + o.items.length ≤ 2 ^ 63 ∧ o' = { o with id := t.nextId } ∧
        b = .embedded { db with tables := withNew db.tables t lines o } := by
  have hrow : storeRow o = insertRow o := by rw [storeRow, if_pos h0]
  rw [save_ok_iff hopen, hrow]
  simp only [insertRow_ok_iff]
  constructor
  · rintro ⟨hb, id, _, ⟨hc, t, ht, hk, hn, rfl, rfl⟩, hl, rfl⟩
    obtain ⟨lines, hlines⟩ := items_of_insertLines hne hl
    have hc₁ : ({ db with tables := { db.tables with
        orders := some (t.insert (OrderRow.ofNew o)) } } : Database).closed = false := hc
    obtain ⟨hfit, rfl⟩ := (insertLines_ok_iff hc₁ hlines).mp hl
    exact ⟨hb, hc, t, lines, ht, hlines, hk, hn, hfit.resolve_left hne, rfl, rfl⟩
  · rintro ⟨hb, hc, t, lines, ht, hlines, hk, hn, hfit, rfl, rfl⟩
    have hc₁ : ({ db with tables := { db.tables with
        orders := some (t.insert (OrderRow.ofNew o)) } } : Database).closed = false := hc
    exact ⟨hb, t.nextId, _, ⟨hc, t, ht, hk, hn, rfl, rfl⟩,
      (insertLines_ok_iff hc₁ hlines).mpr ⟨.inr hfit, rfl⟩, rfl⟩

/-- the tables after an order that was there was stored -/
def withChanged (ts : Tables) (t : Table OrderRow) (lines : Table ItemRow) (o : Order) : Tables :=
  { ts with
    orders := some (t.update o.id (OrderRow.update o)),
    items := some (appendLines o.id 0 (lines.erase (·.orderId == .int o.id)) o.items) }

/-- **An order that is there is changed**, and its lines are written anew: its total is that of its
lines, no other order has its number, and there are ids for its lines. -/
theorem update_ok_iff (hopen : db.saved.isSome) (h0 : o.id ≠ 0) :
    save o (.embedded db) = (.ok o', b) ↔ o.Balanced ∧ db.closed = false ∧
      ∃ t lines, db.tables.orders = some t ∧ db.tables.items = some lines ∧
        (t.get? o.id).isSome ∧ Tables.numberTaken t (storedNumber o.number) o.id = false ∧
        (o.items = [] ∨
          (lines.erase (·.orderId == .int o.id)).nextId + o.items.length ≤ 2 ^ 63) ∧
        o' = o ∧ b = .embedded { db with tables := withChanged db.tables t lines o } := by
  rw [save_ok_iff hopen, storeRow, if_neg h0]
  simp only [Action.bind_ok_iff, Action.pure_apply, Prod.mk.injEq, Outcome.ok.injEq]
  constructor
  · rintro ⟨hb, _, _, ⟨_, _, hu, rfl, rfl⟩, hl, rfl⟩
    obtain ⟨hc, t, lines, ht, hlines, hg, hk, rfl⟩ := updateRow_ok_iff.mp hu
    have hc₁ : ({ db with tables := { db.tables with
        orders := some (t.update o.id (OrderRow.update o)),
        items := some (lines.erase (·.orderId == .int o.id)) } } : Database).closed = false := hc
    obtain ⟨hfit, rfl⟩ := (insertLines_ok_iff hc₁ rfl).mp hl
    exact ⟨hb, hc, t, lines, ht, hlines, hg, hk, hfit, rfl, rfl⟩
  · rintro ⟨hb, hc, t, lines, ht, hlines, hg, hk, hfit, rfl, rfl⟩
    have hc₁ : ({ db with tables := { db.tables with
        orders := some (t.update o'.id (OrderRow.update o')),
        items := some (lines.erase (·.orderId == .int o'.id)) } } : Database).closed = false := hc
    exact ⟨hb, o'.id, _,
      ⟨(), _, updateRow_ok_iff.mpr ⟨hc, t, lines, ht, hlines, hg, hk, rfl⟩, rfl, rfl⟩,
      (insertLines_ok_iff hc₁ rfl).mpr ⟨hfit, rfl⟩, rfl⟩

/-- inside a transaction an order is removed with its lines -/
theorem delete_ok (hopen : db.saved.isSome) (h : delete id (.embedded db) = (.ok (), b)) :
    ∃ t lines, db.tables.orders = some t ∧ db.tables.items = some lines ∧
      b = .embedded { db with tables := { db.tables with
        orders := some (t.erase (·.id == id)),
        items := some (lines.erase (·.orderId == .int id)) } } := by
  unfold delete at h
  rw [within_of_open rfl hopen, Action.bind_ok_iff] at h
  obtain ⟨_, b₁, hlines, hrow⟩ := h
  obtain ⟨-, lines, lines', hl, hdel, rfl⟩ :=
    (send_through (answer_items rfl)).mp (Action.context_ok_iff.mp hlines)
  obtain ⟨-, rfl⟩ := Prod.mk.inj (Except.ok.inj hdel)
  obtain ⟨r, n, hs, -, -⟩ := changeOne_ok_iff.mp hrow
  obtain ⟨-, t, t', ht, hrem, rfl⟩ := (send_through (answer_orders rfl)).mp hs
  obtain ⟨-, rfl⟩ := Prod.mk.inj (Except.ok.inj hrem)
  exact ⟨t, lines, ht, hl, rfl⟩

/-! ## reading -/

theorem scanAll_ok_iff {rows : List ItemRow} (hr : ∀ r ∈ rows, r.orderId = .int id)
    {v : List (Int × Line)} : scanAll scanItem (.ofRows (rows.map ItemRow.cells)) = .ok v ↔
      ∃ ls, List.Forall₂ (fun r l => ItemRow.line? r = some l) rows ls ∧ v = ls.map (id, ·) := by
  rw [scanAll_ofRows_iff]
  simp only [scanItem_ok_iff]
  induction rows generalizing v with
  | nil => simp
  | cons r rows ih =>
    have ih := fun v => ih (fun r' h => hr r' (List.mem_cons_of_mem _ h)) (v := v)
    have hid : r.orderId.int? = some id := by
      rw [hr r List.mem_cons_self]
      rfl
    rw [List.forall₂_cons_left_iff]
    constructor
    · rintro ⟨x, rest, ⟨hi, hl⟩, hrest, rfl⟩
      obtain ⟨ls, hls, rfl⟩ := (ih rest).mp hrest
      obtain rfl : id = x.1 := Option.some.inj (hid.symm.trans hi)
      exact ⟨x.2 :: ls, .cons hl hls, rfl⟩
    · rintro ⟨_, hls, rfl⟩
      cases hls with
      | cons hl hls => exact ⟨_, _, ⟨hid, hl⟩, (ih _).mpr ⟨_, hls, rfl⟩, rfl⟩

/-- the rows of the lines of some orders, as the engine answers them -/
theorem selectItems_ok_iff {ids : List Int} {r : Reply} :
    send (.selectItems ids) (.embedded db) = (.ok r, b) ↔ db.closed = false ∧ b = .embedded db ∧
      ids.length ≤ valueLimit ∧ ∃ t, db.tables.items = some t ∧ r = .ofRows
        (((t.rows.filter fun row => ids.any fun id => row.orderId == .int id).mergeSort
          ItemRow.before).map ItemRow.cells) := by
  rw [send_through (answer_items rfl)]
  simp only [Tables.onItems]
  constructor
  · rintro ⟨hc, t, t', ht, hq, rfl⟩
    split at hq
    · cases hq
    · next hfew =>
      obtain ⟨rfl, rfl⟩ := Prod.mk.inj (Except.ok.inj hq)
      exact ⟨hc, by rw [← ht], by omega, t, ht, rfl⟩
  · rintro ⟨hc, rfl, hfew, t, ht, rfl⟩
    refine ⟨hc, t, t, ht, ?_, by rw [← ht]⟩
    rw [if_neg (by omega)]

/-- the lines of one order -/
theorem selectLines_ok_iff {r : Reply} :
    send (.selectItems [id]) (.embedded db) = (.ok r, b) ↔ db.closed = false ∧ b = .embedded db ∧
      ∃ t, db.tables.items = some t ∧
        r = .ofRows (((linesOf t id).mergeSort ItemRow.before).map ItemRow.cells) := by
  rw [selectItems_ok_iff]
  simp [linesOf, valueLimit]

theorem selectOrder_ok_iff {c : String} {m : Cause} {keep : Bool} :
    readOne c m scan (.selectOrder id keep) (.embedded db) = (.ok o, b) ↔
      db.closed = false ∧ b = .embedded db ∧
        ∃ t r, db.tables.orders = some t ∧ t.get? id = some r ∧ r.order? = some o := by
  rw [readRow_ok_iff (answer_orders rfl) (fun _ => rfl) fun t ht => by rw [← ht]]
  simp only [scan_ok_iff]

/-- the lines of one order are loaded by the number of the line -/
theorem loadLines_ok_iff {os : List Order} :
    loadLines [o] (.embedded db) = (.ok os, b) ↔ db.closed = false ∧ b = .embedded db ∧
      ∃ t ls, db.tables.items = some t ∧
        List.Forall₂ (fun r l => ItemRow.line? r = some l)
          ((linesOf t o.id).mergeSort ItemRow.before) ls ∧
        os = [{ o with lines := some ls }] := by
  have hmem : ∀ t, ∀ r ∈ (linesOf t o.id).mergeSort ItemRow.before, r.orderId = .int o.id := by
    intro t r hr
    have := (List.mem_filter.mp (List.mem_mergeSort.mp hr)).2
    simpa using this
  have hattach : ∀ ls : List Line,
      attach (ls.map (o.id, ·)) [o] = [{ o with lines := some ls }] := by
    intro ls
    have hf : (ls.map (o.id, ·)).filter (·.1 == o.id) = ls.map (o.id, ·) := by
      rw [List.filter_eq_self]
      intro x hx
      obtain ⟨l, -, rfl⟩ := List.mem_map.mp hx
      simp
    have hs : ((ls.map (o.id, ·)).map Prod.snd) = ls := by
      rw [List.map_map]
      exact List.map_id ls
    simp only [attach, List.any_nil, Bool.false_eq_true, if_false, hf, hs]
  rw [loadLines, if_neg (by simp), Action.bind_ok_iff]
  simp only [allRows_ok_iff, List.map_cons, List.map_nil, selectLines_ok_iff, Action.pure_apply,
    Prod.mk.injEq, Outcome.ok.injEq]
  constructor
  · rintro ⟨v, _, ⟨r, ⟨hc, rfl, t, ht, rfl⟩, hv⟩, rfl, rfl⟩
    obtain ⟨ls, hls, rfl⟩ := (scanAll_ok_iff (hmem t)).mp hv
    exact ⟨hc, rfl, t, ls, ht, hls, hattach ls⟩
  · rintro ⟨hc, rfl, t, ls, ht, hls, rfl⟩
    exact ⟨_, _, ⟨_, ⟨hc, rfl, t, ht, rfl⟩, (scanAll_ok_iff (hmem t)).mpr ⟨ls, hls, rfl⟩⟩,
      hattach ls, rfl⟩

/-- **An order is read** from its row and from the rows that name it, by the number of the line. -/
theorem read_ok_iff {keep : Bool} : read keep id (.embedded db) = (.ok o, b) ↔
    db.closed = false ∧ b = .embedded db ∧
      ∃ t lines r o₀ ls, db.tables.orders = some t ∧ db.tables.items = some lines ∧
        t.get? id = some r ∧ r.order? = some o₀ ∧
        List.Forall₂ (fun r l => ItemRow.line? r = some l)
          ((linesOf lines id).mergeSort ItemRow.before) ls ∧
        o = { o₀ with lines := some ls } := by
  have hid : ∀ {t : Table OrderRow} {r : OrderRow} {o₀ : Order}, t.get? id = some r →
      r.order? = some o₀ → o₀.id = id := by
    intro t r o₀ hg ho
    rw [(OrderRow.order?_eq_some_iff.mp ho).1]
    exact (Table.get?_some hg).2
  unfold read
  rw [Action.bind_ok_iff]
  simp only [selectOrder_ok_iff, Action.bind_ok_iff]
  constructor
  · rintro ⟨o₀, _, ⟨hc, rfl, t, r, ht, hg, ho⟩, os, b₁, hl, hret⟩
    obtain ⟨-, rfl, lines, ls, hlines, hls, rfl⟩ := loadLines_ok_iff.mp hl
    rw [hid hg ho] at hls
    obtain ⟨rfl, rfl⟩ : _ = o ∧ _ = b := by simpa using hret
    exact ⟨hc, rfl, t, lines, r, o₀, ls, ht, hlines, hg, ho, hls, rfl⟩
  · rintro ⟨hc, rfl, t, lines, r, o₀, ls, ht, hlines, hg, ho, hls, rfl⟩
    rw [← hid hg ho] at hls
    exact ⟨o₀, _, ⟨hc, rfl, t, r, ht, hg, ho⟩, _, _,
      loadLines_ok_iff.mpr ⟨hc, rfl, lines, ls, hlines, hls, rfl⟩, rfl⟩

/-! ## reading what was written -/

theorem storedNumber_getD (s : String) : (storedNumber s).getD "" = s := by
  unfold storedNumber
  by_cases h : s = ""
  · rw [if_pos h, h]
    rfl
  · rw [if_neg h]
    rfl

theorem order?_ofNew (id : Int) (hstor : o.Storable)
    (hc : (stored (.time o.createdAt)).time? = some o.createdAt)
    (hu : (stored (.time o.updatedAt)).time? = some o.updatedAt) :
    ∃ total : Decimal, total.value = o.total.value ∧
      (OrderRow.ofNew o id).order? = some { o with id, total, lines := some [] } := by
  obtain ⟨total, htotal, hval, -⟩ := amount?_text hstor.total
  exact ⟨total, hval, OrderRow.order?_eq_some_iff.mpr
    ⟨rfl, (storedNumber_getD o.number).symm, rfl, htotal, rfl, hc, hu⟩⟩

/-- a row that was changed keeps its id and its first day -/
theorem order?_update {r : OrderRow} (hid : r.id = o.id) (hstor : o.Storable)
    (hc : (stored r.createdAt).time? = some o.createdAt)
    (hu : (stored (.time o.updatedAt)).time? = some o.updatedAt) :
    ∃ total : Decimal, total.value = o.total.value ∧
      (OrderRow.update o r).order? = some { o with total, lines := some [] } := by
  obtain ⟨total, htotal, hval, -⟩ := amount?_text hstor.total
  exact ⟨total, hval, OrderRow.order?_eq_some_iff.mpr
    ⟨hid.symm, (storedNumber_getD o.number).symm, rfl, htotal, rfl, hc, hu⟩⟩

theorem lineRows_read (id : Int) {ls : List Line} (h : ∀ l ∈ ls, -2 ^ 31 ≤ l.unitPrice.exp)
    (i : Nat) (first : Int) : ∃ ls', List.Forall₂ Line.Alike ls' ls ∧
      List.Forall₂ (fun r l => ItemRow.line? r = some l) (lineRows id i first ls) ls' := by
  induction ls generalizing i first with
  | nil => exact ⟨[], .nil, .nil⟩
  | cons l ls ih =>
    obtain ⟨price, hprice, hval, -⟩ := amount?_text (h l List.mem_cons_self)
    obtain ⟨ls', halike, hread⟩ :=
      ih (fun x hx => h x (List.mem_cons_of_mem _ hx)) (i + 1) (first + 1)
    have hline : (ItemRow.ofLine id i l first).line? = some { l with unitPrice := price } :=
      ItemRow.line?_eq_some_iff.mpr ⟨rfl, rfl, rfl, hprice⟩
    have hlike : Line.Alike { l with unitPrice := price } l := ⟨rfl, rfl, rfl, hval⟩
    exact ⟨{ l with unitPrice := price } :: ls', .cons hlike halike, .cons hline hread⟩

/-- **A new order is read back** with the amounts and the lines that it was stored with, if no line
named its id before. -/
theorem read_withNew {t : Table OrderRow} {lines : Table ItemRow} {keep : Bool}
    (hclosed : db.closed = false) (hstor : o.Storable)
    (hc : (stored (.time o.createdAt)).time? = some o.createdAt)
    (hu : (stored (.time o.updatedAt)).time? = some o.updatedAt)
    (hnone : ∀ r ∈ lines.rows, r.orderId ≠ .int t.nextId) :
    ∃ (total : Decimal) (ls : List Line), total.value = o.total.value ∧
      List.Forall₂ Line.Alike ls o.items ∧
      read keep t.nextId (.embedded { db with tables := withNew db.tables t lines o })
        = (.ok { o with id := t.nextId, total, lines := some ls },
            .embedded { db with tables := withNew db.tables t lines o }) := by
  obtain ⟨total, hval, hrow⟩ := order?_ofNew t.nextId hstor hc hu
  obtain ⟨ls, halike, hread⟩ := lineRows_read t.nextId hstor.prices 0 lines.nextId
  have hempty : linesOf lines t.nextId = [] := by
    rw [linesOf, List.filter_eq_nil_iff]
    intro r hr
    simpa using hnone r hr
  have hlines : (linesOf (appendLines t.nextId 0 lines o.items) t.nextId).mergeSort ItemRow.before
      = lineRows t.nextId 0 lines.nextId o.items := by
    rw [linesOf_appendLines, hempty, List.nil_append]
    exact List.mergeSort_of_pairwise (lineRows_sorted t.nextId 0 lines.nextId o.items)
  refine ⟨total, ls, hval, halike, read_ok_iff.mpr ⟨hclosed, rfl, _, _, OrderRow.ofNew o t.nextId,
    _, ls, rfl, rfl, Table.get?_insert_new rfl, hrow, ?_, rfl⟩⟩
  rw [hlines]
  exact hread

end

end Orders

end OrderDesk.Store
