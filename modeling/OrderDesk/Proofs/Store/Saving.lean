import OrderDesk.Proofs.Store.Reading

/-!
# The ends of saving and removing an order

Saving and removing an order at rest, in a store that has its tables: what each ends in, whatever
the tables hold. A refusal leaves the store as it was.

* `Shelves`                        an open engine with its tables of orders and of lines;
* `insertLines_full`               the lines of an order need an id each;
* `save_of_ok`, `save_of_failed`, `save_of_forsaken`      a save at rest is a transaction of its own;
* `save_mismatch`, `save_missing`, `save_new_idless`, `save_new_taken`, `save_old_taken`,
  `save_new_full`, `save_old_full`                        the refusals;
* `save_new`, `save_old`           a new order, and one that is there;
* `delete_lacks`, `delete_there`   a removal;
* `exists?_shelves`                is an order there.
-/

namespace OrderDesk.Store.Orders

/-- An open engine with its tables of orders and of lines. -/
structure Shelves (db : Database) (book : Table OrderRow) (lines : Table ItemRow) : Prop where
  isOpen : db.closed = false
  orders : db.tables.orders = some book
  items : db.tables.items = some lines

section
variable {db : Database} {book : Table OrderRow} {lines : Table ItemRow} {o : Order} {id : Int}
  {f : Failure}

/-! ## rows -/

theorem send_orders_failed {q : Statement} (hq : q.subject = .orders) (h : Shelves db book lines)
    (hf : Tables.onOrders book q = .error f) :
    send q (.embedded db) = (.failed f, .embedded (db.refuse f)) := by
  refine send_failed_iff.mpr (.inr ⟨h.isOpen, ?_, rfl⟩)
  rw [answer_orders hq]
  exact through_error_iff.mpr (.inr ⟨book, h.orders, hf⟩)

theorem insertRow_failed (h : Shelves db book lines)
    (hf : Tables.onOrders book (.insertOrder (storedNumber o.number) o.status.name o.total o.createdAt
      o.updatedAt) = .error f) :
    insertRow o (.embedded db) = (.failed (.within "insert order" f), .embedded (db.refuse f)) := by
  refine Action.context_failed_iff.mpr ⟨f, ?_, rfl⟩
  rw [insertNew_embedded rfl]
  exact Action.bind_of_failed (send_orders_failed rfl h hf)

theorem changeOne_of_none {c : String} {cause : Cause} {q : Statement} {b b' : Backend}
    (h : send q b = (.ok (.changed 0), b')) : changeOne c cause q b = (.failed (.cause cause), b') := by
  unfold changeOne
  rw [Action.context_bind_of_ok h]
  rfl

theorem updateRow_missing (h : Shelves db book lines) (hget : book.get? o.id = none) :
    updateRow o (.embedded db) = (.failed (.cause (missing o.id)), .embedded db) := by
  have hsend : send (.updateOrder o.id (storedNumber o.number) o.status.name o.total o.updatedAt)
      (.embedded db) = (.ok (.changed 0), .embedded db) := by
    refine (send_through (answer_orders rfl)).mpr ⟨h.isOpen, book, book, h.orders, ?_, ?_⟩
    · simp only [Tables.onOrders, hget]
    · rw [← h.orders]
  exact Action.bind_of_failed (changeOne_of_none hsend)

theorem updateRow_taken (h : Shelves db book lines) (hget : (book.get? o.id).isSome)
    (htaken : Tables.numberTaken book (storedNumber o.number) o.id = true) :
    updateRow o (.embedded db) = (.failed (.within ("update order " ++ toString o.id)
      (notUnique "orders.order_number")), .embedded db) := by
  obtain ⟨row, hget⟩ := Option.isSome_iff_exists.mp hget
  have hsend := send_orders_failed (q := .updateOrder o.id (storedNumber o.number) o.status.name
    o.total o.updatedAt) rfl h (f := notUnique "orders.order_number") (by
      simp only [Tables.onOrders, hget]
      exact if_pos htaken)
  rw [Database.refuse_of_ne (by decide)] at hsend
  refine Action.bind_of_failed (Action.bind_of_failed ?_)
  exact Action.context_failed_iff.mpr ⟨_, hsend, rfl⟩

/-- **The lines of an order need an id each**; without one the engine gives the transaction up. -/
theorem insertLines_full (id : Int) (i : Nat) (h : Shelves db book lines) {ts : Tables}
    (hsaved : db.saved = some (.start ts)) {ls : List Line} (hne : ls ≠ [])
    (hfull : 2 ^ 63 < lines.nextId + ls.length) :
    ∃ c, insertLines id i ls (.embedded db) = (.failed (.within c idsExhausted),
      .embedded { db with tables := ts, saved := some .lost }) := by
  induction ls generalizing i db lines with
  | nil => exact absurd rfl hne
  | cons l ls ih =>
    rw [List.length_cons] at hfull
    by_cases hroom : lines.nextId < 2 ^ 63
    · have hfirst : send (.insertItem id i l) (.embedded db) = _ :=
        (insertItem_ok_iff h.isOpen h.items).mpr ⟨hroom, rfl, rfl⟩
      have hnext : (lines.insert (ItemRow.ofLine id i l)).nextId = lines.nextId + 1 :=
        Table.nextId_insert rfl
      have hls : ls ≠ [] := by
        rintro rfl
        simp only [List.length_nil] at hfull
        omega
      have hshelves : Shelves { db with tables := { db.tables with
          items := some (lines.insert (ItemRow.ofLine id i l)) } } book
          (lines.insert (ItemRow.ofLine id i l)) := ⟨h.isOpen, h.orders, rfl⟩
      obtain ⟨c, hrest⟩ := ih (i + 1) hshelves hsaved hls (by omega)
      refine ⟨c, ?_⟩
      rw [insertLines, Action.context_bind_of_ok hfirst]
      exact hrest
    · have hfirst : send (.insertItem id i l) (.embedded db)
          = (.failed idsExhausted, .embedded (db.refuse idsExhausted)) := by
        refine send_failed_iff.mpr (.inr ⟨h.isOpen, ?_, rfl⟩)
        have hinsert : Tables.inserted lines none (ItemRow.ofLine id i l) = .error idsExhausted :=
          inserted_full (not_lt.mp hroom)
        rw [answer_items rfl]
        exact through_error_iff.mpr (.inr ⟨lines, h.items, hinsert⟩)
      rw [Database.refuse, hsaved] at hfirst
      exact ⟨_, Action.context_bind_of_failed hfirst⟩

/-! ## saving -/

theorem save_mismatch {b : Backend} (h : ¬ o.Balanced) :
    save o b = (.failed (.cause (.mismatch o.id o.total o.itemTotal)), b) := by
  have hne : ¬ o.itemTotal.eqv o.total = true := fun heq => h (Order.balanced_iff.mp heq)
  unfold save write
  rw [if_neg hne]
  rfl

/-- what a save does in its transaction -/
def writing (o : Order) : Action Draft Unit := do
  let id ← onStore (storeRow o)
  Action.change fun d => { d with id }
  onStore (insertLines id 0 o.items)

section
variable {b b₁ b₂ : Backend} {j : Int}

theorem writing_of_ok (hrow : storeRow o b = (.ok id, b₁))
    (hlines : insertLines id 0 o.items b₁ = (.ok (), b₂)) :
    writing o ⟨b, j⟩ = (.ok (), ⟨b₂, id⟩) := by
  have hstored : (onStore (storeRow o) : Action Draft Int) ⟨b, j⟩ = (.ok id, ⟨b₁, j⟩) :=
    Action.on_of_eq hrow
  have happended : (onStore (insertLines id 0 o.items) : Action Draft Unit) ⟨b₁, id⟩
      = (.ok (), ⟨b₂, id⟩) := Action.on_of_eq hlines
  unfold writing
  rw [Action.bind_of_ok hstored]
  exact happended

theorem writing_of_row_failed (hrow : storeRow o b = (.failed f, b₁)) :
    writing o ⟨b, j⟩ = (.failed f, ⟨b₁, j⟩) := by
  have hstored : (onStore (storeRow o) : Action Draft Int) ⟨b, j⟩ = (.failed f, ⟨b₁, j⟩) :=
    Action.on_of_eq hrow
  exact Action.bind_of_failed hstored

theorem writing_of_lines_failed (hrow : storeRow o b = (.ok id, b₁))
    (hlines : insertLines id 0 o.items b₁ = (.failed f, b₂)) :
    writing o ⟨b, j⟩ = (.failed f, ⟨b₂, id⟩) := by
  have hstored : (onStore (storeRow o) : Action Draft Int) ⟨b, j⟩ = (.ok id, ⟨b₁, j⟩) :=
    Action.on_of_eq hrow
  have happended : (onStore (insertLines id 0 o.items) : Action Draft Unit) ⟨b₁, id⟩
      = (.failed f, ⟨b₂, id⟩) := Action.on_of_eq hlines
  unfold writing
  rw [Action.bind_of_ok hstored]
  exact happended

end

section
variable {ts : Tables} {d : Draft}

theorem write_eq (hb : o.Balanced) : write o = within (writing o) := if_pos (Order.balanced_iff.mpr hb)

/-- **A save at rest commits what was written.** -/
theorem save_of_ok (hb : o.Balanced) (hrest : db.saved = none) (hopen : db.closed = false)
    (h : writing o ⟨.embedded (inside db db.tables), o.id⟩
      = (.ok (), ⟨.embedded (inside db ts), id⟩)) :
    save o (.embedded db) = (.ok { o with id }, .embedded { db with tables := ts }) := by
  have hwrite := within_of_ok (s := (⟨.embedded db, o.id⟩ : Draft)) rfl hrest hopen h rfl
  unfold save
  rw [write_eq hb, hwrite]
  rfl

/-- **A save at rest that fails leaves the store as it was.** -/
theorem save_of_failed (hb : o.Balanced) (hrest : db.saved = none) (hopen : db.closed = false)
    (h : writing o ⟨.embedded (inside db db.tables), o.id⟩ = (.failed f, d))
    (hd : d.store = .embedded (inside db ts)) :
    save o (.embedded db) = (.failed f, .embedded db) := by
  have hwrite := within_of_failed (s := (⟨.embedded db, o.id⟩ : Draft)) rfl hrest hopen h hd
  unfold save
  rw [write_eq hb, hwrite]
  rfl

/-- a save at rest for which no id is left: the store is as it was, and the failure also says that
no transaction was left to undo -/
theorem save_of_forsaken (hb : o.Balanced) (hrest : db.saved = none) (hopen : db.closed = false)
    (h : writing o ⟨.embedded (inside db db.tables), o.id⟩ = (.failed f, d))
    (hd : d.store = .embedded (forsaken db)) :
    save o (.embedded db) = (.failed (unended f), .embedded db) := by
  have hwrite := within_of_forsaken (s := (⟨.embedded db, o.id⟩ : Draft)) rfl hrest hopen h hd
  unfold save
  rw [write_eq hb, hwrite]
  rfl

end

theorem storeRow_new (hid : o.id = 0) : storeRow o = insertRow o := if_pos hid

theorem Shelves.inside (h : Shelves db book lines) : Shelves (inside db db.tables) book lines :=
  ⟨h.isOpen, h.orders, h.items⟩

/-- There are ids for the lines of an order. -/
def Fits (lines : Table ItemRow) (o : Order) : Prop :=
  o.items = [] ∨ lines.nextId + o.items.length ≤ 2 ^ 63

section
variable {ts : Tables} (hb : o.Balanced) (hrest : db.saved = none)
  (hrow : storeRow o (.embedded (Store.inside db db.tables)) = (.ok id, .embedded (Store.inside db ts)))
  (h : Shelves (Store.inside db ts) book lines)

include hb hrest hrow h

/-- once its row is written, an order is stored with its lines if there are ids for them -/
theorem save_of_row (hfits : Fits lines o) : save o (.embedded db) = (.ok { o with id },
    .embedded { db with tables := { ts with items := some (appendLines id 0 lines o.items) } }) :=
  save_of_ok hb hrest h.isOpen
    (writing_of_ok hrow ((insertLines_ok_iff h.isOpen h.items).mpr ⟨hfits, rfl⟩))

theorem save_of_row_full (hfull : ¬ Fits lines o) :
    ∃ c, save o (.embedded db) = (.failed (unended (.within c idsExhausted)), .embedded db) := by
  obtain ⟨hne, hlt⟩ := not_or.mp hfull
  obtain ⟨c, hlines⟩ := insertLines_full id 0 h rfl hne (not_le.mp hlt)
  exact ⟨c, save_of_forsaken hb hrest h.isOpen (writing_of_lines_failed hrow hlines) rfl⟩

end

/-! ## a new order -/

section
variable (h : Shelves db book lines) (hrest : db.saved = none) (hb : o.Balanced) (hid : o.id = 0)

include h hrest hb hid

/-- a new order needs an id before its number is looked at -/
theorem save_new_idless (hfull : 2 ^ 63 ≤ book.nextId) : save o (.embedded db)
    = (.failed (unended (.within "insert order" idsExhausted)), .embedded db) := by
  have hrow := insertRow_failed (o := o) h.inside (inserted_full hfull)
  rw [← storeRow_new hid] at hrow
  exact save_of_forsaken hb hrest h.isOpen (writing_of_row_failed hrow) rfl

variable (hroom : book.nextId < 2 ^ 63)

include hroom

theorem save_new_taken (htaken : Tables.numberTaken book (storedNumber o.number) book.nextId = true) :
    save o (.embedded db) = (.failed (.within "insert order" (notUnique "orders.order_number")),
      .embedded db) := by
  have hrefused : Tables.onOrders book (.insertOrder (storedNumber o.number) o.status.name o.total
      o.createdAt o.updatedAt) = .error (notUnique "orders.order_number") := by
    simp only [Tables.onOrders, htaken, if_true]
    exact inserted_refused hroom
  have hrow := insertRow_failed h.inside hrefused
  rw [← storeRow_new hid, Database.refuse_of_ne (by decide)] at hrow
  exact save_of_failed hb hrest h.isOpen (writing_of_row_failed hrow) rfl

variable (hfree : Tables.numberTaken book (storedNumber o.number) book.nextId = false)

include hfree

theorem save_new_full (hfull : ¬ Fits lines o) :
    ∃ c, save o (.embedded db) = (.failed (unended (.within c idsExhausted)), .embedded db) := by
  have hrow := insertRow_ok_iff.mpr ⟨h.inside.isOpen, book, h.orders, hfree, hroom, rfl, rfl⟩
  rw [← storeRow_new hid] at hrow
  exact save_of_row_full hb hrest hrow ⟨h.isOpen, rfl, h.items⟩ hfull

theorem save_new (hfits : Fits lines o) :
    save o (.embedded db) = (.ok { o with id := book.nextId },
      .embedded { db with tables := withNew db.tables book lines o }) := by
  have hrow := insertRow_ok_iff.mpr ⟨h.inside.isOpen, book, h.orders, hfree, hroom, rfl, rfl⟩
  rw [← storeRow_new hid] at hrow
  exact save_of_row hb hrest hrow ⟨h.isOpen, rfl, h.items⟩ hfits

end

/-! ## an order that was there -/

section
variable (h : Shelves db book lines) (hrest : db.saved = none) (hb : o.Balanced) (hid : o.id ≠ 0)

include h hrest hb hid

theorem save_missing (hget : book.get? o.id = none) :
    save o (.embedded db) = (.failed (.cause (missing o.id)), .embedded db) := by
  have hrow : storeRow o (.embedded (Store.inside db db.tables))
      = (.failed (.cause (missing o.id)), .embedded (Store.inside db db.tables)) := by
    rw [storeRow, if_neg hid]
    exact Action.bind_of_failed (updateRow_missing h.inside hget)
  exact save_of_failed hb hrest h.isOpen (writing_of_row_failed hrow) rfl

variable (hget : (book.get? o.id).isSome)

include hget

theorem save_old_taken (htaken : Tables.numberTaken book (storedNumber o.number) o.id = true) :
    save o (.embedded db) = (.failed (.within ("update order " ++ toString o.id)
      (notUnique "orders.order_number")), .embedded db) := by
  have hrow : storeRow o (.embedded (Store.inside db db.tables))
      = (.failed (.within ("update order " ++ toString o.id) (notUnique "orders.order_number")),
          .embedded (Store.inside db db.tables)) := by
    rw [storeRow, if_neg hid]
    exact Action.bind_of_failed (updateRow_taken h.inside hget htaken)
  exact save_of_failed hb hrest h.isOpen (writing_of_row_failed hrow) rfl

variable (hfree : Tables.numberTaken book (storedNumber o.number) o.id = false)

include hfree

omit hrest hb in
theorem storeRow_old : storeRow o (.embedded (Store.inside db db.tables)) = (.ok o.id,
    .embedded (Store.inside db { db.tables with
      orders := some (book.update o.id (OrderRow.update o)),
      items := some (lines.erase (·.orderId == .int o.id)) })) := by
  have hchanged := updateRow_ok_iff.mpr
    ⟨h.inside.isOpen, book, lines, h.orders, h.items, hget, hfree, rfl⟩
  rw [storeRow, if_neg hid, Action.bind_of_ok hchanged]
  rfl

theorem save_old_full (hfull : ¬ Fits (lines.erase (·.orderId == .int o.id)) o) :
    ∃ c, save o (.embedded db) = (.failed (unended (.within c idsExhausted)), .embedded db) :=
  save_of_row_full hb hrest (storeRow_old h hid hget hfree) ⟨h.isOpen, rfl, rfl⟩ hfull

theorem save_old (hfits : Fits (lines.erase (·.orderId == .int o.id)) o) :
    save o (.embedded db) = (.ok o,
      .embedded { db with tables := withChanged db.tables book lines o }) :=
  save_of_row hb hrest (storeRow_old h hid hget hfree) ⟨h.isOpen, rfl, rfl⟩ hfits

end

/-! ## removing -/

/-- what a removal does in its transaction -/
def removing (id : Int) : Action Backend Unit := do
  let _ ← (send (.deleteItems id)).context ("delete items of order " ++ toString id)
  changeOne ("delete order " ++ toString id) (missing id) (.deleteOrder id)

/-- the tables after an order and its lines were removed -/
def erased (ts : Tables) (book : Table OrderRow) (lines : Table ItemRow) (id : Int) : Tables :=
  { ts with
    orders := some (book.erase (·.id == id)), items := some (lines.erase (·.orderId == .int id)) }

section
variable (h : Shelves db book lines)

include h

theorem removing_eq (id : Int) : removing id (.embedded db) =
    (if book.count (·.id == id) = 0 then .failed (.cause (missing id)) else .ok (),
      .embedded { db with tables := erased db.tables book lines id }) := by
  have hlines : send (.deleteItems id) (.embedded db)
      = (.ok (.changed (lines.count (·.orderId == .int id))), .embedded { db with
          tables := { db.tables with items := some (lines.erase (·.orderId == .int id)) } }) :=
    (send_through (answer_items rfl)).mpr ⟨h.isOpen, lines, _, h.items, rfl, rfl⟩
  have hrow : send (.deleteOrder id) (.embedded { db with tables := { db.tables with
        items := some (lines.erase (·.orderId == .int id)) } })
      = (.ok (.changed (book.count (·.id == id))),
          .embedded { db with tables := erased db.tables book lines id }) :=
    (send_through (answer_orders rfl)).mpr ⟨h.isOpen, book, _, h.orders, rfl, rfl⟩
  unfold removing
  rw [Action.context_bind_of_ok hlines]
  by_cases hnone : book.count (·.id == id) = 0
  · rw [hnone] at hrow
    rw [if_pos hnone]
    exact changeOne_of_none hrow
  · rw [if_neg hnone]
    exact changeOne_ok_iff.mpr ⟨_, _, hrow, rfl, hnone⟩

theorem removing_there (hget : (book.get? id).isSome) : removing id (.embedded db)
    = (.ok (), .embedded { db with tables := erased db.tables book lines id }) := by
  have hsome : book.count (·.id == id) ≠ 0 := fun h0 => by
    simp [Table.count_id_eq_zero_iff.mp h0] at hget
  rw [removing_eq h, if_neg hsome]

variable (hrest : db.saved = none)

include hrest

theorem delete_lacks (hget : book.get? id = none) :
    delete id (.embedded db) = (.failed (.cause (missing id)), .embedded db) := by
  have hnone : book.count (·.id == id) = 0 := Table.count_id_eq_zero_iff.mpr hget
  have hbody := removing_eq h.inside id
  rw [if_pos hnone] at hbody
  exact within_of_failed rfl hrest h.isOpen hbody rfl

theorem delete_there (hget : (book.get? id).isSome) : delete id (.embedded db)
    = (.ok (), .embedded { db with tables := erased db.tables book lines id }) :=
  within_of_ok rfl hrest h.isOpen (removing_there h.inside hget) rfl

end

theorem exists?_shelves (h : Shelves db book lines) (id : Int) :
    exists? id (.embedded db) = (.ok (book.get? id).isSome, .embedded db) := by
  have hcount : send (.countOrder id) (.embedded db)
      = (.ok (.number (book.count (·.id == id))), .embedded db) :=
    (query_ok_iff (answer_orders rfl) (fun _ => rfl) fun t ht => by rw [← ht]).mpr
      ⟨h.isOpen, rfl, book, h.orders, rfl⟩
  have hfirst : firstRow scanInt (.countOrder id) (.embedded db)
      = (.ok (book.count (·.id == id)), .embedded db) :=
    firstRow_ok_iff.mpr ⟨_, _, [], hcount, rfl, rfl⟩
  have hpos : decide (0 < book.count (·.id == id)) = (book.get? id).isSome := by
    have hzero : book.count (·.id == id) = 0 ↔ book.get? id = none :=
      Table.count_id_eq_zero_iff
    have hnat : 0 ≤ book.count (·.id == id) := Int.natCast_nonneg _
    cases hget : book.get? id with
    | none => simp [hzero.mpr hget]
    | some row =>
      have hne : book.count (·.id == id) ≠ 0 := fun h0 => by simp [hzero.mp h0] at hget
      simp only [Option.isSome_some, decide_eq_true_eq]
      omega
  unfold exists?
  rw [Action.context_bind_of_ok hfirst, ← hpos]
  rfl

end

end OrderDesk.Store.Orders
