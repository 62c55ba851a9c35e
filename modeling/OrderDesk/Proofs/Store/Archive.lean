import Mathlib.Logic.Function.Basic
import OrderDesk.Proofs.Store.Saving

/-!
# The store of orders as a map

To its callers the store is a map from ids to orders. Every call on it answers as the map does,
whatever was called before, and leaves the tables holding what the map then is.

* `Archive`                 the map, with the greatest id given out and the lines written so far;
* `Archive.perform`         what a call on the map answers, and the map after it;
* `Filed`                   the tables hold the map: a row for each order, and its lines in order;
* `Filed.add`, `Filed.replace`, `Filed.remove`      the three changes of an order;
* `Holds.perform`           one call: the same answer, and the tables hold the map after it;
* `orders_refine_archive`   every run of calls on a new store.
-/

namespace OrderDesk

/-- A time of the calendar, shown in UTC. -/
def Stamp.Universal (t : Stamp) : Prop := t.offset = 0 ∧ t.InCalendar

theorem Stamp.Universal.time?_stored {t : Stamp} (h : t.Universal) :
    (Store.stored (.time t)).time? = some t := by
  have hutc : t.utc = t := by
    rw [Stamp.utc, ← h.1]
  rw [← hutc]
  exact Store.time?_stored (by rw [hutc]; exact h.2)

/-- An order whose amounts have texts that read back and whose times are universal. -/
structure Order.Fileable (o : Order) : Prop where
  storable : o.Storable
  createdAt : o.createdAt.Universal
  updatedAt : o.updatedAt.Universal

namespace Store

open Orders (Shelves storedNumber)

/-! ## the map -/

/-- What the store is to its callers: an order under each id in use, the greatest id that an order
was given, and how many lines were ever written. -/
structure Archive where
  order? : Int → Option Order := fun _ => none
  lastId : Int := 0
  lineCount : Int := 0

/-- Why a call on the map is refused. -/
inductive Refusal where
  | mismatch (o : Order)
  | missing (id : Int)
  | numberTaken
  | full

namespace Archive

variable (a : Archive)

/-- An order other than `besides` has the number; the empty number is none. -/
def Uses (number : String) (besides : Int) : Prop :=
  number ≠ "" ∧ ∃ id o, a.order? id = some o ∧ o.number = number ∧ id ≠ besides

/-- There are ids for the lines of an order. -/
def HasRoom (o : Order) : Prop := o.items = [] ∨ a.lineCount + 1 + o.items.length ≤ 2 ^ 63

open Classical in
/-- adds an order under an id greater than any that was given out -/
noncomputable def add (o : Order) : Except Refusal Order × Archive :=
  if 2 ^ 63 ≤ a.lastId + 1 then (.error .full, a)
  else if a.Uses o.number o.id then (.error .numberTaken, a)
  else if a.HasRoom o then
    let o := { o with id := a.lastId + 1 }
    (.ok o, ⟨Function.update a.order? o.id (some o), o.id, a.lineCount + o.items.length⟩)
  else (.error .full, a)

open Classical in
/-- puts an order in the place of `old`, which keeps the time of its creation -/
noncomputable def replace (old o : Order) : Except Refusal Order × Archive :=
  if a.Uses o.number o.id then (.error .numberTaken, a)
  else if a.HasRoom o then
    (.ok o, ⟨Function.update a.order? o.id (some { o with createdAt := old.createdAt }), a.lastId,
      a.lineCount + o.items.length⟩)
  else (.error .full, a)

open Classical in
noncomputable def save (o : Order) : Except Refusal Order × Archive :=
  if ¬ o.Balanced then (.error (.mismatch o), a)
  else if o.id = 0 then a.add o
  else match a.order? o.id with
    | none => (.error (.missing o.id), a)
    | some old => a.replace old o

def delete (id : Int) : Except Refusal Unit × Archive :=
  match a.order? id with
  | none => (.error (.missing id), a)
  | some _ => (.ok (), { a with order? := Function.update a.order? id none })

def get (id : Int) : Except Refusal Order :=
  match a.order? id with
  | none => .error (.missing id)
  | some o => .ok o

end Archive

/-! ## calls -/

/-- A call on the store of orders. -/
inductive OrderCall where
  | save (o : Order)
  | get (id : Int)
  | lock (id : Int)
  | exists? (id : Int)
  | delete (id : Int)

/-- What a call gives back. -/
inductive OrderAnswer where
  | saved (o : Order)
  | found (o : Order)
  | there (b : Bool)
  | removed

def OrderCall.perform : OrderCall → Action Backend OrderAnswer
  | save o => do return .saved (← Orders.save o)
  | get id => do return .found (← Orders.get id)
  | lock id => do return .found (← Orders.lock id)
  | exists? id => do return .there (← Orders.exists? id)
  | delete id => do
    Orders.delete id
    return .removed

noncomputable def Archive.perform (a : Archive) : OrderCall → Except Refusal OrderAnswer × Archive
  | .save o => ((a.save o).1.map .saved, (a.save o).2)
  | .get id | .lock id => ((a.get id).map .found, a)
  | .exists? id => (.ok (.there (a.order? id).isSome), a)
  | .delete id => ((a.delete id).1.map fun _ => .removed, (a.delete id).2)

/-- An order that is saved has amounts and times that can be read back. -/
def OrderCall.Regular : OrderCall → Prop
  | save o => o.Fileable
  | _ => True

/-- The answer of the store is that of the map; what is found may spell its amounts in another way. -/
def OrderAnswer.Alike : OrderAnswer → OrderAnswer → Prop
  | saved o, saved o' => o = o'
  | found o, found o' => o.Alike o'
  | there b, there b' => b = b'
  | removed, removed => True
  | _, _ => False

/-- A refusal of the map is why the store fails. -/
def Refusal.Explains : Refusal → Failure → Prop
  | mismatch o, f => f = .cause (.mismatch o.id o.total o.itemTotal)
  | missing id, f => f = .cause (Orders.missing id)
  | numberTaken, f => ∃ c, f = .within c (notUnique "orders.order_number")
  | full, f => ∃ c, f = unended (.within c idsExhausted)

/-- The store ends as the map answers. -/
def Agrees {α β : Type} (same : α → β → Prop) : Outcome α → Except Refusal β → Prop
  | .ok x, .ok y => same x y
  | .failed f, .error r => r.Explains f
  | _, _ => False

/-! ## tables that hold the map -/

/-- The tables hold the map: a row for each order and its lines in order, under ids that were given
out. -/
structure Filed (a : Archive) (book : Table OrderRow) (lines : Table ItemRow) : Prop where
  keyed : book.Keyed
  counted : book.Counted
  lastId : book.lastId = a.lastId
  lineCounted : lines.Counted
  lineCount : lines.lastId = a.lineCount
  row : ∀ id, book.get? id = (a.order? id).map fun o => OrderRow.ofNew o id
  lines : ∀ id, ∃ first, linesOf lines id
    = lineRows id 0 first ((a.order? id).elim [] Order.items)
  orders : ∀ id o, a.order? id = some o → o.id = id ∧ o.Fileable

theorem counted_appendLines {id : Int} {i : Nat} {lines : Table ItemRow} {ls : List Line}
    (h : lines.Counted) : (appendLines id i lines ls).Counted := by
  induction ls generalizing i lines with
  | nil => exact h
  | cons l ls ih => exact ih (Table.Counted.insert rfl)

theorem lastId_appendLines {id : Int} {i : Nat} {lines : Table ItemRow} {ls : List Line}
    (h : lines.Counted) : (appendLines id i lines ls).lastId = lines.lastId + ls.length := by
  have hnext := nextId_appendLines id i lines ls
  rw [(counted_appendLines h).nextId_eq, h.nextId_eq] at hnext
  omega

theorem storedNumber_inj {s t : String} : storedNumber s = storedNumber t ↔ s = t := by
  refine ⟨fun h => ?_, congrArg _⟩
  have := congrArg (·.getD "") h
  simpa only [Orders.storedNumber_getD] using this

namespace Filed

variable {a : Archive} {book : Table OrderRow} {lines : Table ItemRow} {o old : Order} {id : Int}

theorem empty : Filed {} {} {} :=
  ⟨.empty, .empty, rfl, .empty, rfl, fun _ => rfl, fun _ => ⟨0, rfl⟩, nofun⟩

theorem positive (h : Filed a book lines) (ho : a.order? id = some o) : 0 < id ∧ id ≤ a.lastId := by
  have hget := h.row id
  rw [ho] at hget
  obtain ⟨hmem, hid⟩ := Table.get?_some hget
  have hpos := h.keyed.positive _ hmem
  have hle := h.counted _ hmem
  rw [hid] at hpos hle
  rw [← h.lastId]
  exact ⟨hpos, hle⟩

theorem taken_iff (h : Filed a book lines) {number : String} {besides : Int} :
    Tables.numberTaken book (storedNumber number) besides = true ↔ a.Uses number besides := by
  unfold Tables.numberTaken Archive.Uses
  rw [Bool.and_eq_true, List.any_eq_true]
  refine and_congr ?_ ⟨?_, ?_⟩
  · unfold storedNumber
    split <;> simp [*]
  · rintro ⟨r, hr, hsame⟩
    have hget := Table.get?_of_mem h.keyed.unique hr
    rw [h.row] at hget
    obtain ⟨o, ho, hrow⟩ := Option.map_eq_some_iff.mp hget
    simp only [Bool.and_eq_true, beq_iff_eq, bne_iff_ne] at hsame
    have hnumber : storedNumber o.number = storedNumber number :=
      (congrArg OrderRow.number hrow).trans hsame.1
    exact ⟨_, o, ho, storedNumber_inj.mp hnumber, hsame.2⟩
  · rintro ⟨id, o, ho, rfl, hne⟩
    have hget := h.row id
    rw [ho] at hget
    refine ⟨_, (Table.get?_some hget).1, ?_⟩
    simpa [OrderRow.ofNew] using hne

theorem taken_eq_false_iff (h : Filed a book lines) {number : String} {besides : Int} :
    Tables.numberTaken book (storedNumber number) besides = false ↔ ¬ a.Uses number besides := by
  rw [← h.taken_iff, Bool.not_eq_true]

theorem nextId_eq (h : Filed a book lines) : book.nextId = a.lastId + 1 := by
  rw [h.counted.nextId_eq, h.lastId]

theorem lines_nextId_eq (h : Filed a book lines) : lines.nextId = a.lineCount + 1 := by
  rw [h.lineCounted.nextId_eq, h.lineCount]

theorem order?_nextId (h : Filed a book lines) : a.order? (a.lastId + 1) = none := by
  cases ho : a.order? (a.lastId + 1) with
  | none => rfl
  | some o =>
    have := (h.positive ho).2
    omega

/-- a new order has the number of no other, whether it is known by its old id or by its new one -/
theorem uses_nextId (h : Filed a book lines) {number : String} :
    a.Uses number book.nextId ↔ a.Uses number 0 := by
  unfold Archive.Uses
  refine and_congr_right fun _ => exists_congr fun id => exists_congr fun o =>
    and_congr_right fun ho => and_congr_right fun _ => ?_
  have := h.positive ho
  rw [h.nextId_eq]
  omega

theorem get?_isSome (h : Filed a book lines) (id : Int) :
    (book.get? id).isSome = (a.order? id).isSome := by
  rw [h.row, Option.isSome_map]

theorem get?_eq_none (h : Filed a book lines) (hnone : a.order? id = none) : book.get? id = none := by
  rw [h.row, hnone]
  rfl

/-! ## the changes of an order -/

/-- **An order is added** under the next id. -/
theorem add (h : Filed a book lines) (ho : o.Fileable) :
    Filed ⟨Function.update a.order? (a.lastId + 1) (some { o with id := a.lastId + 1 }), a.lastId + 1,
        a.lineCount + o.items.length⟩
      (book.insert (OrderRow.ofNew o)) (appendLines book.nextId 0 lines o.items) where
  keyed := h.keyed.insert rfl
  counted := Table.Counted.insert rfl
  lastId := h.nextId_eq
  lineCounted := counted_appendLines h.lineCounted
  lineCount := by rw [lastId_appendLines h.lineCounted, h.lineCount]
  row id := by
    dsimp only
    by_cases hid : id = a.lastId + 1
    · rw [hid, Function.update_self, ← h.nextId_eq, Table.get?_insert_new rfl]
      rfl
    · rw [Function.update_of_ne hid, Table.get?_insert_ne rfl (h.nextId_eq ▸ hid), h.row]
  lines id := by
    dsimp only
    rw [h.nextId_eq]
    by_cases hid : id = a.lastId + 1
    · obtain ⟨first, hnone⟩ := h.lines id
      rw [hid, h.order?_nextId] at hnone
      refine ⟨lines.nextId, ?_⟩
      rw [hid, Function.update_self, linesOf_appendLines, hnone]
      rfl
    · rw [Function.update_of_ne hid, linesOf_appendLines_ne hid]
      exact h.lines id
  orders id o' ho' := by
    dsimp only at ho'
    by_cases hid : id = a.lastId + 1
    · rw [hid, Function.update_self] at ho'
      rw [← Option.some.inj ho', hid]
      exact ⟨rfl, ⟨ho.storable.total, ho.storable.prices⟩, ho.createdAt, ho.updatedAt⟩
    · rw [Function.update_of_ne hid] at ho'
      exact h.orders id o' ho'

/-- **An order is replaced**, and keeps the time of its creation. -/
theorem replace (h : Filed a book lines) (hold : a.order? o.id = some old) (ho : o.Fileable) :
    Filed ⟨Function.update a.order? o.id (some { o with createdAt := old.createdAt }), a.lastId,
        a.lineCount + o.items.length⟩
      (book.update o.id (OrderRow.update o))
      (appendLines o.id 0 (lines.erase (·.orderId == .int o.id)) o.items) where
  keyed := h.keyed.update fun _ => rfl
  counted := h.counted.update fun _ => rfl
  lastId := h.lastId
  lineCounted := counted_appendLines h.lineCounted.erase
  lineCount := by
    rw [lastId_appendLines h.lineCounted.erase]
    exact congrArg (· + _) h.lineCount
  row id := by
    have hkeep : ∀ r, HasId.id (OrderRow.update o r) = HasId.id r := fun _ => rfl
    dsimp only
    by_cases hid : id = o.id
    · rw [hid, Function.update_self, Table.get?_update hkeep, if_pos rfl, h.row, hold]
      rfl
    · rw [Function.update_of_ne hid, Table.get?_update_ne hkeep hid, h.row]
  lines id := by
    dsimp only
    by_cases hid : id = o.id
    · -- the old lines go first, so the new ones begin at the next free id
      refine ⟨(lines.erase (·.orderId == .int o.id)).nextId, ?_⟩
      rw [hid, Function.update_self, linesOf_appendLines, linesOf_erase]
      rfl
    · rw [Function.update_of_ne hid, linesOf_appendLines_ne hid, linesOf_erase_ne hid]
      exact h.lines id
  orders id o' ho' := by
    dsimp only at ho'
    by_cases hid : id = o.id
    · rw [hid, Function.update_self] at ho'
      rw [← Option.some.inj ho', hid]
      exact ⟨rfl, ⟨ho.storable.total, ho.storable.prices⟩, (h.orders _ _ hold).2.createdAt,
        ho.updatedAt⟩
    · rw [Function.update_of_ne hid] at ho'
      exact h.orders id o' ho'

/-- **An order is removed** with its lines; its id is not given out again. -/
theorem remove (h : Filed a book lines) (id : Int) :
    Filed { a with order? := Function.update a.order? id none } (book.erase (·.id == id))
      (lines.erase (·.orderId == .int id)) where
  keyed := h.keyed.erase
  counted := h.counted.erase
  lastId := h.lastId
  lineCounted := h.lineCounted.erase
  lineCount := h.lineCount
  row j := by
    dsimp only
    by_cases hj : j = id
    · rw [hj, Function.update_self]
      exact Table.get?_erase_self book id
    · rw [Function.update_of_ne hj, ← h.row]
      exact Table.get?_erase_ne hj
  lines j := by
    dsimp only
    by_cases hj : j = id
    · refine ⟨0, ?_⟩
      rw [hj, Function.update_self, linesOf_erase]
      rfl
    · rw [Function.update_of_ne hj, linesOf_erase_ne hj]
      exact h.lines j
  orders j o ho := by
    dsimp only at ho
    by_cases hj : j = id
    · rw [hj, Function.update_self] at ho
      cases ho
    · rw [Function.update_of_ne hj] at ho
      exact h.orders j o ho

/-! ## reading -/

/-- **An order of the map is read** as it is there. -/
theorem reads {ts : Tables} (h : Filed a book lines) (hbook : ts.orders = some book)
    (hlines : ts.items = some lines) (ho : a.order? id = some o) :
    ∃ o', ts.Reads id o' ∧ o'.Alike o := by
  obtain ⟨rfl, hgood⟩ := h.orders id o ho
  obtain ⟨first, hrows⟩ := h.lines o.id
  have hget := h.row o.id
  rw [ho] at hrows hget
  obtain ⟨amount, hval, hrow⟩ := Orders.order?_ofNew o.id hgood.storable
    hgood.createdAt.time?_stored hgood.updatedAt.time?_stored
  obtain ⟨total, ls, htotal, halike, hreads⟩ :=
    reads_written hbook hlines hget hval hrow hgood.storable hrows
  exact ⟨_, hreads, o.alike_of_lines htotal halike⟩

end Filed

/-! ## one call -/

/-- A store at rest holds the map. -/
def Holds (b : Backend) (a : Archive) : Prop :=
  ∃ db book lines, b = .embedded db ∧ db.saved = none ∧ Shelves db book lines ∧ Filed a book lines

/-- How a call ends on a store that holds the map: the answers agree, the store holds the map after
the call, and a refusal leaves both as they were. -/
structure Follows {α β : Type} (same : α → β → Prop) (b : Backend) (a : Archive)
    (r : Outcome α × Backend) (r' : Except Refusal β × Archive) : Prop where
  answer : Agrees same r.1 r'.1
  holds : Holds r.2 r'.2
  unchanged : ∀ e, r'.1 = .error e → r'.2 = a ∧ r.2 = b

namespace Follows

variable {α β α' β' : Type} {same : α → β → Prop} {same' : α' → β' → Prop} {b b' : Backend}
  {a a' : Archive}

theorem refused {f : Failure} {e : Refusal} (h : Holds b a) (he : e.Explains f) :
    Follows same b a (.failed f, b) (.error e, a) := ⟨he, h, fun _ _ => ⟨rfl, rfl⟩⟩

theorem answered {x : α} {y : β} (hsame : same x y) (h : Holds b' a') :
    Follows same b a (.ok x, b') (.ok y, a') := ⟨hsame, h, nofun⟩

theorem map {x : Action Backend α} {r' : Except Refusal β × Archive} {g : α → α'} {g' : β → β'}
    (h : Follows same b a (x b) r') (hg : ∀ v w, same v w → same' (g v) (g' w)) :
    Follows same' b a ((do return g (← x)) b) (r'.1.map g', r'.2) := by
  obtain ⟨answer', a'⟩ := r'
  rcases hx : x b with ⟨answer, b'⟩
  rw [hx] at h
  cases answer with
  | ok v =>
    rw [Action.bind_of_ok hx]
    cases answer' with
    | ok w => exact answered (hg v w h.answer) h.holds
    | error e => exact h.answer.elim
  | failed f =>
    rw [Action.bind_of_failed hx]
    cases answer' with
    | ok w => exact h.answer.elim
    | error e => exact ⟨h.answer, h.holds, fun _ _ => h.unchanged e rfl⟩
  | panicked t => exact h.answer.elim

end Follows

section
variable {db : Database} {a : Archive} {book : Table OrderRow} {lines : Table ItemRow}
  {o old : Order} {id : Int} (hrest : db.saved = none) (hs : Shelves db book lines)
  (h : Filed a book lines)

include hrest hs h

theorem holds : Holds (.embedded db) a := ⟨db, book, lines, rfl, hrest, hs, h⟩

theorem add_follows (hb : o.Balanced) (hid : o.id = 0) (ho : o.Fileable) :
    Follows Eq (.embedded db) a (Orders.save o (.embedded db)) (a.add o) := by
  have huses : a.Uses o.number book.nextId ↔ a.Uses o.number 0 := h.uses_nextId
  have hfits : Orders.Fits lines o ↔ a.HasRoom o := by
    unfold Orders.Fits Archive.HasRoom
    rw [h.lines_nextId_eq]
  have hstay := holds hrest hs h
  unfold Archive.add
  rw [hid, ← huses, ← h.nextId_eq, ← hfits]
  by_cases hidless : 2 ^ 63 ≤ book.nextId
  · rw [if_pos hidless, Orders.save_new_idless hs hrest hb hid hidless]
    exact .refused hstay ⟨_, rfl⟩
  have hroom := not_le.mp hidless
  rw [if_neg hidless]
  by_cases huse : a.Uses o.number book.nextId
  · rw [if_pos huse, Orders.save_new_taken hs hrest hb hid hroom (h.taken_iff.mpr huse)]
    exact .refused hstay ⟨_, rfl⟩
  have hfree := h.taken_eq_false_iff.mpr huse
  rw [if_neg huse]
  by_cases hfit : Orders.Fits lines o
  · rw [if_pos hfit, Orders.save_new hs hrest hb hid hroom hfree hfit]
    refine .answered rfl ⟨_, _, _, rfl, hrest, ⟨hs.isOpen, rfl, rfl⟩, ?_⟩
    rw [h.nextId_eq]
    exact h.nextId_eq ▸ h.add ho
  · obtain ⟨c, hfull⟩ := Orders.save_new_full hs hrest hb hid hroom hfree hfit
    rw [if_neg hfit, hfull]
    exact .refused hstay ⟨c, rfl⟩

theorem replace_follows (hb : o.Balanced) (hid : o.id ≠ 0) (ho : o.Fileable)
    (hold : a.order? o.id = some old) :
    Follows Eq (.embedded db) a (Orders.save o (.embedded db)) (a.replace old o) := by
  have hget : (book.get? o.id).isSome := by rw [h.get?_isSome, hold]; rfl
  have hfits : Orders.Fits (lines.erase (·.orderId == .int o.id)) o ↔ a.HasRoom o := by
    unfold Orders.Fits Archive.HasRoom
    rw [(h.remove o.id).lines_nextId_eq]
  have hstay := holds hrest hs h
  unfold Archive.replace
  rw [← hfits]
  by_cases huse : a.Uses o.number o.id
  · rw [if_pos huse, Orders.save_old_taken hs hrest hb hid hget (h.taken_iff.mpr huse)]
    exact .refused hstay ⟨_, rfl⟩
  have hfree := h.taken_eq_false_iff.mpr huse
  rw [if_neg huse]
  by_cases hroom : Orders.Fits (lines.erase (·.orderId == .int o.id)) o
  · rw [if_pos hroom, Orders.save_old hs hrest hb hid hget hfree hroom]
    exact .answered rfl ⟨_, _, _, rfl, hrest, ⟨hs.isOpen, rfl, rfl⟩, h.replace hold ho⟩
  · obtain ⟨c, hfull⟩ := Orders.save_old_full hs hrest hb hid hget hfree hroom
    rw [if_neg hroom, hfull]
    exact .refused hstay ⟨c, rfl⟩

theorem save_follows (ho : o.Fileable) :
    Follows Eq (.embedded db) a (Orders.save o (.embedded db)) (a.save o) := by
  have hstay := holds hrest hs h
  unfold Archive.save
  by_cases hb : o.Balanced
  · rw [if_neg (not_not_intro hb)]
    by_cases hid : o.id = 0
    · rw [if_pos hid]
      exact add_follows hrest hs h hb hid ho
    · rw [if_neg hid]
      cases hold : a.order? o.id with
      | none =>
        rw [Orders.save_missing hs hrest hb hid (h.get?_eq_none hold)]
        exact .refused hstay rfl
      | some old => exact replace_follows hrest hs h hb hid ho hold
  · rw [if_pos hb, Orders.save_mismatch hb]
    exact .refused hstay rfl

theorem read_follows (keep : Bool) (id : Int) : Follows Order.Alike (.embedded db) a
    (Orders.read keep id (.embedded db)) (a.get id, a) := by
  have hstay := holds hrest hs h
  unfold Archive.get
  cases ho : a.order? id with
  | none =>
    rw [Orders.read_lacks keep hs.isOpen ⟨book, hs.orders, h.get?_eq_none ho⟩]
    exact .refused hstay rfl
  | some o =>
    obtain ⟨o', hreads, halike⟩ := h.reads hs.orders hs.items ho
    rw [Orders.reads_iff.mpr ⟨hs.isOpen, rfl, hreads⟩]
    exact .answered halike hstay

theorem exists_follows (id : Int) : Follows Eq (.embedded db) a
    (Orders.exists? id (.embedded db)) (.ok (a.order? id).isSome, a) := by
  rw [Orders.exists?_shelves hs, h.get?_isSome]
  exact .answered rfl (holds hrest hs h)

theorem delete_follows (id : Int) : Follows (fun _ _ => True) (.embedded db) a
    (Orders.delete id (.embedded db)) (a.delete id) := by
  have hstay := holds hrest hs h
  unfold Archive.delete
  cases ho : a.order? id with
  | none =>
    rw [Orders.delete_lacks hs hrest (h.get?_eq_none ho)]
    exact .refused hstay rfl
  | some o =>
    have hget : (book.get? id).isSome := by rw [h.get?_isSome, ho]; rfl
    rw [Orders.delete_there hs hrest hget]
    exact .answered trivial ⟨_, _, _, rfl, hrest, ⟨hs.isOpen, rfl, rfl⟩, h.remove id⟩

end

/-- **One call**: the store answers as the map does, and holds the map after the call. -/
theorem Holds.perform {b : Backend} {a : Archive} {c : OrderCall} (h : Holds b a) (hc : c.Regular) :
    Follows OrderAnswer.Alike b a (c.perform b) (a.perform c) := by
  obtain ⟨db, book, lines, rfl, hrest, hs, hfiled⟩ := h
  cases c with
  | save o => exact (save_follows hrest hs hfiled hc).map fun _ _ hsame => hsame
  | get id => exact (read_follows hrest hs hfiled false id).map fun _ _ hsame => hsame
  | lock id => exact (read_follows hrest hs hfiled true id).map fun _ _ hsame => hsame
  | exists? id => exact (exists_follows hrest hs hfiled id).map fun _ _ hsame => hsame
  | delete id => exact (delete_follows hrest hs hfiled id).map fun _ _ _ => trivial

/-! ## runs -/

/-- the store after a run of calls, each made whatever the ones before ended in -/
def after (b : Backend) (calls : List OrderCall) : Backend := calls.foldl (fun b c => (c.perform b).2) b

/-- the map after a run of calls -/
noncomputable def Archive.after (a : Archive) (calls : List OrderCall) : Archive :=
  calls.foldl (fun a c => (a.perform c).2) a

theorem holds_fresh : Holds fresh {} :=
  ⟨_, {}, {}, fresh_eq, rfl, ⟨rfl, rfl, rfl⟩, .empty⟩

theorem Holds.after {b : Backend} {a : Archive} {calls : List OrderCall} (h : Holds b a)
    (hc : ∀ c ∈ calls, c.Regular) : Holds (after b calls) (a.after calls) := by
  induction calls generalizing b a with
  | nil => exact h
  | cons c calls ih =>
    exact ih (h.perform (hc c List.mem_cons_self)).holds fun x hx => hc x (List.mem_cons_of_mem _ hx)

/-! ## what the map does -/

/-- the id that a call is about -/
def OrderCall.subject (a : Archive) : OrderCall → Int
  | save o => if o.id = 0 then a.lastId + 1 else o.id
  | get id | lock id | exists? id | delete id => id

/-- how many rows a call may write -/
def OrderCall.rows : OrderCall → Nat
  | save o => 1 + o.items.length
  | _ => 0

namespace Archive

variable (a : Archive) (o : Order) (c : OrderCall)

/-- **Every end of a save on the map.** -/
theorem save_ends :
    (∃ e, a.save o = (.error e, a) ∧
      (e = .full → 2 ^ 63 ≤ a.lastId + 1 ∨ 2 ^ 63 < a.lineCount + 1 + o.items.length)) ∨
    (o.id = 0 ∧ a.save o = (.ok { o with id := a.lastId + 1 },
      ⟨Function.update a.order? (a.lastId + 1) (some { o with id := a.lastId + 1 }), a.lastId + 1,
        a.lineCount + o.items.length⟩)) ∨
    ∃ old, o.id ≠ 0 ∧ a.order? o.id = some old ∧ a.save o = (.ok o,
      ⟨Function.update a.order? o.id (some { o with createdAt := old.createdAt }), a.lastId,
        a.lineCount + o.items.length⟩) := by
  unfold save
  by_cases hb : o.Balanced
  · rw [if_neg (not_not_intro hb)]
    by_cases hid : o.id = 0
    · rw [if_pos hid]
      unfold add
      split
      · next hidless => exact .inl ⟨_, rfl, fun _ => .inl hidless⟩
      split
      · exact .inl ⟨_, rfl, nofun⟩
      split
      · exact .inr (.inl ⟨hid, rfl⟩)
      · next hfull =>
        refine .inl ⟨_, rfl, fun _ => .inr ?_⟩
        unfold HasRoom at hfull
        by_contra hnot
        exact hfull (.inr (by omega))
    · rw [if_neg hid]
      cases hold : a.order? o.id with
      | none => exact .inl ⟨_, rfl, nofun⟩
      | some old =>
        dsimp only
        unfold replace
        split
        · exact .inl ⟨_, rfl, nofun⟩
        split
        · exact .inr (.inr ⟨old, hid, rfl, rfl⟩)
        · next hfull =>
          refine .inl ⟨_, rfl, fun _ => .inr ?_⟩
          unfold HasRoom at hfull
          by_contra hnot
          exact hfull (.inr (by omega))
  · rw [if_pos hb]
    exact .inl ⟨_, rfl, nofun⟩

theorem perform_elsewhere {id : Int} (hid : id ≠ c.subject a) :
    (a.perform c).2.order? id = a.order? id := by
  cases c with
  | save o =>
    rcases a.save_ends o with ⟨e, hsave, -⟩ | ⟨h0, hsave⟩ | ⟨old, h0, -, hsave⟩
    · rw [perform, hsave]
    · rw [OrderCall.subject, if_pos h0] at hid
      rw [perform, hsave]
      exact Function.update_of_ne hid _ _
    · rw [OrderCall.subject, if_neg h0] at hid
      rw [perform, hsave]
      exact Function.update_of_ne hid _ _
  | delete j =>
    rw [perform, delete]
    cases a.order? j with
    | none => rfl
    | some o => exact Function.update_of_ne hid _ _
  | get | lock | exists? => rfl

/-- ids and lines are counted up, by no more than the rows that a call may write -/
theorem perform_counts : a.lastId ≤ (a.perform c).2.lastId ∧ a.lineCount ≤ (a.perform c).2.lineCount ∧
    (a.perform c).2.lastId + (a.perform c).2.lineCount ≤ a.lastId + a.lineCount + c.rows := by
  cases c with
  | save o =>
    rcases a.save_ends o with ⟨e, hsave, -⟩ | ⟨-, hsave⟩ | ⟨old, -, -, hsave⟩ <;>
      rw [perform, hsave] <;> simp only [OrderCall.rows] <;> omega
  | delete id =>
    rw [perform, delete]
    cases a.order? id <;> simp [OrderCall.rows]
  | get | lock | exists? => simp [perform, OrderCall.rows]

theorem perform_full (hids : 0 ≤ a.lastId) (hlines : 0 ≤ a.lineCount)
    (h : (a.perform c).1 = .error .full) : 2 ^ 63 ≤ a.lastId + a.lineCount + c.rows := by
  cases c with
  | save o =>
    rcases a.save_ends o with ⟨e, hsave, hfull⟩ | ⟨-, hsave⟩ | ⟨old, -, -, hsave⟩
    · rw [perform, hsave] at h
      have := hfull (Except.error.inj h)
      simp only [OrderCall.rows]
      omega
    · rw [perform, hsave] at h
      cases h
    · rw [perform, hsave] at h
      cases h
  | delete id =>
    rw [perform, delete] at h
    cases ho : a.order? id <;> rw [ho] at h <;> cases h
  | get id | lock id =>
    rw [perform, get] at h
    cases ho : a.order? id <;> rw [ho] at h <;> cases h
  | exists? id => cases h

theorem after_counts (calls : List OrderCall) : a.lastId ≤ (a.after calls).lastId ∧
    a.lineCount ≤ (a.after calls).lineCount ∧ (a.after calls).lastId + (a.after calls).lineCount
      ≤ a.lastId + a.lineCount + (calls.map OrderCall.rows).sum := by
  induction calls generalizing a with
  | nil => simp [after]
  | cons c calls ih =>
    have hstep := a.perform_counts c
    have hrest := ih (a.perform c).2
    rw [show a.after (c :: calls) = (a.perform c).2.after calls from rfl, List.map_cons, List.sum_cons]
    omega

end Archive

/-! ## every run -/

/-- **The store of orders is a map.** After every run of calls on a new store, a further call

* ends as the map answers, and its refusals leave the store and the map as they were;
* changes the map at one id only, and a new order is put under an id greater than every id that the
  map ever had;
* is refused for want of ids only after `2 ^ 63` rows were asked for. -/
theorem orders_refine_archive (calls : List OrderCall) (c : OrderCall)
    (h : ∀ x ∈ calls ++ [c], x.Regular) :
    Follows OrderAnswer.Alike (after fresh calls) (Archive.after {} calls)
      (c.perform (after fresh calls)) ((Archive.after {} calls).perform c) ∧
    (∀ id, id ≠ c.subject (Archive.after {} calls) →
      ((Archive.after {} calls).perform c).2.order? id = (Archive.after {} calls).order? id) ∧
    (∀ o o' before rest id, c = .save o → o.id = 0 →
      ((Archive.after {} calls).perform c).1 = .ok (.saved o') → calls = before ++ rest →
        ((Archive.after {} before).order? id).isSome → id < o'.id) ∧
    (((Archive.after {} calls).perform c).1 = .error .full →
      2 ^ 63 ≤ ((calls ++ [c]).map OrderCall.rows).sum) := by
  have hholds := holds_fresh.after fun x hx => h x (List.mem_append_left _ hx)
  have hc := h c (List.mem_append_right _ List.mem_cons_self)
  refine ⟨hholds.perform hc, fun id => Archive.perform_elsewhere _ c, ?_, fun hfull => ?_⟩
  · rintro o o' before rest id rfl h0 hsaved rfl hid
    obtain ⟨_, _, _, -, -, -, hfiled⟩ := holds_fresh.after fun x (hx : x ∈ before) => h x (by simp [hx])
    obtain ⟨old, hold⟩ := Option.isSome_iff_exists.mp hid
    have hle := (hfiled.positive hold).2
    have hmono := ((Archive.after {} before).after_counts rest).1
    have happend : (Archive.after {} before).after rest = Archive.after {} (before ++ rest) :=
      (List.foldl_append ..).symm
    rw [happend] at hmono
    rcases (Archive.after {} (before ++ rest)).save_ends o with ⟨e, hsave, -⟩ | ⟨-, hsave⟩ |
        ⟨-, hne, -⟩
    · rw [Archive.perform, hsave] at hsaved
      cases hsaved
    · rw [Archive.perform, hsave] at hsaved
      have hid' : o'.id = (Archive.after {} (before ++ rest)).lastId + 1 := by
        rw [← OrderAnswer.saved.inj (Except.ok.inj hsaved)]
      omega
    · exact absurd h0 hne
  · obtain ⟨hids, hlines, hsum⟩ := Archive.after_counts {} calls
    have hrows := Archive.perform_full _ c hids hlines hfull
    rw [List.map_append, List.sum_append]
    simp only [List.map_cons, List.map_nil, List.sum_cons, List.sum_nil]
    push_cast at hrows ⊢
    have hsum : (Archive.after {} calls).lastId + (Archive.after {} calls).lineCount
        ≤ (calls.map OrderCall.rows).sum := by simpa using hsum
    omega

/-- a first order, of two articles of one kind -/
def boltOrder : Order :=
  { id := 0, number := "N-1", status := .pending, total := ⟨100, -1⟩
    lines := some [⟨3, "bolt", 2, ⟨5, 0⟩⟩], createdAt := ⟨0, 0, 0⟩, updatedAt := ⟨0, 0, 0⟩ }

/-- the first order is read back, and its number is refused to a second one -/
theorem boltOrder_filed :
    (Follows OrderAnswer.Alike (after fresh [.save boltOrder]) (Archive.after {} [.save boltOrder])
      ((OrderCall.get 1).perform (after fresh [.save boltOrder]))
      ((Archive.after {} [.save boltOrder]).perform (.get 1)) ∧
    (((OrderCall.get 1).perform).value? (after fresh [.save boltOrder])).isSome = true) ∧
    Follows OrderAnswer.Alike (after fresh [.save boltOrder]) (Archive.after {} [.save boltOrder])
      ((OrderCall.save boltOrder).perform (after fresh [.save boltOrder]))
      ((Archive.after {} [.save boltOrder]).perform (.save boltOrder)) ∧
    (((OrderCall.save boltOrder).perform).failure? (after fresh [.save boltOrder])).isSome = true := by
  have hfileable : boltOrder.Fileable :=
    ⟨⟨by decide, fun l hl => by rw [List.mem_singleton.mp hl]; decide⟩, ⟨rfl, by decide⟩,
      ⟨rfl, by decide⟩⟩
  have hregular : ∀ c : OrderCall, c.Regular → ∀ x ∈ [.save boltOrder] ++ [c], x.Regular := by
    intro c hc x hx
    rcases List.mem_cons.mp hx with rfl | hx
    · exact hfileable
    · rw [List.mem_singleton.mp hx]
      exact hc
  exact ⟨⟨(orders_refine_archive [.save boltOrder] (.get 1) (hregular _ trivial)).1, by decide +kernel⟩,
    (orders_refine_archive [.save boltOrder] (.save boltOrder) (hregular _ hfileable)).1,
    by decide +kernel⟩

end Store

end OrderDesk
