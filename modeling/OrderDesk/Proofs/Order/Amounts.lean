import OrderDesk.Order.Wire
import OrderDesk.Proofs.Decimal.Text

/-!
# The amounts of an order

An order built line by line has the total of its lines. Lines that differ in the spelling of their
prices alone look the same to clients and in the store.

* `Line.cost`            quantity times unit price, as a number;
* `Line.Alike`, `Order.Alike`      equal but for the spelling of amounts;
* `Order.Balanced`       the total is the sum of the lines;
* `Order.Storable`       every amount has a text that reads back;
* `Status.Live`          a status that moves lead to.
-/

namespace OrderDesk

/-! ## lines -/

namespace Line

def cost (l : Line) : ℚ := l.unitPrice.value * l.quantity

theorem value_subtotal (l : Line) : l.subtotal.value = l.cost := by
  rw [subtotal, Decimal.value_mul, Decimal.value_ofInt, cost]

/-- Equal but for the spelling of the price. -/
structure Alike (l l' : Line) : Prop where
  productId : l.productId = l'.productId
  productName : l.productName = l'.productName
  quantity : l.quantity = l'.quantity
  price : l.unitPrice.value = l'.unitPrice.value

theorem Alike.cost_eq {l l' : Line} (h : Alike l l') : l.cost = l'.cost := by
  rw [cost, cost, h.price, h.quantity]

theorem Alike.summary_eq {l l' : Line} (h : Alike l l') : l.summary = l'.summary := by
  have hs : l.subtotal.value = l'.subtotal.value := by
    rw [value_subtotal, value_subtotal, h.cost_eq]
  rw [summary, summary, h.productId, h.productName, h.quantity, Decimal.fixed_congr h.price,
    Decimal.fixed_congr hs]

theorem map_of_alike {α : Type} {f : Line → α} (hf : ∀ {l l'}, Alike l l' → f l = f l')
    {ls ls' : List Line} (h : List.Forall₂ Alike ls ls') : ls.map f = ls'.map f := by
  induction h with
  | nil => rfl
  | cons h _ ih => rw [List.map_cons, List.map_cons, hf h, ih]

theorem costs_of_alike {ls ls' : List Line} (h : List.Forall₂ Alike ls ls') :
    ls.map cost = ls'.map cost := map_of_alike Alike.cost_eq h

end Line

/-! ## orders -/

namespace Order

theorem value_itemTotal (o : Order) : o.itemTotal.value = (o.items.map Line.cost).sum := by
  rw [itemTotal, Decimal.value_sum, List.map_map]
  congr 1
  exact List.map_congr_left fun l _ => l.value_subtotal

/-- The total is the sum of the lines. -/
def Balanced (o : Order) : Prop := o.total.value = (o.items.map Line.cost).sum

theorem balanced_iff {o : Order} : o.itemTotal.eqv o.total = true ↔ o.Balanced := by
  rw [Decimal.eqv_iff, value_itemTotal, Balanced, eq_comm]

theorem balanced_start (number : String) (now : Stamp) : (start number now).Balanced := by
  show Decimal.zero.value = _
  rw [Decimal.value_zero]
  rfl

theorem items_addLine (o : Order) (p : Product) (qty : Int) :
    (o.addLine p qty).items = o.items ++ [lineOf p qty] := rfl

theorem Balanced.addLine {o : Order} (h : o.Balanced) (p : Product) (qty : Int) :
    (o.addLine p qty).Balanced := by
  show (o.total.add (lineOf p qty).subtotal).value = ((o.items ++ [lineOf p qty]).map _).sum
  rw [Decimal.value_add, Line.value_subtotal, List.map_append, List.sum_append, h]
  simp

/-- Every amount has a text that reads back. -/
structure Storable (o : Order) : Prop where
  total : -2 ^ 31 ≤ o.total.exp
  prices : ∀ l ∈ o.items, -2 ^ 31 ≤ l.unitPrice.exp

theorem storable_start (number : String) (now : Stamp) : (start number now).Storable :=
  ⟨show -2 ^ 31 ≤ (0 : Int) by decide, fun _ h => by cases h⟩

theorem Storable.addLine {o : Order} (h : o.Storable) {p : Product} (hp : -2 ^ 31 ≤ p.price.exp)
    (qty : Int) : (o.addLine p qty).Storable := by
  refine ⟨?_, fun l hl => ?_⟩
  · show -2 ^ 31 ≤ min o.total.exp (p.price.exp + 0)
    have := h.total
    omega
  · rw [items_addLine] at hl
    rcases List.mem_append.mp hl with hl | hl
    · exact h.prices l hl
    · rw [List.mem_singleton.mp hl]
      exact hp

/-- Equal but for the spelling of the amounts, absent lines counting as none. -/
structure Alike (o o' : Order) : Prop where
  id : o.id = o'.id
  number : o.number = o'.number
  status : o.status = o'.status
  total : o.total.value = o'.total.value
  items : List.Forall₂ Line.Alike o.items o'.items
  createdAt : o.createdAt = o'.createdAt
  updatedAt : o.updatedAt = o'.updatedAt

/-- clients see no difference between alike orders -/
theorem Alike.summary_eq {o o' : Order} (h : o.Alike o') : o.summary = o'.summary := by
  unfold summary
  rw [h.id, h.number, h.status, Decimal.fixed_congr h.total, h.createdAt, h.updatedAt,
    Line.map_of_alike Line.Alike.summary_eq h.items]

theorem alike_of_lines (o : Order) {total : Decimal} {ls : List Line}
    (ht : total.value = o.total.value) (hl : List.Forall₂ Line.Alike ls o.items) :
    ({ o with total, lines := some ls } : Order).Alike o := ⟨rfl, rfl, rfl, ht, hl, rfl, rfl⟩

theorem summary_of_alike (o : Order) {total : Decimal} {ls : List Line}
    (ht : total.value = o.total.value) (hl : List.Forall₂ Line.Alike ls o.items) :
    ({ o with total, lines := some ls } : Order).summary = o.summary :=
  (o.alike_of_lines ht hl).summary_eq

end Order

/-! ## statuses -/

namespace Status

/-- A status that an order can be in: it starts in one, and moves lead to no other. -/
def Live (s : Status) : Prop := s = pending ∨ s = confirmed ∨ s = cancelled

theorem live_of_canMoveTo {s t : Status} (h : s.canMoveTo t = true) : t.Live := by
  unfold canMoveTo next at h
  split at h
  · rcases (by simpa using h : t = confirmed ∨ t = cancelled) with h | h
    · exact .inr (.inl h)
    · exact .inr (.inr h)
  · split at h
    · rcases (by simpa using h : t = confirmed ∨ t = cancelled) with h | h
      · exact .inr (.inl h)
      · exact .inr (.inr h)
    · split at h
      · exact .inr (.inr (by simpa using h))
      · simp at h

end Status

end OrderDesk
