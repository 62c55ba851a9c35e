import OrderDesk.Proofs.Action
import OrderDesk.Proofs.Order.Amounts
import Mathlib.Logic.Function.Basic

/-!
# An order that is put together

An order takes line after line, while units are taken out of stock, the products get other names,
prices and stocks, and the order moves from status to status. Whatever comes in whatever order, and
whatever of it is refused, the total is that of the lines, and a line is what its product was when it
was added.

* `Basket`               the order, and the products that it is put together from;
* `Basket.Act`           what can happen to them;
* `Basket.take`          the act, with how it ends;
* `Basket.Refuses`, `Basket.Does`      when an act is refused, and what it does if not;
* `Basket.take_ends`     every act does that or is refused;
* `Basket.after`         the basket after acts, one after another;
* `Basket.balanced_after`, `Basket.items_after`      the total and the lines after them;
* `Basket.total_never_drifts`     both, for every order that was started.
-/

namespace OrderDesk

/-- An order and the products at hand, each of which can change at any time. -/
structure Basket (ι : Type) where
  products : ι → Product
  order : Order

namespace Basket

variable {ι : Type}

/-- What can happen: a line is added, units are taken out of stock, a product is edited, the order
is moved. -/
inductive Act (ι : Type) where
  | add (k : ι) (qty : Int)
  | reserve (k : ι) (qty : Int)
  | edit (k : ι) (name : String) (price : Decimal) (stock : Int)
  | moveTo (t : Status) (now : Stamp)

/-- is a line added -/
def Act.adds : Act ι → Bool
  | add .. => true
  | _ => false

/-- a new order -/
def start (products : ι → Product) (number : String) (now : Stamp) : Basket ι :=
  ⟨products, .start number now⟩

/-! ## what is added, and what is refused -/

/-- the line that an act adds, from its product as it is then -/
def lines (b : Basket ι) : Act ι → List Line
  | .add k qty => [Order.lineOf (b.products k) qty]
  | _ => []

theorem length_lines (b : Basket ι) (a : Act ι) : (b.lines a).length = [a].countP Act.adds := by
  cases a <;> rfl

/-- When an act is refused, and with which failure. -/
inductive Refuses (b : Basket ι) : Act ι → Failure → Prop
  | nothing (k : ι) (qty : Int) (h : qty < 1) :
    Refuses b (.reserve k qty) (.cause (.validation "quantity" .belowOne))
  | short (k : ι) (qty : Int) (h : 1 ≤ qty) (hs : (b.products k).stock < qty) :
    Refuses b (.reserve k qty) (.cause (.insufficientStock (b.products k).id (b.products k).name qty
      (b.products k).stock))
  | move (t : Status) (now : Stamp) (h : b.order.status.canMoveTo t = false) :
    Refuses b (.moveTo t now) (.cause (.invalidMove b.order.status t))

theorem Refuses.lines_eq {b : Basket ι} {a : Act ι} {f : Failure} (h : Refuses b a f) :
    b.lines a = [] := by
  cases h <;> rfl

theorem Refuses.unique {b : Basket ι} {a : Act ι} {f g : Failure} (h : Refuses b a f)
    (h' : Refuses b a g) : f = g := by
  cases h with
  | nothing k qty hqty => cases h' <;> first | rfl | omega
  | short k qty hqty hstock => cases h' <;> first | rfl | omega
  | move => cases h'; rfl

/-! ## what happens -/

section
variable [DecidableEq ι]

def put (b : Basket ι) (k : ι) (p : Product) : Basket ι :=
  { b with products := Function.update b.products k p }

def take : Act ι → Action (Basket ι) Unit
  | .add k qty => .change fun b => { b with order := b.order.addLine (b.products k) qty }
  | .reserve k qty => do
    let b ← Action.state
    let p ← Action.ofExcept ((b.products k).reserve qty)
    Action.change (·.put k p)
  | .edit k name price stock => .change fun b => b.put k { b.products k with name, price, stock }
  | .moveTo t now => do
    let b ← Action.state
    let order ← Action.ofExcept (b.order.moveTo t now)
    Action.change ({ · with order })

/-- the basket after acts, one after another, some of which may be refused -/
def after (b : Basket ι) (acts : List (Act ι)) : Basket ι := acts.foldl (fun b a => (take a b).2) b

/-! ## one act -/

/-- What an act does when it is not refused. -/
inductive Does (b : Basket ι) : Act ι → Basket ι → Prop
  | added (k : ι) (qty : Int) :
    Does b (.add k qty) { b with order := b.order.addLine (b.products k) qty }
  | reserved (k : ι) (qty : Int) (h : 1 ≤ qty) (hs : qty ≤ (b.products k).stock) :
    Does b (.reserve k qty)
      (b.put k { b.products k with stock := (b.products k).stock - qty })
  | edited (k : ι) (name : String) (price : Decimal) (stock : Int) :
    Does b (.edit k name price stock) (b.put k { b.products k with name, price, stock })
  | moved (t : Status) (now : Stamp) (h : b.order.status.canMoveTo t = true) :
    Does b (.moveTo t now) { b with order := { b.order with status := t, updatedAt := now } }

variable {b b' : Basket ι} {a : Act ι}

theorem take_reserve (b : Basket ι) (k : ι) (qty : Int) : take (.reserve k qty) b
    = match (b.products k).reserve qty with
      | .ok p => (.ok (), b.put k p)
      | .error f => (.failed f, b) := by
  show (Action.ofExcept _ >>= _) b = _
  cases (b.products k).reserve qty <;> rfl

theorem take_moveTo (b : Basket ι) (t : Status) (now : Stamp) : take (.moveTo t now) b
    = match b.order.moveTo t now with
      | .ok order => (.ok (), { b with order })
      | .error f => (.failed f, b) := by
  show (Action.ofExcept _ >>= _) b = _
  cases b.order.moveTo t now <;> rfl

/-- **Every act** does what it is for, or it is refused and nothing is changed. -/
theorem take_ends (a : Act ι) (b : Basket ι) :
    (∃ b', take a b = (.ok (), b') ∧ Does b a b') ∨
      ∃ f, take a b = (.failed f, b) ∧ Refuses b a f := by
  cases a with
  | add k qty => exact .inl ⟨_, rfl, .added k qty⟩
  | reserve k qty =>
    rw [take_reserve]
    by_cases hqty : qty < 1
    · rw [show (b.products k).reserve qty = .error _ from if_pos hqty]
      exact .inr ⟨_, rfl, .nothing k qty hqty⟩
    have hone : 1 ≤ qty := Int.not_lt.mp hqty
    by_cases hstock : (b.products k).stock < qty
    · rw [show (b.products k).reserve qty = .error _ from (if_neg hqty).trans (if_pos hstock)]
      exact .inr ⟨_, rfl, .short k qty hone hstock⟩
    · rw [show (b.products k).reserve qty = .ok _ from (if_neg hqty).trans (if_neg hstock)]
      exact .inl ⟨_, rfl, .reserved k qty hone (Int.not_lt.mp hstock)⟩
  | edit k name price stock => exact .inl ⟨_, rfl, .edited k name price stock⟩
  | moveTo t now =>
    rw [take_moveTo]
    by_cases hmove : b.order.status.canMoveTo t = true
    · rw [show b.order.moveTo t now = .ok _ from if_pos hmove]
      exact .inl ⟨_, rfl, .moved t now hmove⟩
    · rw [show b.order.moveTo t now = .error _ from if_neg hmove]
      exact .inr ⟨_, rfl, .move t now (Bool.eq_false_of_not_eq_true hmove)⟩

theorem Refuses.not_does {f : Failure} (h : Refuses b a f) : ¬ Does b a b' := by
  intro hdoes
  cases h with
  | nothing k qty hqty => cases hdoes; omega
  | short k qty hqty hstock => cases hdoes; omega
  | move t now hmove =>
    cases hdoes with
    | moved t now hmoves => exact absurd (hmove.symm.trans hmoves) Bool.false_ne_true

/-- an act that fails changes nothing, and it was to be refused -/
theorem take_failed_iff {f : Failure} : take a b = (.failed f, b') ↔ b' = b ∧ Refuses b a f := by
  rcases take_ends a b with ⟨c, hok, hdoes⟩ | ⟨g, hfail, href⟩
  · rw [hok]
    exact ⟨nofun, fun h => absurd hdoes h.2.not_does⟩
  · rw [hfail]
    constructor
    · intro h
      cases h
      exact ⟨rfl, href⟩
    · rintro ⟨rfl, h⟩
      rw [href.unique h]

theorem Does.balanced (h : Does b a b') (hb : b.order.Balanced) : b'.order.Balanced := by
  cases h with
  | added k qty => exact hb.addLine (b.products k) qty
  | reserved | edited | moved => exact hb

theorem Does.items (h : Does b a b') : b'.order.items = b.order.items ++ b.lines a := by
  cases h with
  | added k qty => exact Order.items_addLine b.order (b.products k) qty
  | reserved | edited | moved => exact (List.append_nil _).symm

theorem items_take (a : Act ι) (b : Basket ι) :
    (take a b).2.order.items = b.order.items ++ b.lines a := by
  rcases take_ends a b with ⟨b', hok, hdoes⟩ | ⟨f, hfail, href⟩
  · rw [hok]
    exact hdoes.items
  · rw [hfail, href.lines_eq, List.append_nil]

/-! ## acts one after another -/

variable {acts : List (Act ι)}

/-- **The total is that of the lines**, whatever happened. -/
theorem balanced_after (h : b.order.Balanced) (acts : List (Act ι)) :
    (b.after acts).order.Balanced := by
  induction acts generalizing b with
  | nil => exact h
  | cons a acts ih =>
    rcases take_ends a b with ⟨b', hok, hdoes⟩ | ⟨f, hfail, -⟩
    · exact ih (b := (take a b).2) (by rw [hok]; exact hdoes.balanced h)
    · exact ih (b := (take a b).2) (by rw [hfail]; exact h)

/-- the lines that acts add, each from its product as it was then -/
def added (b : Basket ι) : List (Act ι) → List Line
  | [] => []
  | a :: acts => b.lines a ++ (take a b).2.added acts

/-- **The lines are those that were added**, in the order of the acts. -/
theorem items_after (b : Basket ι) (acts : List (Act ι)) :
    (b.after acts).order.items = b.order.items ++ b.added acts := by
  induction acts generalizing b with
  | nil => exact (List.append_nil _).symm
  | cons a acts ih =>
    show ((take a b).2.after acts).order.items = _
    rw [ih, items_take, added, List.append_assoc]

theorem length_added (b : Basket ι) (acts : List (Act ι)) :
    (b.added acts).length = acts.countP Act.adds := by
  induction acts generalizing b with
  | nil => rfl
  | cons a acts ih =>
    rw [added, List.length_append, ih, length_lines, ← List.countP_append, List.singleton_append]

theorem added_append (b : Basket ι) (xs ys : List (Act ι)) :
    b.added (xs ++ ys) = b.added xs ++ (b.after xs).added ys := by
  induction xs generalizing b with
  | nil => rfl
  | cons a xs ih =>
    show b.lines a ++ (take a b).2.added (xs ++ ys) = _
    rw [ih, added, List.append_assoc]
    rfl

/-- the line of an act stands where the lines before it end -/
theorem getElem?_added (b : Basket ι) (pre : List (Act ι)) (k : ι) (qty : Int)
    (post : List (Act ι)) : (b.added (pre ++ .add k qty :: post))[pre.countP Act.adds]?
      = some (Order.lineOf ((b.after pre).products k) qty) := by
  rw [added_append, List.getElem?_append_right (length_added b pre).le, length_added, Nat.sub_self]
  rfl

/-- **The running total never drifts from the lines.** Take any products and an order that was just
started, and whatever happens after that, with quantities, prices and stocks of any size and sign:

* the total is, as a number, the sum over the lines, so the check of a save holds;
* there is a line for each one that was added, in the order of the acts, with the id, the name and
  the price that its product had at that moment;
* an act that fails changes nothing, neither in a product nor in the order, and it fails exactly
  when there is nothing to reserve or too little in stock, or the order cannot move there. -/
theorem total_never_drifts (products : ι → Product) (number : String) (now : Stamp)
    (acts : List (Act ι)) :
    (((start products number now).after acts).order.total.value
        = ((start products number now).after acts).order.itemTotal.value ∧
      ((start products number now).after acts).order.itemTotal.eqv
        ((start products number now).after acts).order.total = true) ∧
    (((start products number now).after acts).order.items.length = acts.countP Act.adds ∧
      ∀ pre k qty post, acts = pre ++ .add k qty :: post →
        ((start products number now).after acts).order.items[pre.countP Act.adds]?
          = some (Order.lineOf (((start products number now).after pre).products k) qty)) ∧
    ∀ (b b' : Basket ι) (a : Act ι) (f : Failure), take a b = (.failed f, b') ↔
      b' = b ∧ Refuses b a f := by
  have hbalanced : ((start products number now).after acts).order.Balanced :=
    balanced_after (Order.balanced_start number now) acts
  have hitems := items_after (start products number now) acts
  rw [show (start products number now).order.items = [] from rfl, List.nil_append] at hitems
  refine ⟨⟨?_, Order.balanced_iff.mpr hbalanced⟩, ⟨?_, ?_⟩, fun b b' a f => take_failed_iff⟩
  · rw [Order.value_itemTotal]
    exact hbalanced
  · rw [hitems, length_added]
  · rintro pre k qty post rfl
    rw [hitems, getElem?_added]

end

/-- a keyboard and a mouse -/
def stocked : Bool → Product
  | true => ⟨1, "Keyboard", ⟨25000, -2⟩, 10, .zero, .zero⟩
  | false => ⟨2, "Mouse", ⟨15000, -2⟩, 5, .zero, .zero⟩

theorem keyboard_keeps_price :
    let b := (start stocked "" .zero).after
      [.add true 2, .add false 1, .edit true "Board" ⟨99999, -2⟩ 1, .reserve true 2]
    b.order.total.value = b.order.itemTotal.value ∧ b.order.items.length = 2 ∧
      b.order.items[0]? = some ⟨1, "Keyboard", 2, ⟨25000, -2⟩⟩ ∧
      Refuses b (.reserve true 2) (.cause (.insufficientStock 1 "Board" 2 1)) := by
  obtain ⟨⟨htotal, -⟩, ⟨hlength, hline⟩, hfails⟩ := total_never_drifts stocked "" .zero
    [.add true 2, .add false 1, .edit true "Board" ⟨99999, -2⟩ 1, .reserve true 2]
  exact ⟨htotal, hlength, hline [] true 2 _ rfl, ((hfails _ _ _ _).mp rfl).2⟩

end Basket

end OrderDesk
