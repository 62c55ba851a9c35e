import OrderDesk.Proofs.Desk.Deeds
import OrderDesk.Proofs.Store.Saving
import OrderDesk.Proofs.Store.Uniform

/-!
# What a creation tells an engine at the far end

Selling no unit twice rests on the order of the statements: each product is read with a lock and
written back before the next one is looked at, all in one transaction, and nothing is sent after a
failure. The talk is described by what may be said and answered, one case for each way it can go on,
whatever the engine answers.

* `Supplying`           one requested line: a locking read, and what is written back;
* `Reserving`           line after line, up to the first one that fails;
* `Listing`             the rows of the lines of a new order;
* `Placing`             the whole body of the transaction;
* `placeOrder_speaks`   the body of a creation is such a talk;
* `Placing.inStock`     no product is given a negative stock;
* `creation_locks_in_order`    a whole creation.
-/

namespace OrderDesk.Desk

open Store (Backend Remote Reply Statement Sent Talk Speaks Hears Ends)

/-! ## what may be said -/

/-- The answer to a read tells a product. -/
def Found (a : Except Failure Reply) (p : Product) : Prop :=
  ∃ r row rows, a = .ok r ∧ r.rows = row :: rows ∧ Store.Products.scan row = .ok p

/-- What is written back when `quantity` units of a product are taken: a change of the row that was
read. A product with the id zero counts as a new one. -/
def writeBack (now : Stamp) (p : Product) (quantity : Int) : Statement :=
  if p.id = 0 then .insertProduct p.name p.price (p.stock - quantity) p.createdAt now
  else .updateProduct p.id p.name p.price (p.stock - quantity) now

/-- The answer to what is written back says that it is there, under this id. -/
def Kept (dialect : Dialect) (p : Product) (a : Except Failure Reply) (id : Int) : Prop :=
  if p.id = 0 then Store.newId dialect a = .ok id
  else id = p.id ∧ ∃ r n, a = .ok r ∧ r.affected = .ok n ∧ n ≠ 0

/-- What is said for one requested line, and the order with that line unless something fails. -/
inductive Supplying (dialect : Dialect) (now : Stamp) (o : Order) (it : ItemRequest) :
    Talk → Option Order → Prop
  | unread {a} (h : ∀ p, ¬ Found a p) :
    Supplying dialect now o it [(.selectProduct it.productId true, a)] none
  | short {a p} (h : Found a p) (hq : p.stock < it.quantity) :
    Supplying dialect now o it [(.selectProduct it.productId true, a)] none
  | lost {a b p} (h : Found a p) (hq : it.quantity ≤ p.stock)
      (hb : ∀ id, ¬ Kept dialect p b id) :
    Supplying dialect now o it
      [(.selectProduct it.productId true, a), (writeBack now p it.quantity, b)] none
  | served {a b p id} (h : Found a p) (hq : it.quantity ≤ p.stock) (hb : Kept dialect p b id) :
    Supplying dialect now o it
      [(.selectProduct it.productId true, a), (writeBack now p it.quantity, b)]
      (some (o.addLine { p with id } it.quantity))

/-- What is said for the requested lines, one after another. -/
inductive Reserving (dialect : Dialect) (now : Stamp) :
    Order → List ItemRequest → Talk → Option Order → Prop
  | done {o} : Reserving dialect now o [] [] (some o)
  | stop {o it its talk} (h : Supplying dialect now o it talk none) :
    Reserving dialect now o (it :: its) talk none
  | next {o o' it its talk talk' out} (h : Supplying dialect now o it talk (some o'))
      (hs : Reserving dialect now o' its talk' out) :
    Reserving dialect now o (it :: its) (talk ++ talk') out

/-- What is said for the lines of the order `id`, from the `i`-th on, and whether all went well. -/
inductive Listing (id : Int) : Nat → List Line → Talk → Bool → Prop
  | done {i} : Listing id i [] [] true
  | stop {i l ls f} : Listing id i (l :: ls) [(.insertItem id i l, .error f)] false
  | next {i l ls r talk ok} (h : Listing id (i + 1) ls talk ok) :
    Listing id i (l :: ls) ((.insertItem id i l, .ok r) :: talk) ok

def orderRow (o : Order) : Statement :=
  .insertOrder (Store.Orders.storedNumber o.number) o.status.name o.total o.createdAt o.updatedAt

/-- What is said while an order is placed, and the order with its id unless something fails. -/
inductive Placing (dialect : Dialect) (limit : Decimal) (now : Stamp) (number : String)
    (items : List ItemRequest) : Talk → Option Order → Prop
  | unserved {talk} (h : Reserving dialect now (.start number now) items talk none) :
    Placing dialect limit now number items talk none
  | above {talk o} (h : Reserving dialect now (.start number now) items talk (some o))
      (hv : limit.value < o.total.value) : Placing dialect limit now number items talk none
  | refused {talk o a} (h : Reserving dialect now (.start number now) items talk (some o))
      (hv : o.total.value ≤ limit.value) (ha : ∀ id, Store.newId dialect a ≠ .ok id) :
    Placing dialect limit now number items (talk ++ [(orderRow o, a)]) none
  | listed {talk talk' o a id ok}
      (h : Reserving dialect now (.start number now) items talk (some o))
      (hv : o.total.value ≤ limit.value) (ha : Store.newId dialect a = .ok id)
      (hl : Listing id 0 o.items talk' ok) :
    Placing dialect limit now number items (talk ++ (orderRow o, a) :: talk')
      (if ok then some { o with id } else none)

/-! ## the lines -/

theorem oneOf_ok_iff {c : String} {missing : Cause} {a : Except Failure Reply} {p : Product} :
    Store.oneOf c missing Store.Products.scan a = .ok p ↔ Found a p := by
  cases a with
  | error f => simp [Store.oneOf, Found, Except.bind]
  | ok r =>
    simp only [Store.oneOf, Found, Except.bind, Store.firstOf, Except.ok.injEq]
    rcases hr : r.rows with _ | ⟨row, rows⟩
    · cases r.rowsError <;> simp [hr]
    · cases hp : Store.Products.scan row <;> simp [hr, hp]

theorem changeOf_ok_iff {c : String} {missing : Cause} {a : Except Failure Reply} :
    Store.changeOf c missing a = .ok () ↔ ∃ r n, a = .ok r ∧ r.affected = .ok n ∧ n ≠ 0 := by
  cases a with
  | error f => simp [Store.changeOf, Except.bind, Except.mapError]
  | ok r =>
    simp only [Store.changeOf, Except.bind, Except.mapError, Store.touched, Except.ok.injEq]
    cases hr : r.affected with
    | error t => simp [hr]
    | ok n => by_cases hn : n = 0 <;> simp [hr, hn]

section
variable {d : Desk} {e : Remote} {α : Type}

theorem stored_speaks {c : Call} {x : Action Backend α} {talk : Talk} {out : Option α}
    (ho : d.outages = []) (h : Speaks x (Backend.remote e) e talk out) :
    Speaks (stored c x) d e talk out := by
  have hreach : Speaks (reach c) d e [] (some ()) := by
    refine ⟨rfl, .ok (), ?_, rfl⟩
    exact reach_ok_iff.mpr ⟨by show d.outages.lookup c = none; rw [ho]; rfl, rfl⟩
  exact hreach.bind_some (h.onStore)

/-- a product that is written back is there, or the call fails -/
theorem saveProduct_speaks (now : Stamp) (p : Product) (quantity : Int) : ∃ b out,
    Speaks (Store.Products.save { p with stock := p.stock - quantity, updatedAt := now })
      (Backend.remote e) e [(writeBack now p quantity, b)] out ∧
    ((out = none ∧ ∀ id, ¬ Kept e.dialect p b id) ∨ ∃ id, Kept e.dialect p b id ∧
      out = some { p with stock := p.stock - quantity, updatedAt := now, id }) := by
  refine ⟨(e.answer (writeBack now p quantity)).1, ?_⟩
  unfold Store.Products.save writeBack Kept
  by_cases h0 : p.id = 0
  · simp only [h0, if_true]
    have hinsert : Hears (.insertProduct p.name p.price (p.stock - quantity) p.createdAt now)
        Store.newId (Store.insertNew _) := .insertNew fun _ => rfl
    refine ⟨_, .of_hears ((hinsert.context "insert product").bind
      (g := fun id => .ok { p with stock := p.stock - quantity, updatedAt := now, id })
      fun _ => rfl), ?_⟩
    cases Store.newId e.dialect _ with
    | error f => exact .inl ⟨rfl, fun _ => nofun⟩
    | ok id => exact .inr ⟨id, rfl, rfl⟩
  · simp only [h0, if_false]
    have hchange := Hears.changeOne ("update product " ++ toString p.id)
      (Store.Products.missing p.id)
      (.updateProduct p.id p.name p.price (p.stock - quantity) now)
    refine ⟨_, .of_hears (hchange.bind
      (g := fun _ => .ok { p with stock := p.stock - quantity, updatedAt := now })
      fun _ => rfl), ?_⟩
    generalize (e.answer _).1 = b
    cases hb : Store.changeOf ("update product " ++ toString p.id)
      (Store.Products.missing p.id) b with
    | error f =>
      refine .inl ⟨rfl, fun id hkept => ?_⟩
      rw [changeOf_ok_iff.mpr hkept.2] at hb
      cases hb
    | ok u => exact .inr ⟨p.id, ⟨rfl, changeOf_ok_iff.mp hb⟩, rfl⟩

/-- **One requested line.** -/
theorem takeLine_speaks {now : Stamp} {o : Order} {it : ItemRequest} (ho : d.outages = [])
    (hq : 1 ≤ it.quantity) : ∃ talk out, Supplying e.dialect now o it talk out ∧
      Speaks (takeLine now o it) d e talk out := by
  have hread := stored_speaks (d := d) (c := .lockProduct) ho (Speaks.of_hears (e := e)
    (b := Backend.remote e) (Hears.readOne ("get product " ++ toString it.productId)
      (Store.Products.missing it.productId) Store.Products.scan
      (.selectProduct it.productId true)))
  generalize ha : (e.answer (.selectProduct it.productId true)).1 = a at hread
  unfold takeLine
  -- the three ways to fail, and the one to go on, are the cases of `Supplying`
  cases hone : Store.oneOf ("get product " ++ toString it.productId)
      (Store.Products.missing it.productId) Store.Products.scan a with
  | error f =>
    rw [hone] at hread
    refine ⟨_, _, .unread fun p hp => ?_, hread.bind_none⟩
    rw [oneOf_ok_iff.mpr hp] at hone
    cases hone
  | ok p =>
    rw [hone] at hread
    have hp : Found a p := oneOf_ok_iff.mp hone
    by_cases hs : it.quantity ≤ p.stock
    · have hres : p.reserve it.quantity = .ok { p with stock := p.stock - it.quantity } :=
        reserve_ok_iff.mpr ⟨hq, hs, rfl⟩
      have hreserve : Speaks (Action.ofExcept (p.reserve it.quantity) : Action Desk Product) d
          (e.hear (.statement (.selectProduct it.productId true))) []
          (some { p with stock := p.stock - it.quantity }) := by
        rw [hres]
        exact .ofExcept _
      obtain ⟨b, out, hsave, hend⟩ := saveProduct_speaks
        (e := e.hear (.statement (.selectProduct it.productId true))) now p it.quantity
      rw [Remote.dialect_hear] at hend
      have hsave := (stored_speaks (d := d) (c := .saveProduct) ho hsave).context
        (c := "save stock of product " ++ toString p.id)
      rcases hend with ⟨rfl, hlost⟩ | ⟨id, hkept, rfl⟩
      · exact ⟨_, _, .lost hp hs hlost, hread.bind_some (hreserve.bind_some hsave.bind_none)⟩
      · exact ⟨_, _, .served hp hs hkept,
          hread.bind_some (hreserve.bind_some (hsave.bind_some (.pure _)))⟩
    · have hs : p.stock < it.quantity := by omega
      have hres : Speaks (Action.ofExcept (p.reserve it.quantity) : Action Desk Product) d
          (e.hear (.statement (.selectProduct it.productId true))) [] none := by
        rw [Product.reserve, if_neg (by omega), if_pos hs]
        exact .ofExcept _
      exact ⟨_, _, .short hp hs, hread.bind_some hres.bind_none⟩

/-- **Line after line**, by the rule for one line. -/
theorem takeLines_speaks {now : Stamp} {o : Order} {items : List ItemRequest}
    (ho : d.outages = []) (hq : ∀ it ∈ items, 1 ≤ it.quantity) :
    ∃ talk out, Reserving e.dialect now o items talk out ∧
      Speaks (takeLines now o items) d e talk out := by
  induction items generalizing o e with
  | nil => exact ⟨[], _, .done, .pure o⟩
  | cons it its ih =>
    obtain ⟨talk, out, hsupplying, hline⟩ : ∃ talk out, Supplying e.dialect now o it talk out ∧
        Speaks (takeLine now o it) d e talk out := takeLine_speaks ho (hq it List.mem_cons_self)
    cases out with
    | none => exact ⟨talk, none, .stop hsupplying, hline.bind_none⟩
    | some o' =>
      obtain ⟨talk', out', hrest, hlines⟩ := ih (o := o') (e := e.after talk.sent)
        fun x hx => hq x (List.mem_cons_of_mem _ hx)
      rw [Remote.dialect_after] at hrest
      exact ⟨talk ++ talk', out', .next hsupplying hrest, hline.bind_some hlines⟩

/-- what is built line by line is a new order that matches its lines -/
theorem Reserving.fresh {dialect : Dialect} {now : Stamp} {o o' : Order}
    {items : List ItemRequest} {talk : Talk} (h : Reserving dialect now o items talk (some o'))
    (hbal : o.Balanced) (h0 : o.id = 0) : o'.Balanced ∧ o'.id = 0 := by
  generalize hout : some o' = out at h
  induction h with
  | done =>
    obtain rfl := Option.some.inj hout
    exact ⟨hbal, h0⟩
  | stop _ => cases hout
  | next hsupplying _ ih =>
    refine ih ?_ ?_ hout
    · cases hsupplying
      exact hbal.addLine _ _
    · cases hsupplying
      exact h0

/-! ## the order -/

theorem insertLines_speaks {id : Int} {i : Nat} {ls : List Line} {b : Backend} :
    ∃ talk ok, Listing id i ls talk ok ∧
      Speaks (Store.Orders.insertLines id i ls) b e talk (if ok then some () else none) := by
  induction ls generalizing i e with
  | nil => exact ⟨[], true, .done, .pure ()⟩
  | cons l ls ih =>
    have hline := Speaks.of_hears (e := e) (b := b) ((Hears.send (.insertItem id i l)).context
      ("insert item " ++ toString i ++ " of order " ++ toString id))
    cases ha : (e.answer (.insertItem id i l)).1 with
    | error f =>
      rw [ha] at hline
      exact ⟨_, false, .stop, hline.bind_none⟩
    | ok r =>
      rw [ha] at hline
      obtain ⟨talk, ok, hrest, hlines⟩ := ih (i := i + 1)
        (e := e.hear (.statement (.insertItem id i l)))
      exact ⟨_, ok, .next hrest, hline.bind_some hlines⟩

/-- inside a transaction a save opens nothing: it is the row and then the lines -/
theorem save_of_open {o : Order} {b : Backend} (hbal : o.Balanced) (hopen : b.isOpen = true) :
    Store.Orders.save o b = (Store.Orders.storeRow o >>= fun id =>
      Store.Orders.insertLines id 0 o.items >>= fun _ => pure { o with id }) b := by
  have hwrite : Store.Orders.write o ⟨b, o.id⟩ = Store.Orders.writing o ⟨b, o.id⟩ := by
    rw [Store.Orders.write_eq hbal]
    exact if_pos hopen
  unfold Store.Orders.save
  rw [hwrite]
  rcases hrow : Store.Orders.storeRow o b with ⟨r, b₁⟩
  have hrow' : (Store.onStore (Store.Orders.storeRow o) : Action Store.Orders.Draft Int) ⟨b, o.id⟩
      = (r, ⟨b₁, o.id⟩) := Action.on_of_eq hrow
  unfold Store.Orders.writing
  cases r with
  | failed f => rw [Action.bind_of_failed hrow', Action.bind_of_failed hrow]
  | panicked t => rw [Action.bind_of_panicked hrow', Action.bind_of_panicked hrow]
  | ok id =>
    rw [Action.bind_of_ok hrow', Action.bind_of_ok hrow, Action.bind_of_ok Action.change_apply]
    rcases hlines : Store.Orders.insertLines id 0 o.items b₁ with ⟨r', b₂⟩
    have hlines' : (Store.onStore (Store.Orders.insertLines id 0 o.items) :
        Action Store.Orders.Draft Unit) ⟨b₁, id⟩ = (r', ⟨b₂, id⟩) := Action.on_of_eq hlines
    rw [hlines']
    cases r' with
    | ok u => rw [Action.bind_of_ok hlines]; rfl
    | failed f => rw [Action.bind_of_failed hlines]
    | panicked t => rw [Action.bind_of_panicked hlines]

/-- a new order in a transaction: its row, and then its lines under the id it got -/
theorem saveOrder_speaks {o : Order} (hbal : o.Balanced) (h0 : o.id = 0) (hbusy : e.busy = true) :
    (∃ a, (∀ id, Store.newId e.dialect a ≠ .ok id) ∧
      Speaks (Store.Orders.save o) (Backend.remote e) e [(orderRow o, a)] none) ∨
    ∃ a id talk ok, Store.newId e.dialect a = .ok id ∧ Listing id 0 o.items talk ok ∧
      Speaks (Store.Orders.save o) (Backend.remote e) e ((orderRow o, a) :: talk)
        (if ok then some { o with id } else none) := by
  have hinsert : Hears (orderRow o) Store.newId (Store.insertNew (orderRow o)) :=
    .insertNew fun _ => rfl
  have hrow := Speaks.of_hears (e := e) (b := Backend.remote e) (hinsert.context "insert order")
  generalize ha : (e.answer (orderRow o)).1 = a at hrow
  have hsave : ∀ {talk : Talk} {out : Option Order},
      Speaks (Store.Orders.insertRow o >>= fun id =>
        Store.Orders.insertLines id 0 o.items >>= fun _ => pure { o with id })
        (Backend.remote e) e talk out →
      Speaks (Store.Orders.save o) (Backend.remote e) e talk out := by
    intro talk out h
    obtain ⟨hanswered, r, hrun, hr⟩ := h
    refine ⟨hanswered, r, ?_, hr⟩
    rw [← Store.Orders.storeRow_new h0] at hrun
    have hopen : (Backend.remote e).isOpen = true := hbusy
    exact (save_of_open hbal hopen).trans hrun
  cases hid : Store.newId e.dialect a with
  | error f =>
    rw [hid] at hrow
    exact .inl ⟨a, fun id => by rw [hid]; exact nofun, hsave hrow.bind_none⟩
  | ok id =>
    rw [hid] at hrow
    obtain ⟨talk, ok, hlisting, hlines⟩ : ∃ talk ok, Listing id 0 o.items talk ok ∧
        Speaks (Store.Orders.insertLines id 0 o.items) (Backend.remote e)
          (e.hear (.statement (orderRow o))) talk (if ok then some () else none) :=
      insertLines_speaks
    refine .inr ⟨a, id, talk, ok, hid, hlisting, hsave ?_⟩
    cases ok with
    | false => exact hrow.bind_some hlines.bind_none
    | true =>
      have hall := hrow.bind_some (f := fun id =>
        Store.Orders.insertLines id 0 o.items >>= fun _ => pure { o with id })
        (hlines.bind_some (.pure { o with id }))
      rw [List.append_nil] at hall
      exact hall

def finish (o : Order) : Action Desk Order := do
  let d ← Action.state
  Action.ofExcept (o.checkValue d.policy.maxOrderValue)
  (stored .saveOrder (Store.Orders.save o)).context "save order"

theorem finish_above {o : Order} (hv : d.policy.maxOrderValue.value < o.total.value) :
    Speaks (finish o) d e [] none := by
  have hstate : Speaks Action.state d e [] (some { d with store := .remote e }) :=
    ⟨rfl, _, rfl, rfl⟩
  have hcheck : Speaks (Action.ofExcept (o.checkValue d.policy.maxOrderValue)) d e [] none := by
    rw [checkValue_above hv]
    exact .ofExcept _
  exact hstate.bind_some hcheck.bind_none

theorem finish_below {o : Order} {talk : Talk} {out : Option Order} (ho : d.outages = [])
    (hv : o.total.value ≤ d.policy.maxOrderValue.value)
    (h : Speaks (Store.Orders.save o) (Backend.remote e) e talk out) :
    Speaks (finish o) d e talk out := by
  have hstate : Speaks Action.state d e [] (some { d with store := .remote e }) :=
    ⟨rfl, _, rfl, rfl⟩
  have hcheck : Speaks (Action.ofExcept (o.checkValue d.policy.maxOrderValue)) d e []
      (some ()) := by
    rw [checkValue_ok_iff.mpr hv]
    exact .ofExcept _
  exact hstate.bind_some (hcheck.bind_some (stored_speaks ho h).context)

/-- **The body of the transaction**, in a transaction that is open. -/
theorem placeOrder_speaks {items : List ItemRequest} (ho : d.outages = [])
    (hq : ∀ it ∈ items, 1 ≤ it.quantity) (hbusy : e.busy = true) :
    ∃ talk out r, Placing e.dialect d.policy.maxOrderValue d.clock.utc
      (orderNumber d.uuids.take.1) items talk out ∧ e.exchanges talk.sent = talk ∧
      placeOrder items { d with store := .remote e } = (r, { d with
        uuids := d.uuids.take.2, store := .remote (e.after talk.sent) }) ∧ Ends out r := by
  have hbody : ∃ talk out, Placing e.dialect d.policy.maxOrderValue d.clock.utc
      (orderNumber d.uuids.take.1) items talk out ∧
      Speaks (takeLines d.clock.utc (Order.start (orderNumber d.uuids.take.1) d.clock.utc) items >>=
        finish) { d with uuids := d.uuids.take.2 } e talk out := by
    set start := Order.start (orderNumber d.uuids.take.1) d.clock.utc with hstart
    obtain ⟨talk, out, hreserving, hlines⟩ : ∃ talk out,
        Reserving e.dialect d.clock.utc start items talk out ∧ Speaks
          (takeLines d.clock.utc start items) { d with uuids := d.uuids.take.2 } e talk out :=
      takeLines_speaks ho hq
    cases out with
    | none => exact ⟨talk, none, .unserved hreserving, hlines.bind_none⟩
    | some o =>
      obtain ⟨hbal, h0⟩ := hreserving.fresh (Order.balanced_start _ _) rfl
      have hbusy' : (e.after talk.sent).busy = true := (Talk.busy_after e talk).trans hbusy
      by_cases hv : o.total.value ≤ d.policy.maxOrderValue.value
      · rcases saveOrder_speaks hbal h0 hbusy' with ⟨a, ha, hsave⟩ |
          ⟨a, id, talk', ok, ha, hlisting, hsave⟩
        · rw [Remote.dialect_after] at ha
          exact ⟨_, _, .refused hreserving hv ha, hlines.bind_some (finish_below ho hv hsave)⟩
        · rw [Remote.dialect_after] at ha
          exact ⟨_, _, .listed hreserving hv ha hlisting,
            hlines.bind_some (finish_below ho hv hsave)⟩
      · have hnone := hlines.bind_some (finish_above (e := e.after talk.sent) (not_le.mp hv))
        rw [List.append_nil] at hnone
        exact ⟨talk, none, .above hreserving (not_le.mp hv), hnone⟩
  obtain ⟨talk, out, hplacing, hanswered, r, hrun, hr⟩ := hbody
  refine ⟨talk, out, r, hplacing, hanswered, ?_, hr⟩
  rw [placeOrder, Action.bind_of_ok now_apply, Action.bind_of_ok takeUuid_apply]
  exact hrun

end

/-! ## the stock that is written -/

def stockWritten? : Statement → Option Int
  | .insertProduct _ _ stock _ _ | .updateProduct _ _ _ stock _ => some stock
  | _ => none

/-- Talk in which no product is given a negative stock. -/
def InStock (talk : Talk) : Prop := ∀ x ∈ talk, ∀ n, stockWritten? x.1 = some n → 0 ≤ n

theorem InStock.append {t₁ t₂ : Talk} (h₁ : InStock t₁) (h₂ : InStock t₂) :
    InStock (t₁ ++ t₂) :=
  fun x hx => (List.mem_append.mp hx).elim (h₁ x) (h₂ x)

theorem inStock_of_none {talk : Talk} (h : ∀ x ∈ talk, stockWritten? x.1 = none) :
    InStock talk := by
  intro x hx n hn
  rw [h x hx] at hn
  cases hn

section
variable {dialect : Dialect} {now : Stamp}

theorem Supplying.inStock {o : Order} {it : ItemRequest} {talk : Talk} {out : Option Order}
    (h : Supplying dialect now o it talk out) : InStock talk := by
  have hwrite : ∀ (p : Product) (b : Except Failure Reply), it.quantity ≤ p.stock →
      InStock [(writeBack now p it.quantity, b)] := by
    intro p b hq x hx n hn
    obtain rfl := List.mem_singleton.mp hx
    have hn : n = p.stock - it.quantity := by
      unfold writeBack at hn
      split at hn <;> exact (Option.some.inj hn).symm
    omega
  have hfirst : ∀ a, InStock [(Statement.selectProduct it.productId true, a)] :=
    fun a => inStock_of_none fun x hx => by rw [List.mem_singleton.mp hx]; rfl
  cases h with
  | unread | short => exact hfirst _
  | @lost a b p _ hq _ | @served a b p _ _ hq _ => exact (hfirst a).append (hwrite p b hq)

theorem Reserving.inStock {o : Order} {items : List ItemRequest} {talk : Talk}
    {out : Option Order} (h : Reserving dialect now o items talk out) : InStock talk := by
  induction h with
  | done => exact fun _ hx => absurd hx List.not_mem_nil
  | stop hsupplying => exact hsupplying.inStock
  | next hsupplying _ ih => exact hsupplying.inStock.append ih

theorem Listing.inStock {id : Int} {i : Nat} {ls : List Line} {talk : Talk} {ok : Bool}
    (h : Listing id i ls talk ok) : InStock talk := by
  refine inStock_of_none fun x hx => ?_
  induction h with
  | done => cases hx
  | stop => rw [List.mem_singleton.mp hx]; rfl
  | next _ ih =>
    rcases List.mem_cons.mp hx with rfl | hx
    · rfl
    · exact ih hx

theorem Placing.inStock {limit : Decimal} {number : String} {items : List ItemRequest}
    {talk : Talk} {out : Option Order} (h : Placing dialect limit now number items talk out) :
    InStock talk := by
  have hrow : ∀ (o : Order) a, InStock [(orderRow o, a)] :=
    fun o a => inStock_of_none fun x hx => by rw [List.mem_singleton.mp hx]; rfl
  cases h with
  | unserved h => exact h.inStock
  | above h => exact h.inStock
  | refused h => exact h.inStock.append (hrow _ _)
  | listed h _ _ hl => exact h.inStock.append ((hrow _ _).append hl.inStock)

end

/-! ## a whole creation -/

theorem lockingRead_sql {dialect : Dialect} (h : dialect = .of .mysql ∨ dialect = .of .postgres)
    (id : Int) : (Statement.selectProduct id true).sql dialect
      = "SELECT id, name, price, stock, created_at, updated_at FROM products WHERE id = " ++
        (if dialect.numbered then "$1" else "?") ++ " FOR UPDATE" := by
  -- the text does not depend on the id, so both sides are closed
  rcases h with rfl | rfl
  · show Dialect.rebind (.of .mysql) ("SELECT " ++ Statement.productColumns ++
      " FROM products WHERE id = ?" ++ " FOR UPDATE") = _
    decide +kernel
  · show Dialect.rebind (.of .postgres) ("SELECT " ++ Statement.productColumns ++
      " FROM products WHERE id = ?" ++ " FOR UPDATE") = _
    decide +kernel

section
variable {s : Scope} {r : OrderRequest} {d : Desk} {e : Remote}

/-- a creation without a key says to the store what its transaction says -/
theorem createPlain_store (hc : checkItems r.items = .ok ()) (ho : d.outages = []) :
    (createPlain s r d).2.store = (Store.within (placeOrder r.items) d).2.store := by
  have hreserve : reserveAndStore r.items d = Store.within (placeOrder r.items) d := by
    have hreach : reach .transaction d = (.ok (), d) :=
      reach_ok_iff.mpr ⟨by rw [ho]; rfl, rfl⟩
    exact Action.bind_of_ok hreach
  unfold createPlain
  rw [hc, Action.bind_of_ok Action.ofExcept_ok, ← hreserve]
  rcases Action.bind_ends (reserveAndStore r.items) (fun o => afterwards s r false o) d with
    ⟨o, d₁, hrun, hend⟩ | ⟨-, -, hend⟩
  · have hafter := (afterwards_writes (W := [OrderCache.key o.id]) s r false o
      (List.mem_singleton.mpr rfl) nofun d₁).store
    rw [hend, hafter, hrun]
  · rw [hend]

/-- **A creation locks, writes and closes in order.** Whatever an engine with row locks answers: the
engine does not begin the transaction and nothing else is sent; or everything that is sent stands
between one begin and one commit, or one rollback if the body of the transaction did not return an
order, and is said as `Placing` has it. Each line reads its product with a lock and then writes back
the stock that was read less the quantity, under the id in the row that was read. -/
theorem creation_locks_in_order (hs : d.store = .remote e) (hbusy : e.busy = false)
    (hd : e.dialect = .of .mysql ∨ e.dialect = .of .postgres) (ho : d.outages = [])
    (hk : r.key = "") (hc : checkItems r.items = .ok ()) :
    (∀ id, (Statement.selectProduct id true).sql e.dialect
      = "SELECT id, name, price, stock, created_at, updated_at FROM products WHERE id = " ++
        (if e.dialect.numbered then "$1" else "?") ++ " FOR UPDATE") ∧
    ((createOrder s r d).2.store = .remote (e.after [.signal .begin]) ∧
        (e.refusals.lookup .begin).isSome ∨
      ∃ (xs : List Sent) (talk : Talk) (placed : Option Order) (t : Telemetry.Tracer),
        (createOrder s r d).2.store = .remote (e.after xs) ∧ e.exchanges xs = talk ∧
        xs = .signal .begin :: talk.sent ++
          [.signal (if placed.isSome then .commit else .rollback)] ∧
        Placing e.dialect d.policy.maxOrderValue d.clock.utc (orderNumber d.uuids.take.1) r.items
          talk placed ∧ InStock talk ∧
        Ends placed (placeOrder r.items { d with
          tracer := t, store := .remote (e.hear (.signal .begin)) }).1) := by
  refine ⟨lockingRead_sql hd, ?_⟩
  obtain ⟨s', t, -, hstore⟩ := createOrder_unkeyed s hk d
  rw [hstore.trans (createPlain_store (d := { d with tracer := t }) hc ho)]
  have hdt : Store.storeOf { d with tracer := t } = .remote e := hs
  cases hbegin : e.refusals.lookup .begin with
  | some text =>
    obtain ⟨f, hrun⟩ : ∃ f, Store.within (placeOrder r.items) { d with tracer := t }
        = (.failed f, _) := Store.within_refused hdt hbusy hbegin
    rw [hrun]
    exact .inl ⟨rfl, rfl⟩
  | none =>
    -- the transaction is open after the begin, so the save in the body opens none of its own
    have hopen : (e.hear (.signal .begin)).busy = true := by
      simp [Remote.hear, Store.Signal.leaves, hbegin]
    obtain ⟨talk, placed, out, hplacing, hanswered, hrun, hends⟩ :=
      placeOrder_speaks (d := { d with tracer := t }) ho
        (fun it hit => ((wellFormed_of_checkItems hc).2 it hit).2) hopen
    rw [Remote.dialect_hear] at hplacing
    have hwithin : Store.within (placeOrder r.items) { d with tracer := t } = _ :=
      Store.within_begun hdt hbusy hbegin
    have hbody : placeOrder r.items (Part.set (Backend.remote (e.hear (.signal .begin)))
        { d with tracer := t }) = _ := hrun
    rw [hbody] at hwithin
    obtain ⟨hclosed, -⟩ := Store.conclude_closes out (e := (e.hear (.signal .begin)).after talk.sent)
      (s := { d with tracer := t, uuids := d.uuids.take.2,
                     store := .remote ((e.hear (.signal .begin)).after talk.sent) }) rfl
    have hclosing : Store.closing out = if placed.isSome then .commit else .rollback := by
      cases placed with
      | some o => rw [show out = .ok o from hends]; rfl
      | none => obtain ⟨f, rfl⟩ := hends; rfl
    refine .inr ⟨_, talk, placed, t, ?_, ?_, rfl, hplacing, hplacing.inStock, ?_⟩
    · rw [hwithin, ← hclosing]
      refine hclosed.trans ?_
      rw [List.cons_append, ← List.singleton_append, Remote.after_append, Remote.after_append]
      rfl
    · show (e.hear (.signal .begin)).exchanges (talk.sent ++ _) = talk
      rw [Remote.exchanges_append, hanswered]
      exact List.append_nil talk
    · rw [show placeOrder r.items _ = _ from hrun]
      exact hends

end

/-- what an engine answers with a row of five units under this id -/
def fiveUnitsOf (id : Int) : Store.Reply :=
  { rows := [[.int id, .text "A", .text "2", .int 5, .time .zero, .time .zero]] }

/-- A service whose engine gives these answers, and then those of an engine without more. -/
def answering (answers : List Store.Reply) : Desk where
  policy := { maxOrderValue := .ofInt 100, cacheTime := 1, idempotencyTime := 1 }
  store := .remote { dialect := .of .mysql, answers := answers.map .ok }
  clock := .zero

def twoUnits : OrderRequest := ⟨"", "", [⟨1, 2⟩]⟩

/-- two lines, for two units of a product and one of another -/
def twoProducts : OrderRequest := ⟨"", "", [⟨1, 2⟩, ⟨2, 1⟩]⟩

/-- an engine that answers with the rows that are asked for -/
def honestEngine : Desk := answering [fiveUnitsOf 1, { affected := .ok 1 }, fiveUnitsOf 2]

def told (d : Desk) : List Sent :=
  match d.store with
  | .remote e => e.sent
  | .embedded _ => []

/-- the rows that were asked for: each is written back before the next one is read, both lines get
their numbers, and the order is committed -/
theorem asked_row_locked_in_order :
    told (createOrder scope twoProducts honestEngine).2 = [.signal .begin,
      .statement (.selectProduct 1 true), .statement (.updateProduct 1 "A" (.ofInt 2) 3 .zero),
      .statement (.selectProduct 2 true), .statement (.updateProduct 2 "A" (.ofInt 2) 4 .zero),
      .statement (.insertOrder "ORD-A5ACB3BAC1C8" "PENDING" (.ofInt 6) .zero .zero),
      .statement (.insertItem 1 0 ⟨1, "A", 2, .ofInt 2⟩),
      .statement (.insertItem 1 1 ⟨2, "A", 1, .ofInt 2⟩), .signal .commit] ∧
    ∃ talk o, Placing (.of .mysql) (.ofInt 100) .zero "ORD-A5ACB3BAC1C8" [⟨1, 2⟩, ⟨2, 1⟩] talk
        (some o) ∧
      told (createOrder scope twoProducts honestEngine).2
        = .signal .begin :: talk.sent ++ [.signal .commit] := by
  have htold : told (createOrder scope twoProducts honestEngine).2 = [.signal .begin,
      .statement (.selectProduct 1 true), .statement (.updateProduct 1 "A" (.ofInt 2) 3 .zero),
      .statement (.selectProduct 2 true), .statement (.updateProduct 2 "A" (.ofInt 2) 4 .zero),
      .statement (.insertOrder "ORD-A5ACB3BAC1C8" "PENDING" (.ofInt 6) .zero .zero),
      .statement (.insertItem 1 0 ⟨1, "A", 2, .ofInt 2⟩),
      .statement (.insertItem 1 1 ⟨2, "A", 1, .ofInt 2⟩), .signal .commit] := by decide +kernel
  have hnumber : orderNumber honestEngine.uuids.take.1 = "ORD-A5ACB3BAC1C8" := by decide +kernel
  refine ⟨htold, ?_⟩
  obtain ⟨-, ⟨-, hrefused⟩ | ⟨xs, talk, placed, t, hstore, -, hxs, hplacing, -⟩⟩ :=
    creation_locks_in_order (s := scope) (r := twoProducts) (d := honestEngine) rfl rfl (.inl rfl)
      rfl rfl rfl
  · cases hrefused
  · have hsent : told (createOrder scope twoProducts honestEngine).2 = xs := by
      unfold told
      rw [hstore]
      exact (Remote.sent_after _ _).trans (List.nil_append _)
    rw [hnumber] at hplacing
    cases placed with
    | none =>
      -- it would have been rolled back
      have hlast : xs.getLast? = some (.signal .rollback) := by
        rw [hxs]
        exact List.getLast?_concat ..
      rw [← hsent, htold] at hlast
      cases hlast
    | some o => exact ⟨talk, o, hplacing, hsent.trans hxs⟩

/-- another row: the change goes to that row, though the product 1 was asked for and locked -/
theorem other_row_is_written :
    told (createOrder scope twoUnits (answering [fiveUnitsOf 7])).2 = [.signal .begin,
      .statement (.selectProduct 1 true), .statement (.updateProduct 7 "A" (.ofInt 2) 3 .zero),
      .statement (.insertOrder "ORD-A5ACB3BAC1C8" "PENDING" (.ofInt 4) .zero .zero),
      .statement (.insertItem 1 0 ⟨7, "A", 2, .ofInt 2⟩), .signal .commit] := by
  decide +kernel

end OrderDesk.Desk
