import OrderDesk.Proofs.Desk.Atomicity
import OrderDesk.Proofs.Desk.Reservation

/-!
# Creating an order

A creation without a client's key goes through exactly when the request is acceptable, and then it
leaves the stock less the demand, one order and its lines. Otherwise it fails for the first thing
that is wrong.

* `WellFormed`, `Malformed`       the shape of a request, and what is wrong first with it;
* `Placed`                        what the transaction of a creation did;
* `placeOrder_ok`, `placeOrder_ends`      when the transaction goes through, and how it fails;
* `Acceptable`, `Refused`         the condition, and the failure when it does not hold;
* `creation_accepts_exactly`      the condition and the first failure;
* `creation_effect`               what a successful creation did to the tables, and its answer.
-/

namespace OrderDesk.Desk

open OrderDesk.Action (Keeps Fixed)
open Store (Backend Database Tables Table HasId ProductRow OrderRow ItemRow inside)

/-! ## the shape of a request -/

/-- The shape of a line: it names a product, and asks for at least one unit. -/
def ItemRequest.WellFormed (it : ItemRequest) : Prop := 0 < it.productId ∧ 1 ≤ it.quantity

/-- The shape of a request: at least one line, every one of them well formed. -/
def WellFormed (items : List ItemRequest) : Prop := items ≠ [] ∧ ∀ it ∈ items, it.WellFormed

/-- What is wrong first with the shape of a request. -/
inductive Malformed (items : List ItemRequest) : Cause → Prop where
  | empty : items = [] → Malformed items (.validation "items" .empty)
  | product (pre : List ItemRequest) (it : ItemRequest) (post : List ItemRequest) :
      items = pre ++ it :: post → (∀ x ∈ pre, x.WellFormed) → it.productId ≤ 0 →
      Malformed items (.validation (itemField pre.length "productId") .required)
  | quantity (pre : List ItemRequest) (it : ItemRequest) (post : List ItemRequest) :
      items = pre ++ it :: post → (∀ x ∈ pre, x.WellFormed) → 0 < it.productId → it.quantity < 1 →
      Malformed items (.validation (itemField pre.length "quantity") .belowOne)

theorem itemFault_eq_none_iff {i : Nat} {it : ItemRequest} :
    itemFault i it = none ↔ it.WellFormed := by
  unfold itemFault ItemRequest.WellFormed
  by_cases h₁ : it.productId ≤ 0
  · simp only [if_pos h₁, reduceCtorEq, false_iff]
    omega
  by_cases h₂ : it.quantity < 1
  · simp only [if_neg h₁, if_pos h₂, reduceCtorEq, false_iff]
    omega
  · simp only [if_neg h₁, if_neg h₂, true_iff]
    omega

theorem itemFault_some {i : Nat} {it : ItemRequest} {c : Cause} (h : itemFault i it = some c) :
    (it.productId ≤ 0 ∧ c = .validation (itemField i "productId") .required) ∨
      0 < it.productId ∧ it.quantity < 1 ∧ c = .validation (itemField i "quantity") .belowOne := by
  unfold itemFault at h
  by_cases h₁ : it.productId ≤ 0
  · rw [if_pos h₁] at h
    exact .inl ⟨h₁, (Option.some.inj h).symm⟩
  by_cases h₂ : it.quantity < 1
  · rw [if_neg h₁, if_pos h₂] at h
    exact .inr ⟨by omega, h₂, (Option.some.inj h).symm⟩
  · simp [h₁, h₂] at h

/-- the lines are looked at one after another, up to the first with a fault -/
theorem itemsFault_ends (i : Nat) (items : List ItemRequest) :
    (itemsFault i items = none ∧ ∀ it ∈ items, it.WellFormed) ∨
      ∃ pre it post c, items = pre ++ it :: post ∧ (∀ x ∈ pre, x.WellFormed) ∧
        itemFault (i + pre.length) it = some c ∧ itemsFault i items = some c := by
  induction items generalizing i with
  | nil => exact .inl ⟨rfl, fun _ h => nomatch h⟩
  | cons it items ih =>
    cases hf : itemFault i it with
    | some c => exact .inr ⟨[], it, items, c, rfl, fun _ h => (nomatch h), hf, by rw [itemsFault, hf]⟩
    | none =>
      have hit : it.WellFormed := itemFault_eq_none_iff.mp hf
      rcases ih (i + 1) with ⟨hnone, hall⟩ | ⟨pre, x, post, c, rfl, hpre, hx, hc⟩
      · refine .inl ⟨by rw [itemsFault, hf]; exact hnone, fun x hx => ?_⟩
        rcases List.mem_cons.mp hx with rfl | hx
        · exact hit
        · exact hall x hx
      · refine .inr ⟨it :: pre, x, post, c, rfl, fun y hy => ?_, ?_, ?_⟩
        · rcases List.mem_cons.mp hy with rfl | hy
          · exact hit
          · exact hpre y hy
        · rw [← hx, List.length_cons]
          congr 1
          omega
        · rw [itemsFault, hf]
          exact hc

/-- **A request is well formed, or fails for the first thing that is wrong with its shape.** -/
theorem checkItems_ends (items : List ItemRequest) :
    (checkItems items = .ok () ∧ WellFormed items) ∨
      ∃ c, Malformed items c ∧ checkItems items = .error (.cause c) ∧ ¬ WellFormed items := by
  cases items with
  | nil => exact .inr ⟨_, .empty rfl, rfl, fun h => h.1 rfl⟩
  | cons it items =>
    rcases itemsFault_ends 0 (it :: items) with ⟨hnone, hall⟩ | ⟨pre, x, post, c, he, hpre, hx, hc⟩
    · have hok : checkItems (it :: items) = .ok () := by
        simp only [checkItems, hnone]
      exact .inl ⟨hok, by simp, hall⟩
    · have hbad : ¬ WellFormed (it :: items) := by
        intro h
        have hxw := itemFault_eq_none_iff (i := 0 + pre.length).mpr (h.2 x (by rw [he]; simp))
        rw [hx] at hxw
        cases hxw
      have herror : checkItems (it :: items) = .error (.cause c) := by
        simp only [checkItems, hc]
      refine .inr ⟨c, ?_, herror, hbad⟩
      rw [Nat.zero_add] at hx
      rcases itemFault_some hx with ⟨h₁, rfl⟩ | ⟨h₁, h₂, rfl⟩
      · exact .product pre x post he hpre h₁
      · exact .quantity pre x post he hpre h₁ h₂

/-! ## the transaction -/

/-- units times price over some lines, at the prices of the table -/
def worth (t : Table ProductRow) (items : List ItemRequest) : ℚ :=
  (items.map fun it =>
    ((catalog t it.productId).map fun p => p.price.value * (it.quantity : ℚ)).getD 0).sum

theorem worth_of_priced {t : Table ProductRow} {items : List ItemRequest} {ls : List Line}
    (h : List.Forall₂ (Priced t) items ls) : (ls.map Line.cost).sum = worth t items := by
  induction h with
  | nil => rfl
  | @cons it l items ls h _ ih =>
    obtain ⟨p, hp, -, hprice⟩ := h.product
    rw [worth, List.map_cons, List.sum_cons, List.map_cons, List.sum_cons, ih, hp, Line.cost, hprice,
      h.quantity]
    rfl

theorem checkValue_ok_iff {o : Order} {limit : Decimal} {u : Unit} :
    o.checkValue limit = .ok u ↔ o.total.value ≤ limit.value := by
  unfold Order.checkValue
  by_cases h : o.total.gt limit = true
  · have hgt := Decimal.gt_iff.mp h
    simp only [if_pos h, reduceCtorEq, false_iff, not_le]
    exact hgt
  · have hle := mt Decimal.gt_iff.mpr h
    simp only [if_neg h, true_iff]
    exact not_lt.mp hle

theorem checkValue_above {o : Order} {limit : Decimal} (h : limit.value < o.total.value) :
    o.checkValue limit = .error (.cause (.valueExceeded o.total limit)) := by
  rw [Order.checkValue, if_pos (Decimal.gt_iff.mpr h)]

theorem orderNumber_ne (n : Nat) : orderNumber n ≠ "" := by simp [orderNumber]

/-- The tables can take a new order of `n` lines: its number is not in use, and ids are left. -/
structure Room (number : String) (n : Nat) (book : Table OrderRow) (lines : Table ItemRow) :
    Prop where
  unused : ∀ r ∈ book.rows, r.number ≠ some number
  orderId : book.nextId < 2 ^ 63
  lineIds : lines.nextId + n ≤ 2 ^ 63

/-- The store has the tables of orders and lines, and room in them. -/
def HasRoom (number : String) (n : Nat) (ts : Tables) : Prop :=
  ∃ book lines, ts.orders = some book ∧ ts.items = some lines ∧ Room number n book lines

/-- no other row has the number of a new order -/
theorem numberTaken_new_iff {book : Table OrderRow} {number : String} (h0 : number ≠ "") :
    Tables.numberTaken book (Store.Orders.storedNumber number) book.nextId = false ↔
      ∀ r ∈ book.rows, r.number ≠ some number := by
  have hstored : Store.Orders.storedNumber number = some number := if_neg h0
  rw [hstored]
  show (book.rows.any fun r => r.number == some number && r.id != book.nextId) = false ↔ _
  rw [List.any_eq_false]
  refine forall₂_congr fun r hr => ?_
  have hid : r.id ≠ book.nextId := Int.ne_of_lt (Table.id_lt_nextId hr)
  simp [hid]

/-- What the transaction of a creation did: the stock it took, and the order it stored. -/
structure Placed (limit : Decimal) (now : Stamp) (number : String) (items : List ItemRequest)
    (t t' : Table ProductRow) (book : Table OrderRow) (lines : Table ItemRow) (o : Order) :
    Prop where
  room : Room number items.length book lines
  served : Served now t items t'
  priced : List.Forall₂ (Priced t) items o.items
  header : o = { Order.start number now with
    id := book.nextId, lines := o.lines, total := o.total }
  balanced : o.Balanced
  storable : o.Storable
  affordable : o.total.value ≤ limit.value

theorem Placed.mono {limit limit' : Decimal} {now : Stamp} {number : String}
    {items : List ItemRequest} {t t' : Table ProductRow} {book : Table OrderRow}
    {lines : Table ItemRow} {o : Order} (h : Placed limit now number items t t' book lines o)
    (hle : limit.value ≤ limit'.value) : Placed limit' now number items t t' book lines o :=
  { h with affordable := h.affordable.trans hle }

section
variable {items : List ItemRequest} {d d' : Desk} {db : Database} {o : Order}

theorem products_of_takeLines {now : Stamp} (hw : WellFormed items) {o' : Order}
    (hs : d.store = .embedded db) (h : takeLines now o items d = (.ok o', d')) :
    ∃ t, db.tables.products = some t := by
  cases items with
  | nil => exact absurd rfl hw.1
  | cons it items =>
    obtain ⟨_, _, hline, -⟩ := Action.bind_ok_iff.mp h
    obtain ⟨-, -, -, t, _, _, ht, -⟩ :=
      (takeLine_ok_iff hs (hw.2 it List.mem_cons_self).1).mp hline
    exact ⟨t, ht⟩

/-- the order that is about to be stored, after its lines were served -/
theorem extended_start {number : String} {now : Stamp} {ls : List Line}
    (h : Extended (Order.start number now) ls o) :
    o.items = ls ∧ o.id = 0 ∧ o.number = number ∧ o.Balanced ∧ o.Storable := by
  refine ⟨h.items, ?_, ?_, h.balanced (Order.balanced_start _ _),
    h.storable (Order.storable_start _ _)⟩
  · rw [h.same]
    rfl
  · rw [h.same]
    rfl

/-- **The transaction of a creation went through**: what it did. -/
theorem placeOrder_ok (hs : d.store = .embedded db) (hopen : db.saved.isSome)
    (hw : WellFormed items) (h : placeOrder items d = (.ok o, d')) :
    ∃ t t' book lines, db.tables.products = some t ∧ db.tables.orders = some book ∧
      db.tables.items = some lines ∧
      Placed d.policy.maxOrderValue d.clock.utc (orderNumber d.uuids.take.1) items t t' book lines
        o ∧
      d'.store = .embedded { db with
        tables := Store.Orders.withNew { db.tables with products := some t' } book lines o } := by
  rw [placeOrder, Action.bind_of_ok now_apply, Action.bind_of_ok takeUuid_apply,
    Action.bind_ok_iff] at h
  obtain ⟨o₁, d₁, hlines, h⟩ := h
  obtain ⟨t, ht⟩ := products_of_takeLines hw (d := { d with uuids := d.uuids.take.2 }) hs hlines
  obtain ⟨t', ls, hv, hls, hext, rfl⟩ := takeLines_ok (fun it hit => (hw.2 it hit).1)
    (d := { d with uuids := d.uuids.take.2 }) hs ht (.nil _ t) hlines
  rw [Action.bind_of_ok Action.state_apply, Action.bind_ok_iff] at h
  obtain ⟨_, d₂, hcheck, hstored⟩ := h
  obtain ⟨hvalue, rfl⟩ := Action.ofExcept_ok_iff.mp hcheck
  obtain ⟨-, b, hsave, rfl⟩ := stored_ok_iff.mp (Action.context_ok_iff.mp hstored)
  obtain ⟨hitems, hid, hnumber, hbal, hstor⟩ := extended_start hext
  have hne : o₁.items ≠ [] := by
    rw [hitems]
    rintro rfl
    cases hls
    exact hw.1 rfl
  have hopen' : (withProducts db t').saved.isSome := hopen
  obtain ⟨-, -, book, lines, hbook, hlines', hunused, hleft, hfit, rfl, rfl⟩ :=
    (Store.Orders.insert_ok_iff hopen' hid hne).mp hsave
  have hlen : o₁.items.length = items.length := by
    rw [hitems]
    exact hls.length_eq.symm
  rw [hnumber] at hunused
  refine ⟨t, t', book, lines, ht, hbook, hlines', ⟨⟨?_, hleft, hlen ▸ hfit⟩, ?_, ?_, ?_, hbal,
    ⟨hstor.total, hstor.prices⟩, ?_⟩, rfl⟩
  · exact (numberTaken_new_iff (orderNumber_ne _)).mp hunused
  · rwa [List.nil_append] at hv
  · show List.Forall₂ (Priced t) items o₁.items
    rw [hitems]
    exact hls
  · have := hext.same
    rw [this]
  · exact checkValue_ok_iff.mp hvalue

/-! ## when it goes through -/

/-- **When a creation goes through**: the request is well formed, the stock covers the demand, and
its worth is within the limit. -/
structure Acceptable (limit : Decimal) (t : Table ProductRow) (items : List ItemRequest) : Prop where
  wellFormed : WellFormed items
  available : Available t items
  affordable : worth t items ≤ limit.value

/-- **What a creation fails for**: the first fault of shape, else the first line that meets a
shortage, else the worth of the whole. -/
inductive Refused (limit : Decimal) (t : Table ProductRow) (items : List ItemRequest) :
    Cause → Prop where
  | malformed (c : Cause) : Malformed items c → Refused limit t items c
  | shortage (pre : List ItemRequest) (it : ItemRequest) (post : List ItemRequest) (c : Cause) :
      WellFormed items → items = pre ++ it :: post → Available t pre → Shortage t pre it c →
      Refused limit t items c
  | exceeded (total : Decimal) : WellFormed items → Available t items →
      total.value = worth t items → limit.value < total.value →
      Refused limit t items (.valueExceeded total limit)

theorem Placed.acceptable {limit : Decimal} {now : Stamp} {number : String}
    {t t' : Table ProductRow} {book : Table OrderRow} {lines : Table ItemRow}
    (hw : WellFormed items) (h : Placed limit now number items t t' book lines o) :
    Acceptable limit t items :=
  ⟨hw, h.served.available, by rw [← worth_of_priced h.priced, ← h.balanced]; exact h.affordable⟩

/-- **The transaction of a creation fails for what is wrong first**; when nothing is, it goes
through wherever there is room. -/
theorem placeOrder_ends {t : Table ProductRow} (hclock : d.clock.utc.InCalendar)
    (hread : ∀ r ∈ t.rows, ∃ p, r.product? = some p) (hw : WellFormed items)
    (hout : d.outages = []) (hs : d.store = .embedded db) (hopen : db.saved.isSome)
    (hc : db.closed = false) (ht : db.tables.products = some t) :
    (Acceptable d.policy.maxOrderValue t items ∧
        (HasRoom (orderNumber d.uuids.take.1) items.length db.tables →
          ∃ o d', placeOrder items d = (.ok o, d'))) ∨
      ∃ c d' ts, placeOrder items d = (.failed (.cause c), d') ∧
        d'.store = .embedded { db with tables := ts } ∧
        Refused d.policy.maxOrderValue t items c ∧ ¬ Acceptable d.policy.maxOrderValue t items := by
  rw [placeOrder, Action.bind_of_ok now_apply, Action.bind_of_ok takeUuid_apply]
  rcases takeLines_ends (o := Order.start (orderNumber d.uuids.take.1) d.clock.utc)
    (d := { d with uuids := d.uuids.take.2 }) (Store.time?_stored hclock) hread hw.2 hout hs hc ht
    (.nil _ t) with ⟨o₁, d₁, htake⟩ | ⟨pre, it, post, c, he, ha, hshort, d₁, t', htake, hstore⟩
  · obtain ⟨t', ls, hv, hls, hext, rfl⟩ := takeLines_ok (fun it hit => (hw.2 it hit).1)
      (d := { d with uuids := d.uuids.take.2 }) hs ht (.nil _ t) htake
    obtain ⟨hitems, hid, hnumber, hbal, hstor⟩ := extended_start hext
    have hworth : o₁.total.value = worth t items := by
      rw [hbal, hitems, worth_of_priced hls]
    have havail : Available t items := hv.available
    rw [Action.bind_of_ok htake, Action.bind_of_ok Action.state_apply]
    by_cases hlimit : o₁.total.value ≤ d.policy.maxOrderValue.value
    · have hne : o₁.items ≠ [] := by
        rw [hitems]
        rintro rfl
        cases hls
        exact hw.1 rfl
      have hlen : o₁.items.length = items.length := by
        rw [hitems]
        exact hls.length_eq.symm
      have hopen' : (withProducts db t').saved.isSome := hopen
      refine .inl ⟨⟨hw, havail, hworth ▸ hlimit⟩, ?_⟩
      rintro ⟨book, lines, hbook, hlines, hroom⟩
      rw [← hnumber] at hroom
      have hsave := (Store.Orders.insert_ok_iff hopen' hid hne).mpr ⟨hbal, hc, book, lines, hbook,
        hlines, (numberTaken_new_iff (hnumber ▸ orderNumber_ne _)).mpr hroom.unused, hroom.orderId,
        hlen ▸ hroom.lineIds, rfl, rfl⟩
      rw [Action.bind_of_ok (Action.ofExcept_ok_iff.mpr
        ⟨checkValue_ok_iff (u := ()) |>.mpr hlimit, rfl⟩)]
      exact ⟨_, _, Action.context_ok_iff.mpr (stored_ok_iff.mpr ⟨by rw [hout]; rfl, _, hsave, rfl⟩)⟩
    · have habove := not_le.mp hlimit
      refine .inr ⟨_, _, _, Action.bind_of_failed (Action.ofExcept_failed_iff.mpr
        ⟨checkValue_above habove, rfl⟩), rfl, .exceeded _ hw havail hworth habove, fun h => ?_⟩
      exact hlimit (hworth ▸ h.affordable)
  · rw [List.nil_append] at ha hshort
    refine .inr ⟨c, d₁, _, Action.bind_of_failed htake, hstore,
      .shortage pre it post c hw he ha hshort, fun h => ?_⟩
    exact (he ▸ h.available).no_shortage (fun x hx => (hw.2 x (he ▸ hx)).2) hshort

end

/-! ## the whole call -/

/-- a creation without a key that counts -/
def createPlain (s : Scope) (r : OrderRequest) : Action Desk Summary := do
  Action.ofExcept (checkItems r.items)
  let o ← reserveAndStore r.items
  afterwards s r false o

/-- a creation without a key, its span and its counters aside -/
theorem createOrder_unkeyed (s : Scope) {r : OrderRequest} (hk : r.key = "") (d : Desk) :
    ∃ s' t, (createOrder s r d).1 = (createPlain s' r { d with tracer := t }).1 ∧
      (createOrder s r d).2.store = (createPlain s' r { d with tracer := t }).2.store := by
  rcases h : createOrder s r d with ⟨out, d'⟩
  obtain ⟨s', t, t', m, d₁, hcreate, rfl⟩ := createOrder_end h
  have hkeyed : usesKey { d with tracer := t } r = false := by
    simp [usesKey, hk]
  have hplain : createPlain s' r { d with tracer := t } = (out, d₁) :=
    (createUnmeasured_unkeyed hkeyed).symm.trans hcreate
  exact ⟨s', t, by rw [hplain], by rw [hplain]⟩

section
variable {s : Scope} {r : OrderRequest} {d d' : Desk} {db : Database} {a : Summary}

/-- **A creation that went through**: what its transaction did, and the answer. -/
theorem createOrder_ok (hk : r.key = "") (hs : d.store = .embedded db) (hr : db.saved = none)
    (h : createOrder s r d = (.ok a, d')) :
    WellFormed r.items ∧ ∃ o t t' book lines, db.tables.products = some t ∧
      db.tables.orders = some book ∧ db.tables.items = some lines ∧
      Placed d.policy.maxOrderValue d.clock.utc (orderNumber d.uuids.take.1) r.items t t' book
        lines o ∧
      a = o.summary ∧ db.closed = false ∧ d'.store = .embedded { db with
        tables := Store.Orders.withNew { db.tables with products := some t' } book lines o } := by
  obtain ⟨s', t₀, hout, hstore⟩ := createOrder_unkeyed s hk d
  rw [h] at hout hstore
  rcases hp : createPlain s' r { d with tracer := t₀ } with ⟨out, d₁⟩
  rw [hp] at hout hstore
  obtain rfl : Outcome.ok a = out := hout
  obtain ⟨_, d₂, hcheck, hrest⟩ := Action.bind_ok_iff.mp hp
  obtain ⟨hcheck, rfl⟩ := Action.ofExcept_ok_iff.mp hcheck
  obtain ⟨o, d₃, hplace, hafter⟩ := Action.bind_ok_iff.mp hrest
  have hw : WellFormed r.items := by
    rcases checkItems_ends r.items with ⟨-, hw⟩ | ⟨c, -, hbad, -⟩
    · exact hw
    · rw [hbad] at hcheck
      cases hcheck
  obtain ⟨-, hc, d₄, ts, hbody, hts, rfl⟩ :=
    transaction_ok (d := { d with tracer := t₀ }) (placeOrder_works r.items) hs hr hplace
  obtain ⟨t, t', book, lines, ht, hbook, hlines, hplaced, hstore'⟩ :=
    placeOrder_ok (d := { d with tracer := t₀, store := .embedded (inside db db.tables) }) rfl rfl hw
      hbody
  have htables : ts = Store.Orders.withNew { db.tables with products := some t' } book lines o := by
    rw [hts] at hstore'
    exact congrArg Database.tables (Backend.embedded.inj hstore')
  have hsum : a = o.summary := by
    obtain ⟨_, _, -, ha⟩ := Action.bind_ok_iff.mp hafter
    exact (Outcome.ok.inj (Prod.mk.inj ha).1).symm
  refine ⟨hw, o, t, t', book, lines, ht, hbook, hlines, hplaced, hsum, hc, ?_⟩
  have hkept := (afterwards_writes (W := [OrderCache.key o.id]) s' r false o List.mem_cons_self
    nofun).of_eq hafter
  rw [hstore, ← htables]
  exact hkept.store

/-- a creation fails for what is wrong first; when nothing is, it goes through where there is room -/
theorem createOrder_ends (s : Scope) {t : Table ProductRow} (hk : r.key = "")
    (hclock : d.clock.utc.InCalendar) (hout : d.outages = []) (hs : d.store = .embedded db)
    (hr : db.saved = none) (hc : db.closed = false) (ht : db.tables.products = some t)
    (hread : ∀ row ∈ t.rows, ∃ p, row.product? = some p) :
    (Acceptable d.policy.maxOrderValue t r.items ∧
        (HasRoom (orderNumber d.uuids.take.1) r.items.length db.tables →
          ∃ a d', createOrder s r d = (.ok a, d'))) ∨
      ∃ c d', createOrder s r d = (.failed (.cause c), d') ∧
        Refused d.policy.maxOrderValue t r.items c ∧
        ¬ Acceptable d.policy.maxOrderValue t r.items := by
  -- the call ends as the plain creation does, which only notes and counters surround
  obtain ⟨s', t₀, hfirst, -⟩ := createOrder_unkeyed s hk d
  rcases h : createOrder s r d with ⟨out, d'⟩
  rw [h] at hfirst
  have hno : d.outages.lookup .transaction = none := by rw [hout]; rfl
  rcases checkItems_ends r.items with ⟨hcheck, hw⟩ | ⟨c, hbad, hcheck, hnw⟩
  · rcases placeOrder_ends
      (d := { d with tracer := t₀, store := .embedded (inside db db.tables) }) hclock hread hw hout
      rfl rfl hc ht with ⟨hacc, hplace⟩ | ⟨c, d₁, ts, hplace, hts, href, hno'⟩
    · refine .inl ⟨hacc, fun hroom => ?_⟩
      obtain ⟨o, d₁, hplace⟩ := hplace hroom
      obtain ⟨d₂, htx⟩ := transaction_of_ok (d := { d with tracer := t₀ })
        (placeOrder_works r.items) hno hs hr hc hplace
      have hout₂ : d₂.outages = [] := by
        have hb : beside d₂ = beside { d with tracer := t₀ } :=
          (transaction_beside (placeOrder_works r.items)).of_eq htx
        simp only [beside, Prod.mk.injEq] at hb
        rw [hb.2.2.2.2]
        exact hout
      obtain ⟨d₃, hafter⟩ := afterwards_ok s' r false o (steady_of_no_outage hout₂)
      have hplain : createPlain s' r { d with tracer := t₀ } = (.ok o.summary, d₃) :=
        Action.bind_ok_iff.mpr ⟨(), _, Action.ofExcept_ok_iff.mpr ⟨hcheck, rfl⟩,
          Action.bind_ok_iff.mpr ⟨o, d₂, htx, hafter⟩⟩
      rw [hplain] at hfirst
      obtain rfl : out = .ok o.summary := hfirst
      exact ⟨_, d', rfl⟩
    · obtain ⟨d₂, htx⟩ := transaction_of_failed (d := { d with tracer := t₀ })
        hno hs hr hc hplace hts
      have hplain : createPlain s' r { d with tracer := t₀ } = (.failed (.cause c), d₂) :=
        Action.bind_failed_iff.mpr (.inr ⟨(), _, Action.ofExcept_ok_iff.mpr ⟨hcheck, rfl⟩,
          Action.bind_failed_iff.mpr (.inl htx)⟩)
      rw [hplain] at hfirst
      obtain rfl : out = .failed (.cause c) := hfirst
      exact .inr ⟨c, d', rfl, href, hno'⟩
  · have hplain : createPlain s' r { d with tracer := t₀ }
        = (.failed (.cause c), { d with tracer := t₀ }) :=
      Action.bind_failed_iff.mpr (.inl (Action.ofExcept_failed_iff.mpr ⟨hcheck, rfl⟩))
    rw [hplain] at hfirst
    obtain rfl : out = .failed (.cause c) := hfirst
    exact .inr ⟨c, d', rfl, .malformed c hbad, fun hacc => hnw hacc.wellFormed⟩

/-- **The exact condition of a creation, and its first failure.** Without a key, with every
collaborator in order, a creation goes through exactly when the request is acceptable and there is
room for the order; and when the request is not acceptable, it fails for what is wrong first. -/
theorem creation_accepts_exactly {t : Table ProductRow} (hk : r.key = "")
    (hclock : d.clock.utc.InCalendar) (hout : d.outages = []) (hs : d.store = .embedded db)
    (hr : db.saved = none) (hc : db.closed = false) (ht : db.tables.products = some t)
    (hread : ∀ row ∈ t.rows, ∃ p, row.product? = some p) :
    ((∃ a d', createOrder s r d = (.ok a, d')) ↔
        Acceptable d.policy.maxOrderValue t r.items ∧
        HasRoom (orderNumber d.uuids.take.1) r.items.length db.tables) ∧
      (¬ Acceptable d.policy.maxOrderValue t r.items → ∃ c d',
        createOrder s r d = (.failed (.cause c), d') ∧
        Refused d.policy.maxOrderValue t r.items c) := by
  have hends := createOrder_ends s hk hclock hout hs hr hc ht hread
  refine ⟨⟨?_, ?_⟩, ?_⟩
  · rintro ⟨a, d', hok⟩
    obtain ⟨hw, o, t₁, t', book, lines, ht₁, hbook, hlines, hplaced, -⟩ :=
      createOrder_ok hk hs hr hok
    obtain rfl : t = t₁ := Option.some.inj (ht.symm.trans ht₁)
    exact ⟨hplaced.acceptable hw, book, lines, hbook, hlines, hplaced.room⟩
  · rintro ⟨hacc, hroom⟩
    rcases hends with ⟨-, hok⟩ | ⟨c, d', -, -, hno⟩
    · exact hok hroom
    · exact absurd hacc hno
  · intro hno
    rcases hends with ⟨hacc, -⟩ | ⟨c, d', hfail, href, -⟩
    · exact absurd hacc hno
    · exact ⟨c, d', hfail, href⟩

end

theorem fiveUnits_catalog : catalog fiveUnits 1 = some ⟨1, "A", ⟨2, 0⟩, 5, .zero, .zero⟩ := by
  decide +kernel

def threeUnits : OrderRequest := { items := [⟨1, 1⟩, ⟨1, 2⟩] }

theorem threeUnits_acceptable : Acceptable (.ofInt 100) fiveUnits threeUnits.items where
  wellFormed := by simp [threeUnits, WellFormed, ItemRequest.WellFormed]
  available := by
    intro it hit
    have hid : it.productId = 1 := by
      rcases List.mem_cons.mp hit with rfl | hit
      · rfl
      · rw [List.mem_singleton.mp hit]
    rw [hid]
    exact ⟨_, fiveUnits_catalog, by decide⟩
  affordable := by
    simp only [threeUnits, worth, List.map_cons, List.map_nil, fiveUnits_catalog, Decimal.value,
      Decimal.ofInt, Option.map_some, Option.getD_some]
    norm_num

theorem shop_sells_threeUnits :
    ∃ a d', createOrder scope threeUnits (shopWith {} {}) = (.ok a, d') := by
  have hread : ∀ row ∈ fiveUnits.rows, ∃ p, row.product? = some p := by
    intro row hrow
    rw [List.mem_singleton.mp hrow]
    exact ⟨⟨1, "A", ⟨2, 0⟩, 5, .zero, .zero⟩, by decide +kernel⟩
  have hiff := creation_accepts_exactly (s := scope) (r := threeUnits) (d := shopWith {} {}) rfl
    (by decide) rfl rfl rfl rfl rfl hread
  refine hiff.1.mpr ⟨threeUnits_acceptable, {}, {}, rfl, rfl, ⟨?_, by decide, by decide⟩⟩
  intro row hrow
  cases hrow

/-- An acceptable request with an unused number is not enough: a shop that has given out every id
takes no order. -/
theorem full_shop_sells_nothing :
    Acceptable (.ofInt 100) fiveUnits threeUnits.items ∧
      (∀ row ∈ ({ lastId := 2 ^ 63 - 1 } : Table OrderRow).rows, row.number ≠ some (orderNumber 0)) ∧
      ¬ ∃ a d', createOrder scope threeUnits (shopWith { lastId := 2 ^ 63 - 1 } {}) = (.ok a, d') := by
  refine ⟨threeUnits_acceptable, (fun _ hrow => nomatch hrow), ?_⟩
  rintro ⟨a, d', h⟩
  obtain ⟨-, o, t, t', book, lines, -, hbook, -, hplaced, -⟩ := createOrder_ok rfl rfl rfl h
  have hbook : { lastId := 2 ^ 63 - 1 } = book := Option.some.inj hbook
  have hid := hplaced.room.orderId
  rw [← hbook] at hid
  exact absurd hid (by decide)

/-! ## what it did -/

/-- The products after a creation: no product comes or goes, each has lost the demand for it from
its stock, and the rows that were not asked for are as they were. -/
structure Sold (items : List ItemRequest) (t t' : Table ProductRow) : Prop where
  ids : t'.rows.map HasId.id = t.rows.map HasId.id
  lastId : t'.lastId = t.lastId
  other : ∀ id, ¬ Named id items → t'.get? id = t.get? id
  product : ∀ id p, catalog t id = some p → ∃ p', catalog t' id = some p' ∧
    p'.stock = p.stock - demand id items ∧ p'.name = p.name ∧ p'.price.value = p.price.value ∧
    p'.createdAt = p.createdAt

/-- The order that a creation adds: one row, and a row for each line of the request, in the order
of the lines, with the name and the price from the table of products before it. -/
structure Added (now : Stamp) (number : String) (items : List ItemRequest) (t : Table ProductRow)
    (book book' : Table OrderRow) (lines lines' : Table ItemRow) (id : Int) : Prop where
  fresh : ∀ row ∈ book.rows, row.id ≠ id
  order : ∃ row total, book'.rows = book.rows ++ [row] ∧
    row.order? = some ⟨id, number, .pending, total, some [], now, now⟩ ∧
    total.value = worth t items
  lines : ∃ ls, lines'.rows = lines.rows ++ Store.lineRows id 0 lines.nextId ls ∧
    List.Forall₂ (Priced t) items ls

theorem Served.sold {now : Stamp} {items : List ItemRequest} {t t' : Table ProductRow}
    (hnow : (Store.stored (.time now)).time? = some now) (h : Served now t items t') :
    Sold items t t' where
  ids := h.ids
  lastId := h.lastId
  other := h.other
  product := by
    intro id p hp
    obtain ⟨p', hp'⟩ := h.readable hnow hp
    obtain ⟨r', hg', hr'⟩ := catalog_eq_some_iff.mp hp'
    obtain ⟨r₀, p₀, hg₀, hr₀, -, hname, hprice, hcreated, hstock, -⟩ := h.read hg' hr'
    have he : p₀ = p := Option.some.inj ((catalog_eq_some_iff.mpr ⟨r₀, hg₀, hr₀⟩).symm.trans hp)
    rw [he] at hname hprice hcreated hstock
    exact ⟨p', hp', hstock, hname, hprice, hcreated⟩

section
variable {limit : Decimal} {now : Stamp} {number : String} {items : List ItemRequest}
  {t t' : Table ProductRow} {book : Table OrderRow} {lines : Table ItemRow} {o : Order}

/-- the order of a creation is a new one of this moment -/
theorem Placed.fields (h : Placed limit now number items t t' book lines o) :
    o.id = book.nextId ∧ o.number = number ∧ o.status = .pending ∧ o.createdAt = now ∧
      o.updatedAt = now :=
  ⟨congrArg Order.id h.header, congrArg Order.number h.header, congrArg Order.status h.header,
    congrArg Order.createdAt h.header, congrArg Order.updatedAt h.header⟩

theorem Placed.added (hnow : (Store.stored (.time now)).time? = some now)
    (h : Placed limit now number items t t' book lines o) :
    Added now number items t book (book.insert (OrderRow.ofNew o)) lines
      (Store.appendLines book.nextId 0 lines o.items) o.id := by
  obtain ⟨hid, hnumber, hstatus, hcreated, hupdated⟩ := h.fields
  have hc : (Store.stored (.time o.createdAt)).time? = some o.createdAt := by rw [hcreated, hnow]
  have hu : (Store.stored (.time o.updatedAt)).time? = some o.updatedAt := by rw [hupdated, hnow]
  obtain ⟨total, hval, hrow⟩ := Store.Orders.order?_ofNew book.nextId h.storable hc hu
  refine ⟨fun row hr => ?_, ⟨_, total, rfl, ?_, ?_⟩, o.items, ?_, h.priced⟩
  · rw [hid]
    exact Int.ne_of_lt (Table.id_lt_nextId hr)
  · rw [hrow, hid, ← hnumber, ← hstatus]
    rw [hcreated, hupdated]
  · rw [hval, h.balanced, worth_of_priced h.priced]
  · rw [hid]
    exact Store.rows_appendLines book.nextId 0 lines o.items

/-- **The answer of a creation is what reading the order gives**, if no line named its id before. -/
theorem Placed.read (hnow : (Store.stored (.time now)).time? = some now) {db : Database}
    (hc : db.closed = false) (h : Placed limit now number items t t' book lines o)
    (hnone : ∀ row ∈ lines.rows, row.orderId ≠ .int o.id) {ts : Tables} {b : Backend}
    (hb : b = .embedded { db with tables := Store.Orders.withNew ts book lines o }) :
    ∃ o', Store.Orders.get o.id b = (.ok o', b) ∧ o'.summary = o.summary := by
  obtain ⟨hid, -, -, hcreated, hupdated⟩ := h.fields
  rw [hid] at hnone
  have hc' : ({ db with tables := ts } : Database).closed = false := hc
  obtain ⟨total, ls, hval, halike, hread⟩ := Store.Orders.read_withNew hc' h.storable
    (by rw [hcreated, hnow]) (by rw [hupdated, hnow]) hnone
  refine ⟨{ o with total, lines := some ls }, ?_, o.summary_of_alike hval halike⟩
  rw [hb, hid]
  exact hread

end

section
variable {s : Scope} {r : OrderRequest} {d d' : Desk} {db : Database} {a : Summary}

/-- **What a successful creation did**, without a key and whatever is out of order beside the
store: the stock less the demand, one order awaiting payment with its lines, and nothing else in
the tables. The answer is what reading the order gives, if no line named its id before. -/
theorem creation_effect (hk : r.key = "") (hclock : d.clock.utc.InCalendar)
    (hs : d.store = .embedded db) (hr : db.saved = none)
    (h : createOrder s r d = (.ok a, d')) :
    ∃ t t' book book' lines lines', db.tables.products = some t ∧ db.tables.orders = some book ∧
      db.tables.items = some lines ∧
      d'.store = .embedded { db with tables := { db.tables with
        products := some t', orders := some book', items := some lines' } } ∧
      Sold r.items t t' ∧
      Added d.clock.utc (orderNumber d.uuids.take.1) r.items t book book' lines lines' a.id ∧
      ((∀ row ∈ lines.rows, row.orderId ≠ .int a.id) →
        ∃ o, Store.Orders.get a.id d'.store = (.ok o, d'.store) ∧ o.summary = a) := by
  obtain ⟨-, o, t, t', book, lines, ht, hbook, hlines, hplaced, rfl, hc, hstore⟩ :=
    createOrder_ok hk hs hr h
  have hnow := Store.time?_stored hclock
  refine ⟨t, t', book, _, lines, _, ht, hbook, hlines, hstore, hplaced.served.sold hnow,
    hplaced.added hnow, fun hnone => ?_⟩
  exact hplaced.read hnow hc hnone hstore

end

theorem shop_is_left_with_two : ∃ a d' db t p,
    createOrder scope threeUnits (shopWith {} {}) = (.ok a, d') ∧ d'.store = .embedded db ∧
    db.tables.products = some t ∧ catalog t 1 = some p ∧ p.stock = 2 ∧
    ∃ o, Store.Orders.get a.id d'.store = (.ok o, d'.store) ∧ o.summary = a := by
  obtain ⟨a, ha⟩ := Option.isSome_iff_exists.mp
    (by decide +kernel : ((createOrder scope threeUnits).value? (shopWith {} {})).isSome = true)
  have hrun := Action.ok_of_value? ha
  obtain ⟨t, t', book, book', lines, lines', ht, -, hlines, hstore, hsold, -, hread⟩ :=
    creation_effect rfl (by decide) rfl rfl hrun
  have ht : fiveUnits = t := Option.some.inj ht
  have hlines : {} = lines := Option.some.inj hlines
  obtain ⟨p, hp, hstock, -⟩ := hsold.product 1 _ (ht ▸ fiveUnits_catalog)
  refine ⟨a, _, _, t', p, hrun, hstore, rfl, hp, hstock, hread ?_⟩
  rw [← hlines]
  intro row hrow
  cases hrow

/-- a line of no order, which names the next one -/
def strayLine : Table ItemRow :=
  { rows := [⟨1, .int 1, .int 0, .int 1, "A", .int 1, "2"⟩], lastId := 1 }

/-- Where a stray line names the next order, reading the order does not give the answer of its
creation: the line is read as one more of the order. -/
theorem shop_with_stray_line : ∃ a d',
    createOrder scope threeUnits (shopWith {} strayLine) = (.ok a, d') ∧
    ¬ ∃ o, Store.Orders.get a.id d'.store = (.ok o, d'.store) ∧ o.summary = a := by
  obtain ⟨a, ha⟩ := Option.isSome_iff_exists.mp
    (by decide +kernel : ((createOrder scope threeUnits).value? (shopWith {} strayLine)).isSome = true)
  have hrun := Action.ok_of_value? ha
  refine ⟨a, _, hrun, ?_⟩
  rintro ⟨o', hget, hsum⟩
  obtain ⟨-, o, t, t', book, lines, -, hbook, hlines, hplaced, rfl, -, hstore⟩ :=
    createOrder_ok rfl rfl rfl hrun
  have hbook : {} = book := Option.some.inj hbook
  have hlines : strayLine = lines := Option.some.inj hlines
  rw [hstore] at hget
  obtain ⟨-, -, _, lines', _, _, ls, -, hlines', -, -, hread, rfl⟩ :=
    Store.Orders.read_ok_iff.mp hget
  have hlines' : Store.appendLines book.nextId 0 lines o.items = lines' := Option.some.inj hlines'
  have hid : o.summary.id = 1 := by
    show o.id = 1
    rw [hplaced.fields.1, ← hbook]
    rfl
  have hnext : book.nextId = 1 := by rw [← hbook]; rfl
  -- the stray line and those of the order are read, one more than were stored
  have hlen : ls.length = 1 + o.items.length := by
    rw [← hread.length_eq, List.length_mergeSort, ← hlines', hid, hnext,
      Store.linesOf_appendLines, List.length_append, Store.length_lineRows, ← hlines]
    rfl
  have hsame : ls.length = o.items.length := by
    have hitems := congrArg (·.items.length) hsum
    simpa [Order.summary, Order.items] using hitems
  omega

end OrderDesk.Desk
