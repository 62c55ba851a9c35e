import OrderDesk.Desk.Messages
import OrderDesk.Proofs.Desk.Reading
import OrderDesk.Proofs.Number.Binary64

/-!
# The gauge of low stock

Every message of a new order makes the service look at the products that the order names. A product
that is found sets its series or clears it; one that is not there any more leaves it as it is. So
after a message the gauge is right for every product of the catalog, whatever it showed before, and
for a product that was removed it still shows what was found last.

* `Meter.level_setTo`, `Meter.level_clear`      the series after one was set or cleared;
* `Products.read_notFound`      a product that is reported missing has no row;
* `getProduct_cases`            how looking up a product ends;
* `shown`                       what becomes of a series, by the stock that is found;
* `watchProduct_cases`, `watchStock_shown`      one product, and all products of a message;
* `remembered`, `monitored_level`      what a run of messages leaves of a series;
* `Right`, `gauge_right_iff`    when the gauge is right after a message.
-/

namespace OrderDesk.Telemetry.Meter

/-! ## series of a gauge -/

variable {m : Meter} {s t : Series} {n : Int}

theorem level_clear : (m.clear s).level t = if t = s then none else m.level t := by
  obtain ⟨counts, gauges⟩ := m
  show (gauges.filter (·.1 != s)).lookup t = if t = s then none else gauges.lookup t
  induction gauges with
  | nil => simp
  | cons g gauges ih =>
    obtain ⟨u, k⟩ := g
    by_cases hu : u = s
    · rw [List.filter_cons_of_neg (by simp [hu]), ih, List.lookup_cons, hu]
      by_cases ht : t = s
      · simp [ht]
      · have hne : (t == s) = false := by simpa using ht
        rw [if_neg ht, if_neg ht, hne]
    · rw [List.filter_cons_of_pos (by simpa using hu), List.lookup_cons, List.lookup_cons, ih]
      by_cases ht : t = u
      · simp [ht, hu]
      · have hne : (t == u) = false := by simpa using ht
        rw [hne]

theorem level_setTo :
    (m.setTo s n).level t = if t = s then some (Binary64.nearest n) else m.level t := by
  have hcleared : ((m.clear s).gauges ++ [(s, Binary64.nearest n)]).lookup t
      = ((m.clear s).level t).or ([(s, Binary64.nearest n)].lookup t) := List.lookup_append
  show ((m.clear s).gauges ++ [(s, Binary64.nearest n)]).lookup t = _
  rw [hcleared, level_clear]
  by_cases ht : t = s
  · simp [ht]
  · have hne : (t == s) = false := by simpa using ht
    rw [if_neg ht, if_neg ht, List.lookup_cons, hne, List.lookup_nil, Option.or_none]

end OrderDesk.Telemetry.Meter

namespace OrderDesk.Store

/-! ## missing products -/

section
variable {b b' : Backend} {q : Statement} {f : Failure} {db : Database} {id : Int} {keep : Bool}

/-- a first row that is not to be had: the words of the engine, or no row at all -/
theorem firstRow_failed {α : Type} {width : Nat} {read : Row → Option α}
    (h : firstRow (scanRow width read) q b = (.failed f, b')) : (∃ text, f = .plain text) ∨
      f = .cause .noRows ∧ ∃ r, send q b = (.ok r, b') ∧ r.rows = [] := by
  rcases Action.bind_failed_iff.mp h with hsend | ⟨r, b₁, hsend, hrest⟩
  · exact .inl (send_error hsend)
  · cases hrows : r.rows with
    | nil =>
      cases herror : r.rowsError with
      | none =>
        rw [hrows, herror] at hrest
        obtain ⟨hf, rfl⟩ := Prod.mk.inj hrest
        exact .inr ⟨(Outcome.failed.inj hf).symm, r, hsend, hrows⟩
      | some text =>
        rw [hrows, herror] at hrest
        exact .inl ⟨text, (Outcome.failed.inj (Prod.mk.inj hrest).1).symm⟩
    | cons row rest =>
      simp only [hrows] at hrest
      obtain ⟨hscan, -⟩ := Action.ofExcept_failed_iff.mp hrest
      unfold scanRow at hscan
      split at hscan
      · split at hscan
        · cases hscan
        · exact .inl ⟨_, (Except.error.inj hscan).symm⟩
      · exact .inl ⟨_, (Except.error.inj hscan).symm⟩

/-- **A product that is reported missing** has no row. -/
theorem Products.read_notFound (h : read keep id (.embedded db) = (.failed f, b))
    (hf : f.has (·.kind == .notFound) = true) :
    ∃ t, db.tables.products = some t ∧ t.get? id = none := by
  obtain ⟨g, b₁, hfirst, hrest⟩ := Action.orElse_failed_iff.mp h
  rcases firstRow_failed hfirst with ⟨text, rfl⟩ | ⟨rfl, r, hsend, hrows⟩
  · -- the words of the engine stay what they are
    obtain ⟨hg, -⟩ := Prod.mk.inj hrest
    rw [← Outcome.failed.inj hg] at hf
    cases hf
  · obtain ⟨-, -, t, ht, hr⟩ := (query_ok_iff (answer_products rfl) (fun _ => rfl)
      fun t ht => by rw [← ht]).mp hsend
    refine ⟨t, ht, ?_⟩
    rw [hr] at hrows
    have hnone : (t.get? id).toList.map ProductRow.cells = [] := hrows
    simpa using hnone

end

end OrderDesk.Store

namespace OrderDesk.Desk

open OrderDesk.Action (Keeps)
open Store (Backend Database Tables)
open Telemetry (Meter Series)

/-! ## one product -/

/-- A desk with a store of its own, of which no outage says that a product is not there. -/
structure Watching (d : Desk) : Prop where
  embedded : ∃ db, d.store = .embedded db
  honest : ∀ f, d.outages.lookup .getProduct = some (.fails f) →
    f.has (·.kind == .notFound) = false

/-- does looking up a product tell whether it is there -/
def tells (d : Desk) (id : Int) : Bool :=
  match (getProduct id d).1 with
  | .ok _ => true
  | .failed f => f.has (·.kind == .notFound)
  | .panicked _ => false

/-- what becomes of a series: the stock that is found sets it, to the nearest number a gauge has, or
clears it, and a product that is not there leaves it -/
def shown (n : Int) (stock before : Option Int) : Option Int :=
  match stock with
  | some k => if k ≤ n then some (Binary64.nearest k) else none
  | none => before

theorem shown_idem (n : Int) (stock before : Option Int) :
    shown n stock (shown n stock before) = shown n stock before := by
  cases stock <;> rfl

section
variable {d d' : Desk} {n orderId id j : Int} {s t : Series}

theorem lowStock_inj : lowStock id = lowStock j ↔ id = j := by
  constructor
  · intro h
    have hlabels : [("product_id", toString id)] = [("product_id", toString j)] :=
      congrArg Series.labels h
    exact Word.toString_inj.mp (Prod.mk.inj (List.cons.inj hlabels).1).2
  · rintro rfl
    rfl

/-- looking up a product reads the store, unless an outage comes first -/
theorem getProduct_eq : getProduct id d = match d.outages.lookup .getProduct with
    | none => ((Store.Products.get id d.store).1, { d with store := (Store.Products.get id d.store).2 })
    | some (.fails f) => (.failed f, d)
    | some (.panics text) => (.panicked text, d) := by
  show (reach .getProduct >>= fun _ => (Store.onStore (Store.Products.get id) : Action Desk Product)) d
    = _
  cases hout : d.outages.lookup .getProduct with
  | none => exact Action.bind_of_ok (reach_ok_iff (u := ()) |>.mpr ⟨hout, rfl⟩)
  | some o =>
    cases o with
    | fails f => exact Action.bind_of_failed (reach_failed_iff.mpr ⟨hout, rfl⟩)
    | panics text =>
      apply Action.bind_of_panicked
      unfold reach
      rw [Action.bind_of_ok Action.state_apply, hout]
      rfl

theorem getProduct_keeps {db : Database} (hs : d.store = .embedded db) :
    (getProduct id d).2 = d := by
  have hread : Keeps Store.ReadOnly (Store.Products.get id) :=
    Store.readOne_keeps _ _ _ (Store.send_readOnly rfl)
  have hstore : (Store.Products.get id d.store).2 = d.store :=
    ((hread d.store).embedded hs).trans hs.symm
  rw [getProduct_eq]
  cases d.outages.lookup .getProduct with
  | none =>
    show ({ d with store := (Store.Products.get id d.store).2 } : Desk) = d
    rw [hstore]
  | some o => cases o <;> rfl

/-- **How looking up a product ends**: with the product, with the news that it is not there, or
without telling; the desk stays as it is. -/
theorem getProduct_cases (h : Watching d) (id : Int) :
    (∃ p, getProduct id d = (.ok p, d) ∧ p.id = id ∧
        stock? id (tablesOf d.store) = some p.stock) ∨
      (∃ f, getProduct id d = (.failed f, d) ∧ f.has (·.kind == .notFound) = true ∧
        stock? id (tablesOf d.store) = none) ∨
      tells d id = false ∧ ((∃ f, getProduct id d = (.failed f, d)) ∨
        ∃ text, getProduct id d = (.panicked text, d)) := by
  obtain ⟨db, hs⟩ := h.embedded
  have hkeeps : (getProduct id d).2 = d := getProduct_keeps hs
  rcases hget : getProduct id d with ⟨o, d'⟩
  rw [hget] at hkeeps
  obtain rfl : d' = d := hkeeps
  cases o with
  | ok p =>
    obtain ⟨-, b, hread, -⟩ := stored_ok_iff.mp hget
    rw [hs] at hread
    obtain ⟨-, -, t, r, ht, hrow, hp⟩ := Store.Products.read_ok_iff.mp hread
    obtain ⟨hid, -, -, hstock, -⟩ := Store.ProductRow.product?_eq_some_iff.mp hp
    refine .inl ⟨p, rfl, hid.trans (Store.Table.get?_some hrow).2, ?_⟩
    rw [hs]
    show (do (← (← db.tables.products).get? id).stock.int?) = some p.stock
    rw [ht]
    show (do (← t.get? id).stock.int?) = some p.stock
    rw [hrow]
    exact hstock
  | failed f =>
    cases hf : f.has (·.kind == .notFound) with
    | false => exact .inr (.inr ⟨by rw [tells, hget]; exact hf, .inl ⟨f, rfl⟩⟩)
    | true =>
      rcases stored_failed_iff.mp hget with ⟨hout, -⟩ | ⟨-, b, hread, -⟩
      · rw [h.honest f hout] at hf
        cases hf
      · rw [hs] at hread
        obtain ⟨t, ht, hnone⟩ := Store.Products.read_notFound hread hf
        refine .inr (.inl ⟨f, rfl, hf, ?_⟩)
        rw [hs]
        show (do (← (← db.tables.products).get? id).stock.int?) = none
        rw [ht]
        show (do (← t.get? id).stock.int?) = none
        rw [hnone]
        rfl
  | panicked text => exact .inr (.inr ⟨by rw [tells, hget], .inr ⟨text, rfl⟩⟩)

/-- What watching leaves of a desk besides its meter and its log. -/
structure Beheld (d d' : Desk) : Prop where
  store : d'.store = d.store
  outages : d'.outages = d.outages

theorem Watching.of_beheld (h : Watching d) (hb : Beheld d d') : Watching d' := by
  obtain ⟨db, hs⟩ := h.embedded
  refine ⟨⟨db, hb.store.trans hs⟩, ?_⟩
  rw [hb.outages]
  exact h.honest

theorem Beheld.refl (d : Desk) : Beheld d d := ⟨rfl, rfl⟩

theorem Beheld.trans {d₁ : Desk} (h : Beheld d d₁) (h₁ : Beheld d₁ d') : Beheld d d' :=
  ⟨h₁.store.trans h.store, h₁.outages.trans h.outages⟩

theorem tells_of_beheld (hb : Beheld d d') (id : Int) : tells d' id = tells d id := by
  unfold tells
  rw [getProduct_eq, getProduct_eq, hb.outages, hb.store]
  cases d.outages.lookup .getProduct with
  | none => rfl
  | some o => cases o <;> rfl

/-- **Watching one product**: its series becomes what the stock says, every other series stays, or
the look-up does not tell and nothing happens. -/
theorem watchProduct_cases (h : Watching d) (n orderId id : Int) :
    (tells d id = true ∧ ∃ d', watchProduct n orderId id d = (.ok (), d') ∧ Beheld d d' ∧
        ∀ s, d'.meter.level s = if s = lowStock id
          then shown n (stock? id (tablesOf d.store)) (d.meter.level s) else d.meter.level s) ∨
      tells d id = false ∧ (watchProduct n orderId id d).1 ≠ .ok () ∧
        (watchProduct n orderId id d).2 = d := by
  rcases getProduct_cases h id with ⟨p, hget, hid, hstock⟩ | ⟨f, hget, hf, hstock⟩ | ⟨hquiet, hget⟩
  · refine .inl ⟨by rw [tells, hget], ?_⟩
    unfold watchProduct
    rw [Action.attempt_bind_of_ok hget, hstock, ← hid]
    by_cases hlow : n < p.stock
    · refine ⟨_, congrFun (if_pos hlow) d, ⟨rfl, rfl⟩, fun s => ?_⟩
      show (d.meter.clear (lowStock p.id)).level s = _
      have hshown : shown n (some p.stock) (d.meter.level s) = none := if_neg (by omega)
      rw [Meter.level_clear, hshown]
    · refine ⟨_, congrFun (if_neg hlow) d, ⟨rfl, rfl⟩, fun s => ?_⟩
      show (d.meter.setTo (lowStock p.id) p.stock).level s = _
      have hshown : shown n (some p.stock) (d.meter.level s) = some (Binary64.nearest p.stock) :=
        if_pos (by omega)
      rw [Meter.level_setTo, hshown]
  · refine .inl ⟨by rw [tells, hget]; exact hf, d, ?_, .refl d, fun s => ?_⟩
    · unfold watchProduct
      rw [Action.attempt_bind_of_failed hget]
      exact congrFun (if_pos hf) d
    · rw [hstock, shown, ite_self]
  · refine .inr ⟨hquiet, ?_⟩
    rcases hget with ⟨f, hget⟩ | ⟨text, hget⟩
    · have hf : f.has (·.kind == .notFound) = false := by
        rw [tells, hget] at hquiet
        exact hquiet
      have hend : watchProduct n orderId id d = (.failed f, d) := by
        unfold watchProduct
        rw [Action.attempt_bind_of_failed hget]
        exact congrFun (if_neg (by rw [hf]; exact Bool.false_ne_true)) d
      rw [hend]
      exact ⟨nofun, rfl⟩
    · have hfound : (getProduct id).attempt d = (.panicked text, d) := by
        rw [Action.attempt, hget]
      unfold watchProduct
      rw [Action.bind_of_panicked hfound]
      exact ⟨nofun, rfl⟩

/-! ## the products of a message -/

/-- The series of some products became what their stock says, and every other series is as it was. -/
structure Shown (n : Int) (ids : List Int) (d d' : Desk) : Prop where
  beheld : Beheld d d'
  named : ∀ id ∈ ids, d'.meter.level (lowStock id)
    = shown n (stock? id (tablesOf d.store)) (d.meter.level (lowStock id))
  others : ∀ s, (∀ id ∈ ids, s ≠ lowStock id) → d'.meter.level s = d.meter.level s

theorem Shown.nil (n : Int) (d : Desk) : Shown n [] d d where
  beheld := .refl d
  named _ hid := absurd hid List.not_mem_nil
  others _ _ := rfl

theorem Shown.cons {d₁ : Desk} {ids : List Int} (hb : Beheld d d₁)
    (hstep : ∀ s, d₁.meter.level s = if s = lowStock id
      then shown n (stock? id (tablesOf d.store)) (d.meter.level s) else d.meter.level s)
    (h : Shown n ids d₁ d') : Shown n (id :: ids) d d' where
  beheld := hb.trans h.beheld
  named j hj := by
    have hlevel := hstep (lowStock j)
    by_cases hmem : j ∈ ids
    · rw [h.named j hmem, hb.store, hlevel]
      by_cases hid : lowStock j = lowStock id
      · -- the same product again finds the same stock
        rw [if_pos hid, lowStock_inj.mp hid, shown_idem]
      · rw [if_neg hid]
    · obtain rfl : j = id := (List.mem_cons.mp hj).resolve_right hmem
      rw [if_pos rfl] at hlevel
      rw [← hlevel]
      apply h.others
      intro k hk he
      exact hmem (lowStock_inj.mp he ▸ hk)
  others s hs := by
    rw [h.others s fun k hk => hs k (List.mem_cons_of_mem id hk), hstep s,
      if_neg (hs id List.mem_cons_self)]

/-- the products that a message names -/
def named (m : Created) : List Int := (m.items.getD []).map CreatedItem.productId

/-- the products of a message that are looked at: those before the first that cannot be told -/
def reached (d : Desk) (m : Created) : List Int := (named m).takeWhile (tells d)

theorem reached_of_beheld (hb : Beheld d d') (m : Created) : reached d' m = reached d m :=
  congrArg (List.takeWhile · (named m)) (funext (tells_of_beheld hb))

theorem each_shown (h : Watching d) (n orderId : Int) (items : List CreatedItem) :
    Shown n ((items.map CreatedItem.productId).takeWhile (tells d)) d
        (Action.each (fun (i : CreatedItem) => watchProduct n orderId i.productId) items d).2 ∧
      ((Action.each (fun (i : CreatedItem) => watchProduct n orderId i.productId) items d).1
        = .ok () ↔ ∀ i ∈ items, tells d i.productId = true) := by
  induction items generalizing d with
  | nil => exact ⟨.nil n d, fun _ _ hi => absurd hi List.not_mem_nil, fun _ => rfl⟩
  | cons i items ih =>
    rw [List.map_cons, Action.each]
    rcases watchProduct_cases h n orderId i.productId with
      ⟨htells, d₁, hrun, hb, hlevel⟩ | ⟨hquiet, hno, hsame⟩
    · obtain ⟨hshown, hok⟩ := ih (h.of_beheld hb)
      have hall : tells d₁ = tells d := funext (tells_of_beheld hb)
      rw [hall] at hshown hok
      rw [Action.bind_of_ok hrun, List.takeWhile_cons_of_pos htells, List.forall_mem_cons, hok]
      exact ⟨hshown.cons hb hlevel, fun hrest => ⟨htells, hrest⟩, And.right⟩
    · have hnot : ¬ tells d i.productId = true := by rw [hquiet]; exact Bool.false_ne_true
      rw [List.takeWhile_cons_of_neg hnot, List.forall_mem_cons]
      rcases Action.bind_ends (watchProduct n orderId i.productId)
        (fun _ => Action.each (fun (i : CreatedItem) => watchProduct n orderId i.productId) items) d
        with ⟨a, d₁, hrun, -⟩ | ⟨-, hends, hend⟩
      · exact absurd (congrArg Prod.fst hrun) hno
      · rw [hend, hsame]
        exact ⟨.nil n d, fun hok => absurd hok (hends ()), fun hall => absurd hall.1 hnot⟩

/-- **The products of a message**: those that are looked at are shown as their stock says, and the
message is done when all of them are. -/
theorem watchStock_shown (h : Watching d) (n : Int) (m : Created) :
    Shown n (reached d m) d (watchStock n m d).2 ∧
      ((watchStock n m d).1 = .ok () ↔ reached d m = named m) := by
  obtain ⟨hshown, hok⟩ := each_shown h n m.orderId (m.items.getD [])
  refine ⟨hshown, hok.trans ?_⟩
  rw [reached, List.takeWhile_eq_self_iff, named, List.forall_mem_map]

/-! ## message after message -/

/-- A new order and the desk at which its message is handled, whatever happened to the catalog
since the message before it; the gauge is what was left of it. -/
def watchAt (n : Int) (g : Meter) (x : Created × Desk) : Outcome Unit × Desk :=
  watchStock n x.1 { x.2 with meter := g }

/-- the gauge after some messages -/
def monitored (n : Int) (g : Meter) (xs : List (Created × Desk)) : Meter :=
  xs.foldl (fun g x => (watchAt n g x).2.meter) g

/-- What some messages leave of the series of a product: the last one that found the product set or
cleared it. -/
def remembered (n id : Int) (before : Option Int) : List (Created × Desk) → Option Int
  | [] => before
  | x :: xs =>
    remembered n id (if id ∈ reached x.2 x.1 then shown n (stock? id (tablesOf x.2.store)) before
      else before) xs

/-- how one message leaves the series of a product -/
theorem watchAt_level {x : Created × Desk} (h : Watching x.2) (n : Int) (g : Meter) (id : Int) :
    (watchAt n g x).2.meter.level (lowStock id) = if id ∈ reached x.2 x.1
      then shown n (stock? id (tablesOf x.2.store)) (g.level (lowStock id))
      else g.level (lowStock id) := by
  have hb : Beheld x.2 { x.2 with meter := g } := ⟨rfl, rfl⟩
  obtain ⟨hshown, -⟩ := watchStock_shown (h.of_beheld hb) n x.1
  rw [reached_of_beheld hb] at hshown
  by_cases hmem : id ∈ reached x.2 x.1
  · rw [if_pos hmem]
    exact hshown.named id hmem
  · rw [if_neg hmem]
    apply hshown.others
    intro j hj he
    exact hmem (lowStock_inj.mp he ▸ hj)

/-- **Message after message**, a series is what was found last. -/
theorem monitored_level (n id : Int) (g : Meter) {xs : List (Created × Desk)}
    (h : ∀ x ∈ xs, Watching x.2) :
    (monitored n g xs).level (lowStock id) = remembered n id (g.level (lowStock id)) xs := by
  induction xs generalizing g with
  | nil => rfl
  | cons x xs ih =>
    have hstep := watchAt_level (h x List.mem_cons_self) n g id
    rw [remembered, ← hstep]
    exact ih _ fun y hy => h y (List.mem_cons_of_mem x hy)

/-- The gauge is right for a product: it has a series exactly for a product that is there with a
stock at the threshold or below, and shows that stock, unless it is too great for a gauge. -/
structure Right (n : Int) (ts : Tables) (g : Meter) (id : Int) : Prop where
  series : (g.level (lowStock id)).isSome ↔ ∃ k, stock? id ts = some k ∧ k ≤ n
  value : ∀ k, stock? id ts = some k → k ≤ n → k.natAbs < 2 ^ 53 → g.level (lowStock id) = some k

/-- for a product that is there, it is right as soon as it is shown -/
theorem right_iff {ts : Tables} {g : Meter} {before : Option Int}
    (h : g.level (lowStock id) = shown n (stock? id ts) before) :
    Right n ts g id ↔ (stock? id ts = none → before = none) := by
  cases hstock : stock? id ts with
  | none =>
    rw [hstock] at h
    have hlevel : g.level (lowStock id) = before := h
    constructor
    · intro hright _
      have hno : ¬ (g.level (lowStock id)).isSome := fun hsome => by
        obtain ⟨k, hk, -⟩ := hright.series.mp hsome
        rw [hstock] at hk
        cases hk
      rw [← hlevel]
      exact Option.not_isSome_iff_eq_none.mp hno
    · intro hbefore
      have hnone : g.level (lowStock id) = none := hlevel.trans (hbefore rfl)
      constructor
      · rw [hnone, hstock]
        simp
      · intro k hk
        rw [hstock] at hk
        cases hk
  | some k =>
    rw [hstock] at h
    have hlevel : g.level (lowStock id) = if k ≤ n then some (Binary64.nearest k) else none := h
    refine iff_of_true ⟨?_, fun j hj hlow hsmall => ?_⟩ nofun
    · rw [hlevel, hstock]
      by_cases hk : k ≤ n <;> simp [hk]
    · obtain rfl : k = j := Option.some.inj (hstock.symm.trans hj)
      rw [hlevel, if_pos hlow, Binary64.nearest_of_lt hsmall]

/-- **When the gauge is right after a message.** Whatever the gauge showed at first, after any
messages, each at a catalog of its own, and one more that is done: series of products that are not
named stay, and for a named product the gauge is right, unless the product is gone and its series
was still there; then the series stays as it was found last. -/
theorem gauge_right_iff {n : Int} {xs : List (Created × Desk)} {x : Created × Desk} (g : Meter)
    (hxs : ∀ y ∈ xs ++ [x], Watching y.2) (hok : (watchAt n (monitored n g xs) x).1 = .ok ()) :
    (∀ s, (∀ id ∈ named x.1, s ≠ lowStock id) →
      (monitored n g (xs ++ [x])).level s = (monitored n g xs).level s) ∧
    ∀ id ∈ named x.1,
      (Right n (tablesOf x.2.store) (monitored n g (xs ++ [x])) id ↔
        (stock? id (tablesOf x.2.store) = none →
          remembered n id (g.level (lowStock id)) xs = none)) ∧
      (stock? id (tablesOf x.2.store) = none → (monitored n g (xs ++ [x])).level (lowStock id)
        = remembered n id (g.level (lowStock id)) xs) := by
  have hlast : Watching x.2 := hxs x List.mem_concat_self
  have hb : Beheld x.2 { x.2 with meter := monitored n g xs } := ⟨rfl, rfl⟩
  obtain ⟨hshown, hdone⟩ := watchStock_shown (hlast.of_beheld hb) n x.1
  rw [hdone.mp hok] at hshown
  have hrun : monitored n g (xs ++ [x]) = (watchAt n (monitored n g xs) x).2.meter :=
    List.foldl_concat _ _ _ _
  rw [hrun]
  refine ⟨hshown.others, fun id hid => ?_⟩
  have hlevel := hshown.named id hid
  have hbefore : ({ x.2 with meter := monitored n g xs } : Desk).meter.level (lowStock id)
      = remembered n id (g.level (lowStock id)) xs :=
    monitored_level n id g fun y hy => hxs y (List.mem_append_left [x] hy)
  rw [hbefore] at hlevel
  refine ⟨right_iff hlevel, fun hgone => ?_⟩
  exact hlevel.trans (by rw [hgone]; rfl)

end

/-! ## a shop that restocks or withdraws its product -/

/-- the small shop as some calls leave it -/
def shopOf (calls : List (Desk × Request)) : Desk :=
  { shopWith {} {} with store := after Store.fresh calls }

theorem watching_shopOf (calls : List (Desk × Request)) : Watching (shopOf calls) := by
  obtain ⟨db, hs, -⟩ := ready_after calls
  refine ⟨⟨db, hs⟩, fun f hf => ?_⟩
  have hnone : (shopOf calls).outages.lookup .getProduct = none := rfl
  rw [hnone] at hf
  cases hf

theorem watching_pair (m : Created) (calls calls' : List (Desk × Request)) :
    ∀ y ∈ [(m, shopOf calls), (m, shopOf calls')], Watching y.2 := by
  intro y hy
  rcases List.mem_pair.mp hy with rfl | rfl <;> exact watching_shopOf _

/-- an order of one unit -/
def oneUnit : Created := ⟨1, "N1", "2.00", some [⟨1, 1⟩]⟩

def restock : List (Desk × Request) :=
  putUp ++ [(shopWith {} {}, .change (.updateProduct scope 1 ⟨"A", .ofInt 2, 9⟩))]

def withdrawal : List (Desk × Request) :=
  putUp ++ [(shopWith {} {}, .change (.deleteProduct scope 1))]

/-- five units are low at a threshold of five, and nine are not any more -/
theorem restocked_is_right : Right 5 (tablesOf (shopOf restock).store)
      (monitored 5 {} [(oneUnit, shopOf putUp), (oneUnit, shopOf restock)]) 1 ∧
    (monitored 5 {} [(oneUnit, shopOf putUp)]).level (lowStock 1) = some 5 := by
  have hdone : (watchStock 5 oneUnit).value?
      { shopOf restock with meter := monitored 5 {} [(oneUnit, shopOf putUp)] } = some () := by
    decide +kernel
  have hstock : stock? 1 (tablesOf (shopOf restock).store) = some 9 := by decide +kernel
  have hrun : ∀ y ∈ [(oneUnit, shopOf putUp)] ++ [(oneUnit, shopOf restock)], Watching y.2 :=
    watching_pair oneUnit putUp restock
  obtain ⟨-, hnamed⟩ := gauge_right_iff {} hrun (congrArg Prod.fst (Action.ok_of_value? hdone))
  refine ⟨(hnamed 1 List.mem_cons_self).1.mpr fun hgone => ?_, by decide +kernel⟩
  have hthere : stock? 1 (tablesOf (shopOf restock).store) = none := hgone
  rw [hstock] at hthere
  cases hthere

/-- a product that was withdrawn is still flagged after the next message that names it -/
theorem withdrawn_stays_flagged :
    (∀ y ∈ [(oneUnit, shopOf putUp), (oneUnit, shopOf withdrawal)], Watching y.2) ∧
    (watchAt 5 (monitored 5 {} [(oneUnit, shopOf putUp)]) (oneUnit, shopOf withdrawal)).1 = .ok () ∧
    1 ∈ named oneUnit ∧ stock? 1 (tablesOf (shopOf withdrawal).store) = none ∧
    (monitored 5 {} [(oneUnit, shopOf putUp), (oneUnit, shopOf withdrawal)]).level (lowStock 1)
      = some 5 ∧
    ¬ Right 5 (tablesOf (shopOf withdrawal).store)
      (monitored 5 {} [(oneUnit, shopOf putUp), (oneUnit, shopOf withdrawal)]) 1 := by
  have hdone : (watchStock 5 oneUnit).value?
      { shopOf withdrawal with meter := monitored 5 {} [(oneUnit, shopOf putUp)] } = some () := by
    decide +kernel
  have hgone : stock? 1 (tablesOf (shopOf withdrawal).store) = none := by decide +kernel
  have hstays : (monitored 5 {} [(oneUnit, shopOf putUp), (oneUnit, shopOf withdrawal)]).level
      (lowStock 1) = some 5 := by decide +kernel
  refine ⟨watching_pair oneUnit putUp withdrawal, congrArg Prod.fst (Action.ok_of_value? hdone),
    List.mem_cons_self, hgone, hstays, fun hright => ?_⟩
  obtain ⟨k, hk, -⟩ := hright.series.mp (by rw [hstays]; rfl)
  rw [hgone] at hk
  cases hk

end OrderDesk.Desk
