import OrderDesk.Proofs.Desk.Steps
import Mathlib.Algebra.BigOperators.Group.List.Basic
import Mathlib.Algebra.Order.BigOperators.Group.List

/-!
# Reserving the stock of an order

The lines of a request are served one after another, each from the rows that the lines before it
left. After some of them the table of products is that before the call with the demand of those
lines taken out of each stock.

* `catalog`              the product of an id, as the table spells it;
* `demand`               how many units of a product some lines ask for;
* `Served`               the table after some lines were served, the invariant of the loop;
* `Priced`               the line of an order that a requested line leads to;
* `takeLines_ok`         what was served, and what was written into the order;
* `Available`            every stock covers the demand for it;
* `takeLines_ends`       every line is served, or the first that cannot be is refused.
-/

namespace OrderDesk.Desk

open Store (Backend Database Tables Table HasId ProductRow)

/-! ## demand -/

/-- the product of an id, as the table spells it -/
def catalog (t : Table ProductRow) (id : Int) : Option Product := (t.get? id).bind ProductRow.product?

/-- how many units of a product some lines ask for -/
def demand (id : Int) (items : List ItemRequest) : Int :=
  ((items.filter (·.productId == id)).map ItemRequest.quantity).sum

/-- Some line names a product. -/
def Named (id : Int) (items : List ItemRequest) : Prop := ∃ it ∈ items, it.productId = id

theorem catalog_eq_some_iff {t : Table ProductRow} {id : Int} {p : Product} :
    catalog t id = some p ↔ ∃ r, t.get? id = some r ∧ r.product? = some p := Option.bind_eq_some_iff

theorem demand_append (id : Int) (xs ys : List ItemRequest) :
    demand id (xs ++ ys) = demand id xs + demand id ys := by
  unfold demand
  rw [List.filter_append, List.map_append, List.sum_append]

theorem demand_singleton_self (it : ItemRequest) : demand it.productId [it] = it.quantity := by
  simp [demand]

theorem demand_singleton_ne {id : Int} {it : ItemRequest} (h : it.productId ≠ id) :
    demand id [it] = 0 := by
  simp [demand, h]

theorem demand_of_not_named {id : Int} {items : List ItemRequest} (h : ¬ Named id items) :
    demand id items = 0 := by
  have : items.filter (·.productId == id) = [] := by
    rw [List.filter_eq_nil_iff]
    intro it hit he
    exact h ⟨it, hit, by simpa using he⟩
  rw [demand, this]
  rfl

theorem demand_nonneg (id : Int) {items : List ItemRequest} (h : ∀ it ∈ items, 1 ≤ it.quantity) :
    0 ≤ demand id items := by
  apply List.sum_nonneg
  intro q hq
  obtain ⟨it, hit, rfl⟩ := List.mem_map.mp hq
  have := h it (List.mem_filter.mp hit).1
  omega

theorem named_append {id : Int} {xs ys : List ItemRequest} :
    Named id (xs ++ ys) ↔ Named id xs ∨ Named id ys := by
  unfold Named
  constructor
  · rintro ⟨it, hit, he⟩
    rcases List.mem_append.mp hit with hit | hit
    · exact .inl ⟨it, hit, he⟩
    · exact .inr ⟨it, hit, he⟩
  · rintro (⟨it, hit, he⟩ | ⟨it, hit, he⟩)
    · exact ⟨it, List.mem_append_left _ hit, he⟩
    · exact ⟨it, List.mem_append_right _ hit, he⟩

/-! ## the table while lines are served -/

/-- the row of a product after some of its stock was taken -/
def soldRow (now : Stamp) (p : Product) (left : Int) (r : ProductRow) : ProductRow :=
  { r with price := p.price.text, stock := .int left, updatedAt := .time now }

/-- The table after the lines `done` were served from `t₀`. -/
structure Served (now : Stamp) (t₀ : Table ProductRow) (done : List ItemRequest)
    (t : Table ProductRow) : Prop where
  ids : t.rows.map HasId.id = t₀.rows.map HasId.id
  lastId : t.lastId = t₀.lastId
  other : ∀ id, ¬ Named id done → t.get? id = t₀.get? id
  named : ∀ id, Named id done → ∃ r p, t₀.get? id = some r ∧ r.product? = some p ∧
    demand id done ≤ p.stock ∧ t.get? id = some (soldRow now p (p.stock - demand id done) r)

namespace Served

variable {now : Stamp} {t₀ t : Table ProductRow} {done : List ItemRequest}

theorem nil (now : Stamp) (t₀ : Table ProductRow) : Served now t₀ [] t₀ where
  ids := rfl
  lastId := rfl
  other _ _ := rfl
  named := by
    rintro id ⟨it, hit, -⟩
    cases hit

theorem get?_eq_none_iff (hv : Served now t₀ done t) {id : Int} :
    t.get? id = none ↔ t₀.get? id = none := by
  have hmem : ∀ t : Table ProductRow, t.get? id = none ↔ id ∉ t.rows.map HasId.id := by
    intro t
    rw [Table.get?_eq_none_iff, List.mem_map]
    constructor
    · rintro h ⟨r, hr, he⟩
      exact h r hr he
    · intro h r hr he
      exact h ⟨r, hr, he⟩
  rw [hmem, hmem, hv.ids]

/-- what a row of the table spells, compared with the row before the first line -/
theorem read (hv : Served now t₀ done t) {id : Int} {r : ProductRow} {p : Product}
    (hg : t.get? id = some r) (hp : r.product? = some p) :
    ∃ r₀ p₀, t₀.get? id = some r₀ ∧ r₀.product? = some p₀ ∧ p.id = id ∧ p.name = p₀.name ∧
      p.price.value = p₀.price.value ∧ p.createdAt = p₀.createdAt ∧
      p.stock = p₀.stock - demand id done ∧
      ∀ left, ProductRow.update { p with stock := left, updatedAt := now } r
        = soldRow now p₀ left r₀ := by
  obtain ⟨hid, hname, hprice, hstock, hcreated, -⟩ := ProductRow.product?_eq_some_iff.mp hp
  have hrid : r.id = id := (Table.get?_some hg).2
  by_cases hn : Named id done
  · obtain ⟨r₀, p₀, hg₀, hp₀, -, hrow⟩ := hv.named id hn
    obtain rfl : soldRow now p₀ (p₀.stock - demand id done) r₀ = r :=
      Option.some.inj (hrow.symm.trans hg)
    obtain ⟨-, hname₀, hprice₀, -, hcreated₀, -⟩ := ProductRow.product?_eq_some_iff.mp hp₀
    -- the price was written as a text and reads back as the same amount
    obtain ⟨b, hb, hval, -⟩ := Store.amount?_text (Store.exp_of_amount? hprice₀)
    obtain rfl : b = p.price := Option.some.inj (hb.symm.trans hprice)
    refine ⟨r₀, p₀, hg₀, hp₀, hid.trans hrid, ?_, hval, ?_, ?_, fun left => ?_⟩
    · rw [hname, hname₀]
      rfl
    · exact Option.some.inj (hcreated.symm.trans hcreated₀)
    · exact (Option.some.inj hstock).symm
    · simp only [ProductRow.update, soldRow, hname, Decimal.text_congr hval]
  · refine ⟨r, p, (hv.other id hn) ▸ hg, hp, hid.trans hrid, rfl, rfl, rfl, ?_, fun left => ?_⟩
    · rw [demand_of_not_named hn, Int.sub_zero]
    · simp only [ProductRow.update, soldRow, hname]

/-- a product that could be read before the first line can be read now -/
theorem readable (hv : Served now t₀ done t) (hnow : (Store.stored (.time now)).time? = some now)
    {id : Int} {p₀ : Product} (hp₀ : catalog t₀ id = some p₀) : ∃ p, catalog t id = some p := by
  obtain ⟨r₀, hg₀, hr₀⟩ := catalog_eq_some_iff.mp hp₀
  by_cases hn : Named id done
  · obtain ⟨r, p, hg, hp, -, hrow⟩ := hv.named id hn
    obtain ⟨-, -, hprice, -, hc, -⟩ := ProductRow.product?_eq_some_iff.mp hp
    obtain ⟨b, hb, -, -⟩ := Store.amount?_text (Store.exp_of_amount? hprice)
    refine ⟨⟨r.id, r.name, b, p.stock - demand id done, p.createdAt, now⟩,
      catalog_eq_some_iff.mpr ⟨_, hrow, ?_⟩⟩
    exact ProductRow.product?_eq_some_iff.mpr ⟨rfl, rfl, hb, rfl, hc, hnow⟩
  · exact ⟨p₀, catalog_eq_some_iff.mpr ⟨r₀, (hv.other id hn).trans hg₀, hr₀⟩⟩

/-- **One more line is served**: it takes its quantity out of what the lines before it left. -/
theorem step (hv : Served now t₀ done t) {it : ItemRequest} {r : ProductRow} {p : Product}
    (hg : t.get? it.productId = some r) (hp : r.product? = some p) (hq : it.quantity ≤ p.stock) :
    Served now t₀ (done ++ [it]) (t.update it.productId
      (ProductRow.update { p with stock := p.stock - it.quantity, updatedAt := now })) := by
  obtain ⟨r₀, p₀, hg₀, hp₀, -, -, -, -, hstock, hrow⟩ := hv.read hg hp
  have hkeep : ∀ r : ProductRow, HasId.id
      (ProductRow.update { p with stock := p.stock - it.quantity, updatedAt := now } r)
        = HasId.id r := fun _ => rfl
  have hget : ∀ j, (t.update it.productId (ProductRow.update
      { p with stock := p.stock - it.quantity, updatedAt := now })).get? j
        = if j = it.productId then (t.get? j).map (ProductRow.update
            { p with stock := p.stock - it.quantity, updatedAt := now }) else t.get? j :=
    fun _ => Table.get?_update hkeep
  refine ⟨(Table.ids_update hkeep).trans hv.ids, hv.lastId, fun id hn => ?_, fun id hn => ?_⟩
  · rw [named_append, not_or] at hn
    have hne : id ≠ it.productId := fun e => hn.2 ⟨it, by simp, e.symm⟩
    rw [hget, if_neg hne, hv.other id hn.1]
  · rw [demand_append, hget]
    by_cases he : id = it.productId
    · subst he
      refine ⟨r₀, p₀, hg₀, hp₀, by rw [demand_singleton_self]; omega, ?_⟩
      rw [if_pos rfl, hg, Option.map_some, hrow, demand_singleton_self]
      congr 2
      omega
    · have hn : Named id done := by
        rcases named_append.mp hn with hn | ⟨x, hx, hxe⟩
        · exact hn
        · rw [List.mem_singleton.mp hx] at hxe
          exact absurd hxe.symm he
      obtain ⟨r₁, p₁, hg₁, hp₁, hd₁, hrow₁⟩ := hv.named id hn
      rw [if_neg he, demand_singleton_ne (Ne.symm he), Int.add_zero]
      exact ⟨r₁, p₁, hg₁, hp₁, hd₁, hrow₁⟩

end Served

/-! ## one line -/

section
variable {now : Stamp} {o o' : Order} {it : ItemRequest} {d d' : Desk} {db : Database}

/-- the store with another table of products -/
def withProducts (db : Database) (t : Table ProductRow) : Database :=
  { db with tables := { db.tables with products := some t } }

theorem reserve_ok_iff {p p' : Product} {q : Int} : p.reserve q = .ok p' ↔
    1 ≤ q ∧ q ≤ p.stock ∧ p' = { p with stock := p.stock - q } := by
  unfold Product.reserve
  by_cases h₁ : q < 1
  · rw [if_pos h₁]
    constructor
    · intro h; cases h
    · omega
  by_cases h₂ : p.stock < q
  · rw [if_neg h₁, if_pos h₂]
    constructor
    · intro h; cases h
    · omega
  rw [if_neg h₁, if_neg h₂, Except.ok.injEq, eq_comm]
  constructor
  · intro h
    exact ⟨by omega, by omega, h⟩
  · exact fun h => h.2.2

/-- a line is served from a row that spells a product with enough stock -/
theorem takeLine_ok_iff (hs : d.store = .embedded db) (hid : 0 < it.productId) :
    takeLine now o it d = (.ok o', d') ↔
      d.outages.lookup .lockProduct = none ∧ d.outages.lookup .saveProduct = none ∧
      db.closed = false ∧ ∃ t r p, db.tables.products = some t ∧ t.get? it.productId = some r ∧
        r.product? = some p ∧ 1 ≤ it.quantity ∧ it.quantity ≤ p.stock ∧
        o' = o.addLine p it.quantity ∧ d' = { d with
          store := .embedded (withProducts db (t.update it.productId
            (ProductRow.update { p with stock := p.stock - it.quantity, updatedAt := now }))) } := by
  have hpid : ∀ {t : Table ProductRow} {r : ProductRow} {p : Product},
      t.get? it.productId = some r → r.product? = some p → p.id = it.productId := fun hg hp =>
    (ProductRow.product?_eq_some_iff.mp hp).1.trans (Table.get?_some hg).2
  -- a product with an id is updated, not inserted
  have hne : ∀ {t : Table ProductRow} {r : ProductRow} {p : Product},
      t.get? it.productId = some r → r.product? = some p →
      ({ p with stock := p.stock - it.quantity, updatedAt := now } : Product).id ≠ 0 := by
    intro t r p hg hp
    show p.id ≠ 0
    rw [hpid hg hp]
    omega
  unfold takeLine
  simp only [Action.bind_ok_iff, stored_ok_iff, Store.Products.lock, Action.ofExcept_ok_iff,
    reserve_ok_iff, Action.context_ok_iff, Action.pure_apply, Prod.mk.injEq, Outcome.ok.injEq]
  constructor
  · rintro ⟨p, _, ⟨hl, b, hread, rfl⟩, _, _, ⟨⟨h₁, h₂, rfl⟩, rfl⟩, _, _, ⟨hsv, b', hsave, rfl⟩,
      rfl, rfl⟩
    rw [hs] at hread
    obtain ⟨hc, rfl, t, r, ht, hg, hp⟩ := Store.Products.read_ok_iff.mp hread
    obtain ⟨-, -, rfl, t', ht', -, rfl⟩ := (Store.Products.update_ok_iff (hne hg hp)).mp hsave
    obtain rfl : t = t' := Option.some.inj (ht.symm.trans ht')
    refine ⟨hl, hsv, hc, t, r, p, ht, hg, hp, h₁, h₂, rfl, ?_⟩
    rw [hpid hg hp]
    rfl
  · rintro ⟨hl, hsv, hc, t, r, p, ht, hg, hp, h₁, h₂, rfl, rfl⟩
    refine ⟨p, d, ⟨hl, d.store, ?_, rfl⟩, _, _, ⟨⟨h₁, h₂, rfl⟩, rfl⟩,
      { p with stock := p.stock - it.quantity, updatedAt := now }, _, ⟨hsv, _, ?_, rfl⟩, rfl, rfl⟩
    · rw [hs]
      exact Store.Products.read_ok_iff.mpr ⟨hc, rfl, t, r, ht, hg, hp⟩
    · rw [hs]
      refine (Store.Products.update_ok_iff (hne hg hp)).mpr ⟨hc, ?_, rfl, t, ht, ?_, ?_⟩
      · show 0 ≤ p.stock - it.quantity
        omega
      · show (t.get? p.id).isSome
        rw [hpid hg hp]
        exact Option.isSome_of_eq_some hg
      · show _ = Backend.embedded { db with tables := { db.tables with
          products := some (t.update p.id _) } }
        rw [hpid hg hp]
        rfl

theorem takeLine_missing {t : Table ProductRow} (hs : d.store = .embedded db)
    (hl : d.outages.lookup .lockProduct = none) (hc : db.closed = false)
    (ht : db.tables.products = some t) (hg : t.get? it.productId = none) :
    takeLine now o it d = (.failed (.cause (.notFound "product" it.productId)), d) := by
  have hread : stored .lockProduct (Store.Products.lock it.productId) d
      = (.failed (.cause (.notFound "product" it.productId)), d) := by
    refine stored_failed_iff.mpr (.inr ⟨hl, d.store, ?_, rfl⟩)
    rw [hs]
    exact Store.Products.read_missing hc ht hg
  exact Action.bind_of_failed hread

theorem takeLine_short {t : Table ProductRow} {p : Product} (hs : d.store = .embedded db)
    (hl : d.outages.lookup .lockProduct = none) (hc : db.closed = false)
    (ht : db.tables.products = some t) (hp : catalog t it.productId = some p)
    (h₁ : 1 ≤ it.quantity) (h₂ : p.stock < it.quantity) : takeLine now o it d
      = (.failed (.cause (.insufficientStock it.productId p.name it.quantity p.stock)), d) := by
  obtain ⟨r, hg, hr⟩ := catalog_eq_some_iff.mp hp
  have hpid : p.id = it.productId :=
    (ProductRow.product?_eq_some_iff.mp hr).1.trans (Table.get?_some hg).2
  have hread : stored .lockProduct (Store.Products.lock it.productId) d = (.ok p, d) := by
    refine stored_ok_iff.mpr ⟨hl, d.store, ?_, rfl⟩
    rw [hs]
    exact Store.Products.read_ok_iff.mpr ⟨hc, rfl, t, r, ht, hg, hr⟩
  have hres : p.reserve it.quantity
      = .error (.cause (.insufficientStock it.productId p.name it.quantity p.stock)) := by
    rw [Product.reserve, if_neg (by omega), if_pos h₂, hpid]
  unfold takeLine
  rw [Action.bind_of_ok hread, hres]
  rfl

end

/-! ## all lines -/

/-- The line of an order that a requested line leads to: with the name and the price that the
product had in the table. -/
structure Priced (t : Table ProductRow) (it : ItemRequest) (l : Line) : Prop where
  productId : l.productId = it.productId
  quantity : l.quantity = it.quantity
  product : ∃ p, catalog t it.productId = some p ∧ l.productName = p.name ∧
    l.unitPrice.value = p.price.value

/-- An order after some lines were appended to it. -/
structure Extended (o : Order) (ls : List Line) (o' : Order) : Prop where
  items : o'.items = o.items ++ ls
  same : o' = { o with lines := o'.lines, total := o'.total }
  balanced : o.Balanced → o'.Balanced
  storable : o.Storable → o'.Storable

theorem Extended.nil (o : Order) : Extended o [] o :=
  ⟨(List.append_nil _).symm, rfl, id, id⟩

theorem Extended.addLine {o o' : Order} {ls : List Line} {p : Product} {q : Int}
    (hp : -2 ^ 31 ≤ p.price.exp) (h : Extended (o.addLine p q) ls o') :
    Extended o (Order.lineOf p q :: ls) o' where
  items := by rw [h.items, Order.items_addLine, List.append_assoc, List.singleton_append]
  same := h.same
  balanced hb := h.balanced (hb.addLine p q)
  storable hb := h.storable (hb.addLine hp q)

/-- **Every line was served**: the table has lost the demand of all of them, and the order has a
line for each, at the prices before the first. -/
theorem takeLines_ok {now : Stamp} {items : List ItemRequest} {o o' : Order} {d d' : Desk}
    {db : Database} {t₀ t : Table ProductRow} {done : List ItemRequest}
    (hpos : ∀ it ∈ items, 0 < it.productId) (hs : d.store = .embedded db)
    (ht : db.tables.products = some t) (hv : Served now t₀ done t)
    (h : takeLines now o items d = (.ok o', d')) :
    ∃ t' ls, Served now t₀ (done ++ items) t' ∧ List.Forall₂ (Priced t₀) items ls ∧
      Extended o ls o' ∧ d' = { d with store := .embedded (withProducts db t') } := by
  -- on the lines that are left; `Served` carries what those before them took
  induction items generalizing o d db t done with
  | nil =>
    obtain ⟨rfl, rfl⟩ : o = o' ∧ d = d' := by simpa [takeLines] using h
    refine ⟨t, [], by rwa [List.append_nil], .nil, .nil o, ?_⟩
    rw [withProducts, ← ht, ← hs]
  | cons it items ih =>
    rw [takeLines, Action.bind_ok_iff] at h
    obtain ⟨o₁, d₁, hline, hrest⟩ := h
    obtain ⟨-, -, hc, t₁, r, p, ht₁, hg, hp, -, hq, rfl, rfl⟩ :=
      (takeLine_ok_iff hs (hpos it List.mem_cons_self)).mp hline
    obtain rfl : t = t₁ := Option.some.inj (ht.symm.trans ht₁)
    obtain ⟨r₀, p₀, hg₀, hp₀, hpid, hname, hprice, -, -⟩ := hv.read hg hp
    obtain ⟨t', ls, hv', hls, hext, rfl⟩ :=
      ih (fun x hx => hpos x (List.mem_cons_of_mem _ hx)) rfl rfl (hv.step hg hp hq) hrest
    have hexp := Store.exp_of_amount? (ProductRow.product?_eq_some_iff.mp hp).2.2.1
    refine ⟨t', Order.lineOf p it.quantity :: ls, ?_, .cons ⟨hpid, rfl, p₀, ?_, hname, hprice⟩ hls,
      hext.addLine hexp, rfl⟩
    · rwa [List.append_assoc, List.singleton_append] at hv'
    · exact catalog_eq_some_iff.mpr ⟨r₀, hg₀, hp₀⟩

/-! ## when the stock suffices -/

/-- Every product that is asked for is there, and its stock covers the whole demand for it. -/
def Available (t : Table ProductRow) (items : List ItemRequest) : Prop :=
  ∀ it ∈ items, ∃ p, catalog t it.productId = some p ∧ demand it.productId items ≤ p.stock

/-- Why a line cannot be served after the lines `done`. -/
inductive Shortage (t : Table ProductRow) (done : List ItemRequest) (it : ItemRequest) :
    Cause → Prop where
  | missing : catalog t it.productId = none → Shortage t done it (.notFound "product" it.productId)
  | short (p : Product) : catalog t it.productId = some p →
      p.stock - demand it.productId done < it.quantity →
      Shortage t done it (.insufficientStock it.productId p.name it.quantity
        (p.stock - demand it.productId done))

theorem Served.available {now : Stamp} {t₀ t : Table ProductRow} {done : List ItemRequest}
    (hv : Served now t₀ done t) : Available t₀ done := by
  intro it hit
  obtain ⟨r, p, hg, hp, hd, -⟩ := hv.named it.productId ⟨it, hit, rfl⟩
  exact ⟨p, catalog_eq_some_iff.mpr ⟨r, hg, hp⟩, hd⟩

/-- **Where the stock covers the whole demand, no line meets a shortage**: what the lines before it
asked for and its own quantity are part of the demand. -/
theorem Available.no_shortage {t : Table ProductRow} {pre post : List ItemRequest}
    {it : ItemRequest} {c : Cause} (hq : ∀ x ∈ pre ++ it :: post, 1 ≤ x.quantity)
    (h : Available t (pre ++ it :: post)) : ¬ Shortage t pre it c := by
  obtain ⟨p, hp, hd⟩ := h it (by simp)
  have hpost : 0 ≤ demand it.productId post :=
    demand_nonneg _ fun x hx => hq x (by simp [hx])
  have hsum : demand it.productId (pre ++ it :: post)
      = demand it.productId pre + (it.quantity + demand it.productId post) := by
    rw [demand_append, ← List.singleton_append, demand_append, demand_singleton_self]
  rintro (hnone | ⟨p', hp', hshort⟩)
  · rw [hp] at hnone
    cases hnone
  · obtain rfl : p = p' := Option.some.inj (hp.symm.trans hp')
    omega

section
variable {now : Stamp} {o : Order} {d : Desk} {db : Database} {t₀ t : Table ProductRow}
  {done : List ItemRequest} (hnow : (Store.stored (.time now)).time? = some now)
  (hread : ∀ r ∈ t₀.rows, ∃ p, r.product? = some p)
include hnow hread

/-- a line is served from what the lines before it left, or it meets a shortage -/
theorem takeLine_ends {it : ItemRequest} (hid : 0 < it.productId) (hq : 1 ≤ it.quantity)
    (hout : d.outages = []) (hs : d.store = .embedded db) (hc : db.closed = false)
    (ht : db.tables.products = some t) (hv : Served now t₀ done t) :
    (∃ o' t', Served now t₀ (done ++ [it]) t' ∧ takeLine now o it d
        = (.ok o', { d with store := .embedded (withProducts db t') })) ∨
      ∃ c, Shortage t₀ done it c ∧ takeLine now o it d = (.failed (.cause c), d) := by
  have hno : ∀ call, d.outages.lookup call = none := fun call => by rw [hout]; rfl
  cases hg₀ : t₀.get? it.productId with
  | none =>
    refine .inr ⟨_, .missing ?_, takeLine_missing hs (hno _) hc ht (hv.get?_eq_none_iff.mpr hg₀)⟩
    rw [catalog, hg₀]
    rfl
  | some r₀ =>
    obtain ⟨p₀, hp₀⟩ := hread r₀ (Table.get?_some hg₀).1
    have hcat₀ := catalog_eq_some_iff.mpr ⟨r₀, hg₀, hp₀⟩
    obtain ⟨p, hcat⟩ := hv.readable hnow hcat₀
    obtain ⟨r, hg, hp⟩ := catalog_eq_some_iff.mp hcat
    obtain ⟨_, _, hg₁, hp₁, -, hname, -, -, hstock, -⟩ := hv.read hg hp
    obtain rfl := Option.some.inj (hg₀.symm.trans hg₁)
    obtain rfl := Option.some.inj (hp₀.symm.trans hp₁)
    by_cases hshort : p.stock < it.quantity
    · have hline : takeLine now o it d = _ := takeLine_short hs (hno _) hc ht hcat hq hshort
      rw [hname, hstock] at hline
      exact .inr ⟨_, .short p₀ hcat₀ (by omega), hline⟩
    · exact .inl ⟨_, _, hv.step hg hp (by omega), (takeLine_ok_iff hs hid).mpr
        ⟨hno _, hno _, hc, t, r, p, ht, hg, hp, hq, by omega, rfl, rfl⟩⟩

/-- **The lines are served up to the first that meets a shortage**, and that shortage is the
failure. -/
theorem takeLines_ends {items : List ItemRequest}
    (hform : ∀ it ∈ items, 0 < it.productId ∧ 1 ≤ it.quantity) (hout : d.outages = [])
    (hs : d.store = .embedded db) (hc : db.closed = false) (ht : db.tables.products = some t)
    (hv : Served now t₀ done t) :
    (∃ o' d', takeLines now o items d = (.ok o', d')) ∨
      ∃ pre it post c, items = pre ++ it :: post ∧ Available t₀ (done ++ pre) ∧
        Shortage t₀ (done ++ pre) it c ∧
        ∃ d' t', takeLines now o items d = (.failed (.cause c), d') ∧
          d'.store = .embedded (withProducts db t') := by
  -- a line that is served joins `done`, so a shortage is always judged against the first table
  induction items generalizing o d db t done with
  | nil => exact .inl ⟨o, d, rfl⟩
  | cons it items ih =>
    obtain ⟨hid, hq⟩ := hform it List.mem_cons_self
    rcases takeLine_ends (o := o) hnow hread hid hq hout hs hc ht hv with
      ⟨o', t', hv', hline⟩ | ⟨c, hshort, hline⟩
    · rw [takeLines, Action.bind_of_ok hline]
      have hout' : ({ d with store := .embedded (withProducts db t') } : Desk).outages = [] := hout
      rcases ih (o := o') (fun x hx => hform x (List.mem_cons_of_mem _ hx)) hout' rfl hc rfl hv'
        with hok | ⟨pre, x, post, c, rfl, ha, hshort, d', t'', hfail, hstore⟩
      · exact .inl hok
      · rw [List.append_assoc, List.singleton_append] at ha hshort
        exact .inr ⟨it :: pre, x, post, c, rfl, ha, hshort, d', t'', hfail, hstore⟩
    · rw [← List.append_nil done] at hshort
      refine .inr ⟨[], it, items, c, rfl, ?_, hshort, d, t, Action.bind_of_failed hline, ?_⟩
      · rw [List.append_nil]
        exact hv.available
      · rw [hs, withProducts, ← ht]

end

end OrderDesk.Desk
