import OrderDesk.Proofs.Decimal.Text
import OrderDesk.Proofs.Store.Engine

/-!
# Products in the tables

What the table of products holds after each call of the service, and when the call goes through.

* `ProductRow.product?`         the product that a row spells;
* `Products.read_ok_iff`        a product is read when its row is there and spells one;
* `Products.insert_ok_iff`, `Products.update_ok_iff`, `Products.delete_ok`    the changes.
-/

namespace OrderDesk.Store

/-! ## times -/

/-- a time in the calendar is read back as it was, if it was given in universal time -/
theorem time?_stored {t : Stamp} (h : t.utc.InCalendar) :
    (stored (.time t.utc)).time? = some t.utc := by
  have hr : readable t.utc = true := by
    rw [readable, Bool.and_eq_true]
    exact ⟨decide_eq_true h, rfl⟩
  show (if readable t.utc then Cell.time t.utc else .text t.utc.text).time? = _
  rw [if_pos hr]
  rfl

/-! ## rows -/

def ProductRow.product? (r : ProductRow) : Option Product := do
  some ⟨r.id, r.name, ← (Cell.text r.price).amount?, ← r.stock.int?, ← (stored r.createdAt).time?,
    ← (stored r.updatedAt).time?⟩

/-- a row with everything of a product but its id and its first day -/
def ProductRow.update (p : Product) (r : ProductRow) : ProductRow :=
  { r with
    name := p.name, price := p.price.text, stock := .int p.stock, updatedAt := .time p.updatedAt }

def ProductRow.ofNew (p : Product) (id : Int) : ProductRow :=
  ⟨id, p.name, p.price.text, .int p.stock, .time p.createdAt, .time p.updatedAt⟩

theorem ProductRow.product?_eq_some_iff {r : ProductRow} {p : Product} : r.product? = some p ↔
    p.id = r.id ∧ p.name = r.name ∧ (Cell.text r.price).amount? = some p.price ∧
      r.stock.int? = some p.stock ∧ (stored r.createdAt).time? = some p.createdAt ∧
      (stored r.updatedAt).time? = some p.updatedAt := by
  obtain ⟨id, name, price, stock, createdAt, updatedAt⟩ := p
  simp only [product?, bind, Option.bind_eq_some_iff, Option.some.injEq, Product.mk.injEq]
  constructor
  · rintro ⟨_, ha, _, hs, _, hc, _, hu, rfl, rfl, rfl, rfl, rfl, rfl⟩
    exact ⟨rfl, rfl, ha, hs, hc, hu⟩
  · rintro ⟨rfl, rfl, ha, hs, hc, hu⟩
    exact ⟨_, ha, _, hs, _, hc, _, hu, rfl, rfl, rfl, rfl, rfl, rfl⟩

theorem Products.scan_ok_iff {r : ProductRow} {p : Product} :
    Products.scan r.cells = .ok p ↔ r.product? = some p := by
  unfold Products.scan
  rw [scanRow_ok_iff, and_iff_right (show r.cells.length = 6 from rfl)]
  rfl

/-! ## reading -/

namespace Products

section
variable {db : Database} {b : Backend} {p p' : Product} {id : Int} {keep : Bool}

theorem read_ok_iff : read keep id (.embedded db) = (.ok p, b) ↔
    db.closed = false ∧ b = .embedded db ∧
      ∃ t r, db.tables.products = some t ∧ t.get? id = some r ∧ r.product? = some p := by
  unfold read
  rw [readRow_ok_iff (answer_products rfl) (fun _ => rfl) fun t ht => by rw [← ht]]
  simp only [scan_ok_iff]

theorem read_missing {t : Table ProductRow} (hc : db.closed = false)
    (ht : db.tables.products = some t) (hg : t.get? id = none) :
    read keep id (.embedded db) = (.failed (.cause (missing id)), .embedded db) :=
  readRow_missing (answer_products rfl) (fun _ => rfl) (fun t ht => by rw [← ht]) hc ht hg

/-! ## changes -/

theorem insert_ok_iff (h0 : p.id = 0) : save p (.embedded db) = (.ok p', b) ↔
    db.closed = false ∧ 0 ≤ p.stock ∧ ∃ t, db.tables.products = some t ∧ t.nextId < 2 ^ 63 ∧
      p' = { p with id := t.nextId } ∧ b = .embedded { db with
        tables := { db.tables with products := some (t.insert (ProductRow.ofNew p)) } } := by
  unfold save
  rw [if_pos h0]
  simp only [Action.bind_ok_iff, Action.context_ok_iff, Action.pure_apply, Prod.mk.injEq,
    Outcome.ok.injEq]
  constructor
  · rintro ⟨_, _, h, rfl, rfl⟩
    obtain ⟨r, hs, rfl⟩ := (insertNew_ok_iff rfl).mp h
    obtain ⟨hc, t, t', ht, hi, rfl⟩ := (send_through (answer_products rfl)).mp hs
    obtain ⟨hrule, hn, rfl, rfl⟩ := inserted_ok_iff.mp hi
    have hs : ¬ p.stock < 0 := by simpa using hrule
    exact ⟨hc, by omega, t, ht, hn, rfl, rfl⟩
  · rintro ⟨hc, hs, t, ht, hn, rfl, rfl⟩
    refine ⟨_, _, (insertNew_ok_iff rfl).mpr ⟨{ affected := .ok 1, id := t.nextId },
      (send_through (answer_products rfl)).mpr ⟨hc, t, _, ht, ?_, rfl⟩, rfl⟩, rfl, rfl⟩
    exact inserted_ok_iff.mpr ⟨if_neg (by omega), hn, rfl, rfl⟩

theorem update_ok_iff (h0 : p.id ≠ 0) : save p (.embedded db) = (.ok p', b) ↔
    db.closed = false ∧ 0 ≤ p.stock ∧ p' = p ∧
      ∃ t, db.tables.products = some t ∧ (t.get? p.id).isSome ∧ b = .embedded { db with
        tables := { db.tables with products := some (t.update p.id (ProductRow.update p)) } } := by
  unfold save
  rw [if_neg h0]
  simp only [Action.bind_ok_iff, Action.pure_apply, Prod.mk.injEq, Outcome.ok.injEq]
  constructor
  · rintro ⟨_, _, h, rfl, rfl⟩
    obtain ⟨r, n, hs, hn, hne⟩ := changeOne_ok_iff.mp h
    obtain ⟨hc, t, t', ht, hu, rfl⟩ := (send_through (answer_products rfl)).mp hs
    simp only [Tables.onProducts] at hu
    cases hg : t.get? p.id with
    | none =>
      rw [hg] at hu
      obtain ⟨rfl, rfl⟩ := Prod.mk.inj (Except.ok.inj hu)
      exact absurd (Except.ok.inj hn).symm hne
    | some row =>
      by_cases hs : p.stock < 0
      · simp [hg, hs] at hu
      simp only [hg, if_neg hs] at hu
      obtain ⟨rfl, rfl⟩ := Prod.mk.inj (Except.ok.inj hu)
      exact ⟨hc, by omega, rfl, t, ht, Option.isSome_of_eq_some hg, rfl⟩
  · rintro ⟨hc, hs, rfl, t, ht, hg, rfl⟩
    obtain ⟨row, hg⟩ := Option.isSome_iff_exists.mp hg
    refine ⟨(), _, changeOne_ok_iff.mpr ⟨.changed 1, 1, (send_through (answer_products rfl)).mpr
      ⟨hc, t, _, ht, ?_, rfl⟩, rfl, by decide⟩, rfl, rfl⟩
    simp only [Tables.onProducts, hg, if_neg (show ¬ p'.stock < 0 by omega)]
    rfl

theorem delete_ok (h : delete id (.embedded db) = (.ok (), b)) :
    ∃ t, db.tables.products = some t ∧ b = .embedded { db with
      tables := { db.tables with products := some (t.erase (·.id == id)) } } := by
  obtain ⟨r, n, hs, -, -⟩ := changeOne_ok_iff.mp h
  obtain ⟨-, t, t', ht, hd, rfl⟩ := (send_through (answer_products rfl)).mp hs
  simp only [Tables.onProducts, Except.ok.injEq, Prod.mk.injEq] at hd
  obtain ⟨-, rfl⟩ := hd
  exact ⟨t, ht, rfl⟩

end

end Products

end OrderDesk.Store
