import OrderDesk.Proofs.Store.Conversation
import OrderDesk.Proofs.Store.Script

/-!
# Transactions inside a transaction

A further transaction inside an open one is its body: it begins nothing, and however it ends, it
keeps and undoes nothing. What it wrote stands or falls with the outermost one, also when its
failure is swallowed.

The embedded engine makes one exception of its own. Once no id is left for a new row, it undoes the
open transaction on the spot, and nothing tells the body to stop: what is sent after that is written
for good, and the outermost call fails.

* `Backend.after`         the store after statements that were sent one after another;
* `Script.run_open`       inside a transaction a script is the statements that it sends;
* `Tables.after`, `Tables.Spares`      statements on tables alone, and ids for all of them;
* `Tables.Room`           ids for as many rows as there are statements;
* `Database.after_of_spares`, `Database.after_cut`      what statements leave of a transaction;
* `Settled`               how the outermost call ends, and what it leaves;
* `settles_with_outermost`    every body, on every store.
-/

namespace OrderDesk.Store

/-! ## statements one after another -/

/-- the store after statements that were sent one after another, whatever each was answered -/
def Backend.after (b : Backend) (qs : List Statement) : Backend :=
  qs.foldl (fun b q => (b.answer q).2) b

section
variable {α : Type} {qs : List Statement}

/-- no statement opens or ends a transaction -/
theorem isOpen_answer (q : Statement) (b : Backend) : (b.answer q).2.isOpen = b.isOpen := by
  cases b with
  | embedded db =>
    show ((db.answer q).2.saved).isSome = db.saved.isSome
    unfold Database.answer
    split
    · rfl
    split
    · rfl
    · next f _ =>
      rcases db.refuse_cases f with heq | ⟨-, ts, hs, heq⟩
      · rw [heq]
      · rw [heq, hs]
        rfl
  | remote e =>
    show (e.hear (.statement q)).busy = e.busy
    rw [Remote.hear_statement]

theorem isOpen_after (qs : List Statement) (b : Backend) : (b.after qs).isOpen = b.isOpen := by
  induction qs generalizing b with
  | nil => rfl
  | cons q qs ih => exact (ih (b.answer q).2).trans (isOpen_answer q b)

theorem Backend.after_append (b : Backend) (qs rs : List Statement) :
    b.after (qs ++ rs) = (b.after qs).after rs := List.foldl_append

/-- **Inside a transaction a script is the statements that it sends**, those of further transactions
among them. -/
theorem Script.run_open (c : Script α) {b : Backend} (h : b.isOpen = true) :
    (c.run b).2 = b.after (c.statements b) := by
  -- on the script; a further transaction goes on where its own statements left the store
  induction c generalizing b with
  | stop o => rfl
  | look k ih => exact ih b.dialect h
  | ask q k ih => exact ih (b.answer q).1 ((isOpen_answer q b).trans h)
  | nest body k ihbody ih =>
    have hbody : within body.run b = body.run b := within_of_isOpen h
    have hopen : (body.run b).2.isOpen = true := by
      rw [ihbody h, isOpen_after]
      exact h
    show ((k (within body.run b).1).run (within body.run b).2).2 = _
    rw [hbody, ih _ hopen, Script.statements, Backend.after_append, ← ihbody h]

theorem remote_after (e : Remote) (qs : List Statement) :
    (Backend.remote e).after qs = .remote (e.after (qs.map .statement)) := by
  induction qs generalizing e with
  | nil => rfl
  | cons q qs ih => exact ih (e.hear (.statement q))

end

/-! ## statements on an embedded engine -/

/-- the tables after a statement; one that fails changes nothing -/
def Tables.next (ts : Tables) (q : Statement) : Tables :=
  match ts.answer q with
  | .ok (_, ts') => ts'
  | .error _ => ts

/-- the tables after statements that were answered one after another -/
def Tables.after (ts : Tables) (qs : List Statement) : Tables := qs.foldl Tables.next ts

/-- There is an id for every row that the statements add. -/
def Tables.Spares : Tables → List Statement → Prop
  | _, [] => True
  | ts, q :: qs => ts.answer q ≠ .error idsExhausted ∧ (ts.next q).Spares qs

/-- the database after statements that were sent one after another -/
def Database.after (db : Database) (qs : List Statement) : Database :=
  qs.foldl (fun db q => (db.answer q).2) db

section
variable {db : Database} {q : Statement} {qs : List Statement} {ts : Tables}

theorem embedded_after (db : Database) (qs : List Statement) :
    (Backend.embedded db).after qs = .embedded (db.after qs) := by
  induction qs generalizing db with
  | nil => rfl
  | cons q qs ih => exact ih (db.answer q).2

/-- statements have ids for their rows, or one of them is the first without -/
theorem Tables.spares_or_cut (ts : Tables) (qs : List Statement) : ts.Spares qs ∨
    ∃ pre q post, qs = pre ++ q :: post ∧ ts.Spares pre ∧
      (ts.after pre).answer q = .error idsExhausted := by
  induction qs generalizing ts with
  | nil => exact .inl trivial
  | cons q qs ih =>
    by_cases hq : ts.answer q = .error idsExhausted
    · exact .inr ⟨[], q, qs, rfl, trivial, hq⟩
    · rcases ih (ts.next q) with h | ⟨pre, r, post, rfl, hpre, hr⟩
      · exact .inl ⟨hq, h⟩
      · exact .inr ⟨q :: pre, r, post, rfl, ⟨hq, hpre⟩, hr⟩

/-- a statement changes tables and nothing else, unless it makes the engine give up -/
theorem Database.answer_next (hc : db.closed = false)
    (h : db.tables.answer q ≠ .error idsExhausted ∨ ∀ ts, db.saved ≠ some (.start ts)) :
    (db.answer q).2 = { db with tables := db.tables.next q } := by
  unfold Database.answer Tables.next
  simp only [hc, Bool.false_eq_true, if_false]
  cases ha : db.tables.answer q with
  | ok r => rfl
  | error f =>
    have hsame : db.refuse f = db := by
      refine (db.refuse_cases f).resolve_right ?_
      rintro ⟨rfl, ts, hs, -⟩
      exact h.elim (fun h => h ha) fun h => h ts hs
    exact hsame.trans (by rw [← hc])

theorem Tables.Spares.of_append {ps : List Statement} (h : ts.Spares (ps ++ qs)) :
    ts.Spares ps ∧ (ts.after ps).Spares qs := by
  induction ps generalizing ts with
  | nil => exact ⟨trivial, h⟩
  | cons p ps ih =>
    obtain ⟨hps, hqs⟩ := ih h.2
    exact ⟨⟨h.1, hps⟩, hqs⟩

/-- **Statements with ids for their rows** change tables and nothing else. -/
theorem Database.after_of_spares (hc : db.closed = false) (h : db.tables.Spares qs) :
    db.after qs = { db with tables := db.tables.after qs } := by
  induction qs generalizing db with
  | nil => rfl
  | cons q qs ih =>
    have hstep := db.answer_next hc (.inl h.1)
    show (db.answer q).2.after qs = _
    rw [hstep]
    exact @ih { db with tables := db.tables.next q } hc h.2

/-- so do all statements once there is no transaction to give up -/
theorem Database.after_of_lost (hc : db.closed = false)
    (hl : ∀ ts, db.saved ≠ some (.start ts)) :
    db.after qs = { db with tables := db.tables.after qs } := by
  induction qs generalizing db with
  | nil => rfl
  | cons q qs ih =>
    have hstep := db.answer_next (q := q) hc (.inr hl)
    show (db.answer q).2.after qs = _
    rw [hstep]
    exact @ih { db with tables := db.tables.next q } hc hl

/-- **The first statement without an id** cuts a transaction in two: what came before it is undone,
what comes after it stays. -/
theorem Database.after_cut {pre post : List Statement} (hc : db.closed = false)
    (hs : db.saved = some (.start ts)) (hpre : db.tables.Spares pre)
    (hq : (db.tables.after pre).answer q = .error idsExhausted) :
    db.after (pre ++ q :: post) = { db with tables := ts.after post, saved := some .lost } := by
  have hbefore : db.after pre = { db with tables := db.tables.after pre } :=
    db.after_of_spares hc hpre
  have hcut : (Database.answer { db with tables := db.tables.after pre } q).2
      = { db with tables := ts, saved := some .lost } := by
    unfold Database.answer
    simp only [hc, hq, Bool.false_eq_true, if_false]
    unfold Database.refuse
    rw [hs]
    rfl
  have happend : db.after (pre ++ q :: post) = ((db.after pre).answer q).2.after post :=
    List.foldl_append
  rw [happend, hbefore, hcut]
  exact Database.after_of_lost hc fun _ => nofun

end

/-! ## ids left -/

theorem Table.Change.nextId_le {ρ : Type} [HasId ρ] {t t' : Table ρ} (h : t.Change t') :
    t'.nextId ≤ t.nextId + 1 := by
  cases h with
  | same => omega
  | insert hm => exact (Table.nextId_insert hm).le
  | update id hf =>
    refine Table.nextId_le_iff.mpr ⟨?_, fun r hr => ?_⟩
    · have hlast := t.lastId_lt_nextId
      show t.lastId < t.nextId + 1
      omega
    · obtain ⟨r₀, hr₀, hr⟩ := Table.mem_update hr
      have hid : HasId.id r = HasId.id r₀ := by
        rcases hr with ⟨-, rfl⟩ | ⟨-, rfl⟩
        · exact hf r₀
        · rfl
      have hlt := Table.id_lt_nextId hr₀
      omega
  | erase p => exact (Table.nextId_erase_le t p).trans (by omega)

/-- Every table has ids for `n` more rows. -/
structure Tables.Room (ts : Tables) (n : Nat) : Prop where
  products : (ts.products.getD {}).nextId + n ≤ 2 ^ 63
  orders : (ts.orders.getD {}).nextId + n ≤ 2 ^ 63
  items : (ts.items.getD {}).nextId + n ≤ 2 ^ 63
  categories : (ts.categories.getD {}).nextId + n ≤ 2 ^ 63

section
variable {ts : Tables} {q : Statement} {n : Nat}

theorem Tables.next_change (ts : Tables) (q : Statement) : ts.Change (ts.next q) := by
  unfold Tables.next
  cases ha : ts.answer q with
  | ok r => exact answer_change ha
  | error f => exact .same ts

theorem inserted_exhausted {ρ : Type} [HasId ρ] {t : Table ρ} {refusal : Option Failure}
    {make : Int → ρ} (hr : refusal ≠ some idsExhausted)
    (h : Tables.inserted t refusal make = .error idsExhausted) : 2 ^ 63 ≤ t.nextId := by
  by_contra hfull
  cases refusal with
  | none =>
    rw [inserted_none (Int.not_le.mp hfull)] at h
    cases h
  | some f =>
    rw [inserted_refused (Int.not_le.mp hfull)] at h
    exact hr (congrArg some (Except.error.inj h))

theorem through_exhausted {ρ : Type} [HasId ρ] {name : String} {slot : Option (Table ρ)}
    {put : Table ρ → Tables} {g : Table ρ → Except Failure (Reply × Table ρ)}
    (hg : ∀ t, g t = .error idsExhausted → 2 ^ 63 ≤ t.nextId)
    (h : through name slot put g = .error idsExhausted) : 2 ^ 63 ≤ (slot.getD {}).nextId := by
  rcases through_error_iff.mp h with ⟨-, hno⟩ | ⟨t, rfl, ht⟩
  · exact absurd hno.symm (noTable_ne_idsExhausted name)
  · exact hg t ht

namespace Tables.Room

theorem next (h : ts.Room (n + 1)) (q : Statement) : (ts.next q).Room n := by
  have hc := ts.next_change q
  obtain ⟨hproducts, horders, hitems, hcategories⟩ := h
  push_cast at hproducts horders hitems hcategories
  exact ⟨by linarith [hc.products.nextId_le], by linarith [hc.orders.nextId_le],
    by linarith [hc.items.nextId_le], by linarith [hc.categories.nextId_le]⟩

theorem answer_ne (h : ts.Room (n + 1)) (q : Statement) : ts.answer q ≠ .error idsExhausted := by
  intro ha
  have htakes : q.takesId = true := by
    by_contra hq
    exact answer_ne_idsExhausted (Bool.eq_false_of_not_eq_true hq) ha rfl
  obtain ⟨hproducts, horders, hitems, hcategories⟩ := h
  push_cast at hproducts horders hitems hcategories
  cases q with
  | insertProduct name price stock created updated =>
    have hfull := through_exhausted
      (fun t => inserted_exhausted (by split <;> decide)) ((answer_products rfl).symm.trans ha)
    linarith
  | insertOrder number status total created updated =>
    have hfull := through_exhausted
      (fun t => inserted_exhausted (by split <;> decide)) ((answer_orders rfl).symm.trans ha)
    linarith
  | insertItem id i l =>
    have hfull := through_exhausted
      (fun t => inserted_exhausted (Option.some_ne_none _).symm) ((answer_items rfl).symm.trans ha)
    linarith
  | insertCategory name created updated =>
    have hfull := through_exhausted
      (fun t => inserted_exhausted (by split <;> decide)) ((answer_categories rfl).symm.trans ha)
    linarith
  | _ => cases htakes

/-- **Ids for as many rows as there are statements** are ids for all of them. -/
theorem spares {qs : List Statement} (h : ts.Room qs.length) : ts.Spares qs := by
  induction qs generalizing ts with
  | nil => trivial
  | cons q qs ih => exact ⟨h.answer_ne q, ih (h.next q)⟩

end Tables.Room

end

/-! ## the outermost transaction -/

/-- how the outermost call ends when there is no transaction left to keep or to undo -/
def cutOff {α : Type} : Outcome α → Outcome α
  | .ok _ => .failed (.within "commit tx" (Database.notActive "commit"))
  | .failed f => .failed (unended f)
  | .panicked t => .panicked t

/-- all that was sent if the body ended in a value, else nothing of it -/
def Database.leaves {α : Type} (db : Database) (qs : List Statement) : Outcome α → Database
  | .ok _ => { db with tables := db.tables.after qs }
  | _ => db

/-- How an outermost transaction of an embedded engine at rest ends, and the store after it, when
its body sends `qs` and ends in `o`: what was sent stays or is undone as a whole; unless a statement
finds no id, for then all that comes after it stays. -/
inductive Settled {α : Type} (db : Database) (qs : List Statement) (o : Outcome α) :
    Outcome α × Backend → Prop
  | whole (h : db.tables.Spares qs) : Settled db qs o (o, .embedded (db.leaves qs o))
  | cut (pre : List Statement) (q : Statement) (post : List Statement)
      (hqs : qs = pre ++ q :: post) (hpre : db.tables.Spares pre)
      (hq : (db.tables.after pre).answer q = .error idsExhausted) :
    Settled db qs o (cutOff o, .embedded { db with tables := db.tables.after post })

/-- With ids for as many rows as there are statements, it is never cut. -/
theorem Settled.of_room {α : Type} {db : Database} {qs : List Statement} {o : Outcome α}
    {r : Outcome α × Backend} (h : Settled db qs o r) (hroom : db.tables.Room qs.length) :
    r = (o, .embedded (db.leaves qs o)) := by
  cases h with
  | whole => rfl
  | cut pre q post hqs hpre hq =>
    have hspares : db.tables.Spares (pre ++ q :: post) := hqs ▸ hroom.spares
    exact absurd hq hspares.of_append.2.1

section
variable {α : Type} (c : Script α)

theorem within_settled {db : Database} (hr : db.saved = none) (hc : db.closed = false) :
    Settled db (c.statements (.embedded (inside db db.tables)))
      (c.run (.embedded (inside db db.tables))).1 (within c.run (.embedded db)) := by
  have hend : within c.run (.embedded db) = conclude (c.run (.embedded (inside db db.tables))).1
      (c.run (.embedded (inside db db.tables))).2 := within_at_rest rfl hr hc
  rw [hend, c.run_open rfl, embedded_after]
  generalize c.statements (.embedded (inside db db.tables)) = qs
  generalize (c.run (.embedded (inside db db.tables))).1 = o
  rcases db.tables.spares_or_cut qs with h | ⟨pre, q, post, rfl, hpre, hq⟩
  · have hafter : storeOf (Backend.embedded ((inside db db.tables).after qs))
        = .embedded (inside db (db.tables.after qs)) :=
      congrArg Backend.embedded (Database.after_of_spares hc h)
    refine Eq.subst (motive := Settled db qs o) ?_ (.whole h)
    cases o with
    | ok a => rw [conclude_ok hafter (by simp [inside]), Database.leaves, inside, ← hr]; rfl
    | failed f => rw [conclude_failed hafter rfl, inside, ← hr]; rfl
    | panicked t => rw [conclude_panicked hafter rfl, inside, ← hr]; rfl
  · have hafter : storeOf (Backend.embedded ((inside db db.tables).after (pre ++ q :: post)))
        = .embedded ⟨db.tables.after post, some .lost, db.closed⟩ :=
      congrArg Backend.embedded (Database.after_cut hc rfl hpre hq)
    refine Eq.subst (motive := Settled db _ o) ?_ (.cut pre q post rfl hpre hq)
    cases o with
    | ok a => rw [conclude_lost_ok hafter rfl, hr]; rfl
    | failed f => rw [conclude_lost_failed hafter rfl, hr]; rfl
    | panicked t => rw [conclude_lost_panicked hafter rfl, hr]; rfl

theorem isOpen_begun {e : Remote} (h : e.refusals.lookup .begin = none) :
    (Backend.remote (e.after [.signal .begin])).isOpen = true := by
  show (e.hear (.signal .begin)).busy = true
  simp [Remote.hear, Signal.leaves, h]

/-- an engine at the far end is told one begin, the statements, and one commit or rollback -/
theorem within_told {e : Remote} (hb : e.busy = false) (h : e.refusals.lookup .begin = none) :
    ∃ (o : Outcome α) (qs : List Statement), c.run (.remote (e.after [.signal .begin]))
        = (o, .remote (e.after (.signal .begin :: qs.map .statement))) ∧
      (within c.run (.remote e)).2 = .remote
        (e.after (.signal .begin :: qs.map .statement ++ [.signal (closing o)])) ∧
      ∀ a, (within c.run (.remote e)).1 = .ok a → o = .ok a := by
  rcases hrun : c.run (.remote (e.after [.signal .begin])) with ⟨o, b⟩
  have hsent : b = .remote (e.after
      (.signal .begin :: (c.statements (.remote (e.after [.signal .begin]))).map .statement)) := by
    rw [← List.singleton_append, Remote.after_append, ← remote_after,
      ← c.run_open (isOpen_begun h), hrun]
  generalize c.statements (.remote (e.after [.signal .begin])) = qs at hsent
  have hend : within c.run (.remote e) = conclude o b :=
    (within_begun rfl hb h).trans (congrArg (fun r => conclude r.1 r.2) hrun)
  obtain ⟨hclosed, hok⟩ := conclude_closes (s := b) o hsent
  refine ⟨o, qs, by rw [hsent], ?_, fun a ha => hok a (hend ▸ ha)⟩
  rw [hend, Remote.after_append]
  exact hclosed

/-- **A further transaction takes effect with the outermost one.** Whatever a body sends, with
transactions inside transactions and failures and panics that it swallows or not:

* in an open transaction a further one is its body, and that is the statements that were sent: it
  begins, keeps and undoes nothing;
* on an embedded engine the outermost one ends as its body did, and leaves all that was sent if that
  was a value, and else the store it began with; unless a statement found no id, for then it ends in
  no value and leaves what was sent after that statement. With ids for as many rows as there are
  statements this does not happen;
* a database that was closed is left alone;
* an engine at the far end is told one begin, the statements, and then one commit if the body ended
  in a value, or one rollback; or the begin is refused, and nothing else is sent. -/
theorem settles_with_outermost :
    (∀ b : Backend, b.isOpen = true →
      within c.run b = c.run b ∧ (c.run b).2 = b.after (c.statements b)) ∧
    (∀ db : Database, db.saved = none → db.closed = false →
      Settled db (c.statements (.embedded (inside db db.tables)))
          (c.run (.embedded (inside db db.tables))).1 (within c.run (.embedded db)) ∧
        (db.tables.Room (c.statements (.embedded (inside db db.tables))).length →
          within c.run (.embedded db) = ((c.run (.embedded (inside db db.tables))).1,
            .embedded (db.leaves (c.statements (.embedded (inside db db.tables)))
              (c.run (.embedded (inside db db.tables))).1)))) ∧
    (∀ db : Database, db.saved = none → db.closed = true → within c.run (.embedded db)
      = (.failed (.within "begin tx" Database.isClosed), .embedded db)) ∧
    ∀ e : Remote, e.busy = false →
      (e.refusals.lookup .begin).isSome ∧ (∃ f, within c.run (.remote e)
          = (.failed f, .remote (e.after [.signal .begin]))) ∨
        ∃ (o : Outcome α) (qs : List Statement), c.run (.remote (e.after [.signal .begin]))
            = (o, .remote (e.after (.signal .begin :: qs.map .statement))) ∧
          (within c.run (.remote e)).2 = .remote
            (e.after (.signal .begin :: qs.map .statement ++ [.signal (closing o)])) ∧
          ∀ a, (within c.run (.remote e)).1 = .ok a → o = .ok a := by
  refine ⟨fun b h => ⟨within_of_isOpen h, c.run_open h⟩,
    fun db hr hc => ⟨within_settled c hr hc, (within_settled c hr hc).of_room⟩,
    fun db hr hc => within_closed rfl hr hc, fun e hb => ?_⟩
  cases h : e.refusals.lookup .begin with
  | some text => exact .inl ⟨rfl, within_refused rfl hb h⟩
  | none => exact .inr (within_told c hb h)

end

/-- a product of which there are ten -/
def tenLeft : Product := ⟨1, "A", ⟨1, 0⟩, 10, .zero, .zero⟩

def tenLeftRow : ProductRow := ⟨1, "A", "1", .int 10, .time .zero, .time .zero⟩

/-- A body that sells three, begins a transaction in which it sells the rest and fails, and goes on
as if nothing had happened. -/
def swallows : Script Unit :=
  .ask (.updateProduct 1 "A" ⟨1, 0⟩ 7 .zero) fun _ =>
    .nest (.ask (.updateProduct 1 "A" ⟨1, 0⟩ 0 .zero) fun _ => .stop (.failed (.plain "none left")))
      fun (_ : Outcome Unit) => .stop (.ok ())

theorem swallowed_failure_stays :
    within swallows.run (.embedded { tables := { products := some { rows := [tenLeftRow] } } })
      = (.ok (), .embedded { tables := { products := some { rows :=
          [{ tenLeftRow with stock := .int 0 }] } } }) := by
  obtain ⟨-, hsettles, -, -⟩ := settles_with_outermost swallows
  have hroom : Tables.Room { products := some { rows := [tenLeftRow] } } 2 :=
    ⟨by decide, by decide, by decide, by decide⟩
  exact (hsettles { tables := { products := some { rows := [tenLeftRow] } } } rfl rfl).2 hroom

/-- a shop with that product, and no id left for an order -/
def fullBook : Database where
  tables := {
    products := some { rows := [tenLeftRow] }
    orders := some { lastId := 2 ^ 63 - 1 }
    items := some {} }

/-- A body that sells three, fails to save an order, sells another three, and fails. -/
def sellsOn : Action Backend Unit := do
  let _ ← Products.save { tenLeft with stock := 7 }
  let _ ← (Orders.save (Order.start "n" .zero)).attempt
  let _ ← Products.save { tenLeft with stock := 4 }
  Action.raise (.plain "boom")

theorem sellsOn_scripted : Scripted sellsOn :=
  (Products.save_scripted _).bind fun _ => (Orders.save_scripted _).attempt.bind fun _ =>
    (Products.save_scripted _).bind fun _ => .raise _

/-- how a transaction failed, and the stock of the product after it -/
def failureAndStock : Outcome Unit × Backend → Option (Failure × Option Cell)
  | (.failed f, .embedded db) =>
    some (f, (db.tables.products.bind (·.get? 1)).map ProductRow.stock)
  | _ => none

/-- **Without an id left, a failed transaction may leave something behind.** -/
theorem failure_leaves_sale : ¬ ∀ body : Action Backend Unit, Scripted body → ∀ db : Database,
    db.saved = none → ∀ f, (within body (.embedded db)).1 = .failed f →
      (within body (.embedded db)).2 = .embedded db := by
  intro h
  have hspill : failureAndStock (within sellsOn (.embedded fullBook))
      = some (unended (.plain "boom"), some (.int 4)) := by decide +kernel
  have hkept := h sellsOn sellsOn_scripted fullBook rfl
  rcases hend : within sellsOn (.embedded fullBook) with ⟨_ | f | _, b⟩
  · rw [hend] at hspill
    cases hspill
  · rw [hend] at hkept hspill
    rw [show b = .embedded fullBook from hkept f rfl] at hspill
    have hten : some (Cell.int 10) = some (.int 4) := (Prod.mk.inj (Option.some.inj hspill)).2
    cases hten
  · rw [hend] at hspill
    cases hspill

end OrderDesk.Store
