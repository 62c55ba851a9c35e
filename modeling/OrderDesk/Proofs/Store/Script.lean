import OrderDesk.Proofs.Store.Calls
import OrderDesk.Proofs.Store.Saving

/-!
# What runs inside a transaction, as data

What a body does with the store is a tree: it asks one statement after another and opens further
transactions, and how it goes on depends on every answer so far. A failure or a panic of a further
transaction is an answer like any other: the body may swallow it, or end with it.

* `Script`              such a tree;
* `Script.run`          the action that it stands for;
* `Script.statements`   what it sends to a store in which a transaction is open;
* `Script.andThen`      one script, and another one that goes on from whatever the first ended in;
* `Scripted x`          the action is the run of a script;
* `Scripted.bind`, `Scripted.within`, ...      actions built from such actions;
* `Products.save_scripted`, `Orders.save_scripted`, ...      the calls on the store.
-/

namespace OrderDesk

/-- the action that only ends -/
def Action.ends {σ α : Type} (o : Outcome α) : Action σ α := fun s => (o, s)

namespace Store

/-- What a body does with the store, in answer to what it was told. -/
inductive Script : Type → Type 1 where
  /-- it ends -/
  | stop {α : Type} (o : Outcome α) : Script α
  /-- it looks which dialect the store speaks -/
  | look {α : Type} (k : Dialect → Script α) : Script α
  /-- it sends a statement -/
  | ask {α : Type} (q : Statement) (k : Except Failure Reply → Script α) : Script α
  /-- it runs another body as a transaction -/
  | nest {α β : Type} (body : Script β) (k : Outcome β → Script α) : Script α

/-- the answer to a statement, with the store after it -/
def Backend.answer (q : Statement) : Backend → Except Failure Reply × Backend
  | .embedded db => ((db.answer q).1, .embedded (db.answer q).2)
  | .remote e => ((e.answer q).1, .remote (e.answer q).2)

theorem send_eq (q : Statement) (b : Backend) :
    send q b = Action.ofExcept (b.answer q).1 (b.answer q).2 := by
  cases b with
  | embedded db =>
    simp only [send, Backend.answer]
    rcases db.answer q with ⟨_ | _, db'⟩ <;> rfl
  | remote e =>
    simp only [send, Backend.answer]
    rcases e.answer q with ⟨_ | _, e'⟩ <;> rfl

namespace Script

variable {α β : Type}

def run : {α : Type} → Script α → Action Backend α
  | _, stop o => Action.ends o
  | _, look k => fun b => (k b.dialect).run b
  | _, ask q k => fun b => (k (b.answer q).1).run (b.answer q).2
  | _, nest body k => ending (within body.run) >>= fun o => (k o).run

/-- What is sent to a store in which a transaction is open. -/
def statements : {α : Type} → Script α → Backend → List Statement
  | _, stop _, _ => []
  | _, look k, b => (k b.dialect).statements b
  | _, ask q k, b => q :: (k (b.answer q).1).statements (b.answer q).2
  | _, nest body k, b => body.statements b ++ (k (body.run b).1).statements (body.run b).2

/-- a script, and another one that goes on from whatever the first ended in -/
def andThen : {β : Type} → Script β → (Outcome β → Script α) → Script α
  | _, stop o, f => f o
  | _, look k, f => look fun d => (k d).andThen f
  | _, ask q k, f => ask q fun r => (k r).andThen f
  | _, nest body k, f => nest body fun o => (k o).andThen f

theorem run_andThen (c : Script β) (f : Outcome β → Script α) :
    (c.andThen f).run = ending c.run >>= fun o => (f o).run := by
  -- on the first script; the second one is run where it ends
  induction c with
  | stop o => rfl
  | look k ih =>
    funext b
    exact congrFun (ih b.dialect f) b
  | ask q k ih =>
    funext b
    exact congrFun (ih (b.answer q).1 f) (b.answer q).2
  | nest body k _ ih =>
    funext b
    exact congrFun (ih _ f) _

end Script

/-! ## actions that are scripts -/

/-- The action is the run of a script. -/
def Scripted {α : Type} (x : Action Backend α) : Prop := ∃ c : Script α, c.run = x

namespace Scripted

variable {α β : Type} {x : Action Backend α}

theorem ends (o : Outcome α) : Scripted (Action.ends o : Action Backend α) := ⟨.stop o, rfl⟩

protected theorem pure (a : α) : Scripted (pure a : Action Backend α) := ends (.ok a)

theorem fail (f : Failure) : Scripted (Action.fail f : Action Backend α) := ends (.failed f)

theorem raise (c : Cause) : Scripted (Action.raise c : Action Backend α) := fail (.cause c)

theorem panicWith (t : String) : Scripted (Action.panicWith t : Action Backend α) :=
  ends (.panicked t)

theorem ofExcept (r : Except Failure α) : Scripted (Action.ofExcept r : Action Backend α) := by
  cases r with
  | ok a => exact .pure a
  | error f => exact .fail f

/-- whatever an action ends in, another one may go on from there -/
theorem goesOn {y : Action Backend β} (hx : Scripted x)
    (hy : ∀ o, ∃ z, Scripted z ∧ ∀ b b', x b = (o, b') → y b = z b') : Scripted y := by
  obtain ⟨c, rfl⟩ := hx
  choose z hz hy using hy
  choose k hk using hz
  refine ⟨c.andThen k, ?_⟩
  rw [Script.run_andThen]
  funext b
  show (k (c.run b).1).run (c.run b).2 = y b
  rw [hk, hy (c.run b).1 b (c.run b).2 rfl]

protected theorem bind {f : α → Action Backend β} (hx : Scripted x) (hf : ∀ a, Scripted (f a)) :
    Scripted (x >>= f) := by
  refine hx.goesOn fun o => ?_
  cases o with
  | ok a => exact ⟨f a, hf a, fun b b' h => Action.bind_of_ok h⟩
  | failed g => exact ⟨Action.fail g, .fail g, fun b b' h => Action.bind_of_failed h⟩
  | panicked t => exact ⟨Action.panicWith t, .panicWith t, fun b b' h => Action.bind_of_panicked h⟩

theorem orElse {h : Failure → Action Backend α} (hx : Scripted x) (hh : ∀ f, Scripted (h f)) :
    Scripted (x.orElse h) := by
  refine hx.goesOn fun o => ?_
  cases o with
  | failed g => exact ⟨h g, hh g, fun b b' hfail => Action.orElse_of_failed hfail⟩
  | ok a => exact ⟨_, .ends (.ok a), fun b b' hok => by rw [Action.orElse, hok]; rfl⟩
  | panicked t =>
    exact ⟨_, .ends (.panicked t), fun b b' hpanic => by rw [Action.orElse, hpanic]; rfl⟩

theorem context {c : String} (hx : Scripted x) : Scripted (x.context c) := by
  refine hx.goesOn fun o => ?_
  cases o with
  | ok a => exact ⟨_, .ends (.ok a), fun b b' hok => by rw [Action.context, hok]; rfl⟩
  | failed g =>
    exact ⟨_, .ends (.failed (.within c g)), fun b b' hfail => by rw [Action.context, hfail]; rfl⟩
  | panicked t =>
    exact ⟨_, .ends (.panicked t), fun b b' hpanic => by rw [Action.context, hpanic]; rfl⟩

/-- a body may swallow what an action failed for -/
theorem attempt (hx : Scripted x) : Scripted x.attempt := by
  refine hx.goesOn fun o => ?_
  cases o with
  | ok a => exact ⟨_, .ends (.ok (.ok a)), fun b b' hok => by rw [Action.attempt, hok]; rfl⟩
  | failed g =>
    exact ⟨_, .ends (.ok (.error g)), fun b b' hfail => by rw [Action.attempt, hfail]; rfl⟩
  | panicked t =>
    exact ⟨_, .ends (.panicked t), fun b b' hpanic => by rw [Action.attempt, hpanic]; rfl⟩

/-- a body may recover from a panic -/
theorem ending (hx : Scripted x) : Scripted (ending x) :=
  hx.goesOn fun o => ⟨_, .ends (.ok o), fun b b' h => by rw [OrderDesk.Store.ending, h]; rfl⟩

theorem within (hx : Scripted x) : Scripted (within x) := by
  obtain ⟨c, rfl⟩ := hx
  exact ⟨.nest c .stop, rfl⟩

end Scripted

section
variable {α : Type} {c : String} {cause : Cause} {scan : Row → Except Failure α} {q : Statement}

theorem send_scripted (q : Statement) : Scripted (send q) := by
  refine ⟨.ask q fun r => .stop (match r with
    | .ok a => .ok a
    | .error f => .failed f), ?_⟩
  funext b
  rw [send_eq]
  simp only [Script.run]
  cases (b.answer q).1 <;> rfl

theorem firstRow_scripted : Scripted (firstRow scan q) := by
  refine (send_scripted q).bind fun r => ?_
  split
  · exact .ofExcept _
  · exact .fail _
  · exact .raise _

theorem readOne_scripted : Scripted (readOne c cause scan q) := by
  refine firstRow_scripted.orElse fun f => ?_
  split
  · exact .raise _
  · exact .fail _

theorem allRows_scripted : Scripted (allRows c scan q) :=
  (send_scripted q).context.bind fun _ => .ofExcept _

theorem changeOne_scripted : Scripted (changeOne c cause q) := by
  refine (send_scripted q).context.bind fun r => (Scripted.ofExcept _).bind fun n => ?_
  split
  · exact .raise _
  · exact .pure _

/-- how a new id is told depends on the dialect -/
theorem insertNew_scripted : Scripted (insertNew q) := by
  have hd : ∀ d : Dialect, Scripted (if q.isQuery d then firstRow scanInt q
      else send q >>= fun r => pure r.id) := fun d => by
    split
    · exact firstRow_scripted
    · exact (send_scripted q).bind fun _ => .pure _
  choose k hk using hd
  refine ⟨.look k, ?_⟩
  funext b
  exact congrFun (hk b.dialect) b

end

/-! ## the calls on the store -/

theorem Products.save_scripted (p : Product) : Scripted (Products.save p) := by
  unfold Products.save
  split
  · exact insertNew_scripted.context.bind fun _ => .pure _
  · exact changeOne_scripted.bind fun _ => .pure _

theorem Products.read_scripted (keep : Bool) (id : Int) : Scripted (Products.read keep id) :=
  readOne_scripted

theorem Products.delete_scripted (id : Int) : Scripted (Products.delete id) := changeOne_scripted

theorem Products.list_scripted (fragment : String) (page : PageRequest) :
    Scripted (Products.list fragment page) :=
  firstRow_scripted.context.bind fun _ => allRows_scripted.bind fun _ => .pure _

theorem Categories.save_scripted (c : Category) : Scripted (Categories.save c) := by
  unfold Categories.save
  split
  · exact insertNew_scripted.context.bind fun _ => .pure _
  · exact changeOne_scripted.bind fun _ => .pure _

theorem Categories.get_scripted (id : Int) : Scripted (Categories.get id) := readOne_scripted

theorem Categories.nameTaken_scripted (name : String) (besides : Int) :
    Scripted (Categories.nameTaken name besides) := firstRow_scripted.context.bind fun _ => .pure _

theorem Categories.delete_scripted (id : Int) : Scripted (Categories.delete id) :=
  changeOne_scripted

theorem Categories.list_scripted : Scripted Categories.list := allRows_scripted

namespace Orders

theorem loadLines_scripted (os : List Order) : Scripted (loadLines os) := by
  unfold loadLines
  split
  · exact .pure _
  · exact allRows_scripted.bind fun _ => .pure _

theorem read_scripted (keep : Bool) (id : Int) : Scripted (read keep id) := by
  refine readOne_scripted.bind fun o => (loadLines_scripted [o]).bind fun os => ?_
  split
  · exact .pure _
  · exact .pure _

theorem find_scripted (status : Option Status) (page : PageRequest) :
    Scripted (find status page) := by
  refine firstRow_scripted.context.bind fun total => ?_
  split
  · exact .pure _
  · exact allRows_scripted.bind fun os => (loadLines_scripted os).bind fun _ => .pure _

theorem exists?_scripted (id : Int) : Scripted (exists? id) :=
  firstRow_scripted.context.bind fun _ => .pure _

theorem delete_scripted (id : Int) : Scripted (delete id) :=
  ((send_scripted _).context.bind fun _ => changeOne_scripted).within

theorem insertLines_scripted (id : Int) (i : Nat) (ls : List Line) :
    Scripted (insertLines id i ls) := by
  induction ls generalizing i with
  | nil => exact .pure _
  | cons l ls ih => exact (send_scripted _).context.bind fun _ => ih (i + 1)

theorem storeRow_scripted (o : Order) : Scripted (storeRow o) := by
  unfold storeRow
  split
  · exact insertNew_scripted.context
  · exact (changeOne_scripted.bind fun _ => (send_scripted _).context.bind fun _ => .pure _).bind
      fun _ => .pure _

/-- what is written for an order, with the id that its row was given -/
def numbered (o : Order) : Action Backend Int := do
  let id ← storeRow o
  insertLines id 0 o.items
  return id

theorem numbered_scripted (o : Order) : Scripted (numbered o) :=
  (storeRow_scripted o).bind fun id => (insertLines_scripted id 0 o.items).bind fun _ => .pure _

/-- A draft ends as the store does, and its id is what the store ends in. -/
inductive Notes : Outcome Unit × Draft → Outcome Int × Backend → Prop
  | ok (id : Int) (b : Backend) : Notes (.ok (), ⟨b, id⟩) (.ok id, b)
  | failed (f : Failure) (b : Backend) (j : Int) : Notes (.failed f, ⟨b, j⟩) (.failed f, b)
  | panicked (t : String) (b : Backend) (j : Int) : Notes (.panicked t, ⟨b, j⟩) (.panicked t, b)

section
variable {x : Action Draft Unit} {y : Action Backend Int}

theorem onStore_draft {α : Type} {x : Action Backend α} {b b' : Backend} {o : Outcome α} (j : Int)
    (h : x b = (o, b')) : (onStore x : Action Draft α) ⟨b, j⟩ = (o, ⟨b', j⟩) := Action.on_of_eq h

theorem writing_notes (o : Order) (b : Backend) (j : Int) :
    Notes (writing o ⟨b, j⟩) (numbered o b) := by
  unfold writing numbered
  rcases hrow : storeRow o b with ⟨id | f | t, b₁⟩
  · rcases hlines : insertLines id 0 o.items b₁ with ⟨out, b₂⟩
    have hdraft : ((Action.change fun d : Draft => { d with id }) >>= fun _ =>
        onStore (insertLines id 0 o.items)) ⟨b₁, j⟩ = (out, ⟨b₂, id⟩) := onStore_draft id hlines
    rw [Action.bind_of_ok (onStore_draft j hrow), hdraft, Action.bind_of_ok hrow]
    cases out with
    | ok u => rw [Action.bind_of_ok hlines]; exact .ok id b₂
    | failed f => rw [Action.bind_of_failed hlines]; exact .failed f b₂ id
    | panicked t => rw [Action.bind_of_panicked hlines]; exact .panicked t b₂ id
  · rw [Action.bind_of_failed (onStore_draft j hrow), Action.bind_of_failed hrow]
    exact .failed f b₁ j
  · rw [Action.bind_of_panicked (onStore_draft j hrow), Action.bind_of_panicked hrow]
    exact .panicked t b₁ j

theorem conclude_notes {r : Outcome Unit × Draft} {r' : Outcome Int × Backend} (h : Notes r r') :
    Notes (conclude r.1 r.2) (conclude r'.1 r'.2) := by
  cases h with
  | ok id b =>
    rcases hend : commit b with ⟨out, b'⟩
    have hdraft := onStore_draft id hend
    have hstore : (onStore commit : Action Backend Unit) b = (out, b') := hend
    simp only [conclude, bind, Action.andThen, Action.context, hdraft, hstore]
    cases out with
    | ok u => exact .ok id b'
    | failed f => exact .failed _ b' id
    | panicked t => exact .panicked t b' id
  | failed f b j =>
    rcases hend : rollback b with ⟨out, b'⟩
    have hdraft := onStore_draft j hend
    have hstore : (onStore rollback : Action Backend Unit) b = (out, b') := hend
    simp only [conclude, bind, Action.andThen, Action.attempt, hdraft, hstore]
    cases out with
    | ok u => exact .failed f b' j
    | failed g => exact .failed _ b' j
    | panicked t => exact .panicked t b' j
  | panicked t b j =>
    rcases hend : rollback b with ⟨out, b'⟩
    have hdraft := onStore_draft j hend
    have hstore : (onStore rollback : Action Backend Unit) b = (out, b') := hend
    simp only [conclude, bind, Action.andThen, Action.attempt, hdraft, hstore]
    cases out with
    | ok u => exact .panicked t b' j
    | failed g => exact .panicked t b' j
    | panicked u => exact .panicked u b' j

theorem within_notes (h : ∀ b j, Notes (x ⟨b, j⟩) (y b)) (b : Backend) (j : Int) :
    Notes (within x ⟨b, j⟩) (within y b) := by
  have hopen : inTransaction (⟨b, j⟩ : Draft) = inTransaction b := rfl
  unfold within
  rw [hopen]
  split
  · exact h b j
  · unfold Action.context
    rcases hbegin : begin b with ⟨o, b₁⟩
    rw [onStore_draft j hbegin, show (onStore begin : Action Backend Unit) b = _ from hbegin]
    cases o with
    | ok u => exact conclude_notes (h b₁ j)
    | failed f => exact .failed _ b₁ j
    | panicked t => exact .panicked _ b₁ j

end

/-- **A save is one transaction**, which ends in the id. -/
theorem save_eq {o : Order} (hb : o.Balanced) :
    save o = within (numbered o) >>= fun id => pure { o with id } := by
  funext b
  have hnotes := within_notes (writing_notes o) b o.id
  unfold save
  rw [write_eq hb]
  generalize within (writing o) ⟨b, o.id⟩ = r at hnotes
  rcases hn : within (numbered o) b with ⟨out, b'⟩
  rw [hn] at hnotes
  cases hnotes with
  | ok => rw [Action.bind_of_ok hn]; rfl
  | failed => rw [Action.bind_of_failed hn]
  | panicked => rw [Action.bind_of_panicked hn]

theorem save_scripted (o : Order) : Scripted (save o) := by
  by_cases hb : o.Balanced
  · rw [save_eq hb]
    exact (numbered_scripted o).within.bind fun _ => .pure _
  · rw [show save o = Action.raise (.mismatch o.id o.total o.itemTotal) from
      funext fun _ => save_mismatch hb]
    exact .raise _

end Orders

end Store

end OrderDesk
