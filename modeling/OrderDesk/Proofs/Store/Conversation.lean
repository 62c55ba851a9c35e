import OrderDesk.Proofs.Store.Transaction

/-!
# What an engine at the far end is told and what it answers

An engine at the far end is known by its answers only, so a run against it is a conversation: what
was sent, and to each statement its answer. The answers are used up in order, whatever they say, so
the conversation of a run is the conversations of its parts put together.

* `Remote.after`        the engine once a number of things were sent to it;
* `Remote.exchanges`    the statements among them, each with its answer;
* `firstOf`, `newId`, ...     what an answer tells to whoever asked;
* `Hears q read x`      the action sends `q` and ends in what `read` makes of the answer;
* `Hears.readOne`, ...  the ways to read a reply are such actions;
* `conclude_closes`     a transaction is closed once, and how;
* `Talk`                statements with their answers;
* `Speaks x s e talk out`     run from `s` against `e`, the action has this talk and ends in `out`.
-/

set_option linter.unusedSectionVars false

namespace OrderDesk.Store

/-! ## the engine after some of the conversation -/

/-- is a transaction open after a signal, which may have been refused -/
def Signal.leaves (busy refused : Bool) : Signal → Bool
  | .begin => busy || !refused
  | .commit | .rollback => false
  | .ping => busy

namespace Remote

variable {e e₁ e₂ : Remote} {q : Statement} {xs ys : List Sent}

/-- the engine after one more thing was sent to it -/
def hear (e : Remote) : Sent → Remote
  | .statement q => (e.answer q).2
  | .signal x => { (e.signal x).2 with busy := x.leaves e.busy (e.refusals.lookup x).isSome }

def after (e : Remote) (xs : List Sent) : Remote := xs.foldl hear e

/-- the statements that are sent, each with its answer -/
def exchanges : Remote → List Sent → List (Statement × Except Failure Reply)
  | _, [] => []
  | e, .statement q :: xs => (q, (e.answer q).1) :: (e.hear (.statement q)).exchanges xs
  | e, .signal x :: xs => (e.hear (.signal x)).exchanges xs

theorem after_append (e : Remote) (xs ys : List Sent) :
    e.after (xs ++ ys) = (e.after xs).after ys := List.foldl_append

theorem exchanges_append (e : Remote) (xs ys : List Sent) :
    e.exchanges (xs ++ ys) = e.exchanges xs ++ (e.after xs).exchanges ys := by
  induction xs generalizing e with
  | nil => rfl
  | cons x xs ih =>
    cases x with
    | statement q =>
      show (q, _) :: (e.hear (.statement q)).exchanges (xs ++ ys) = _
      rw [ih]
      rfl
    | signal x =>
      show (e.hear (.signal x)).exchanges (xs ++ ys) = _
      rw [ih]
      rfl

theorem answer_eq (e : Remote) (q : Statement) : e.answer q =
    (match e.answers.head? with
      | none => .ok (usual e.dialect q)
      | some a => a.mapError .plain,
     { e with answers := e.answers.tail, sent := e.sent ++ [.statement q] }) := by
  obtain ⟨dialect, answers, sent, refusals, busy⟩ := e
  rcases answers with _ | ⟨text | reply, rest⟩ <;> rfl

theorem hear_statement (e : Remote) (q : Statement) : e.hear (.statement q) =
    { e with answers := e.answers.tail, sent := e.sent ++ [.statement q] } := by
  rw [hear, answer_eq]

@[simp]
theorem dialect_hear (e : Remote) (x : Sent) : (e.hear x).dialect = e.dialect := by
  cases x with
  | statement q => rw [hear_statement]
  | signal x => rfl

@[simp]
theorem refusals_hear (e : Remote) (x : Sent) : (e.hear x).refusals = e.refusals := by
  cases x with
  | statement q => rw [hear_statement]
  | signal x => rfl

theorem sent_hear (e : Remote) (x : Sent) : (e.hear x).sent = e.sent ++ [x] := by
  cases x with
  | statement q => rw [hear_statement]
  | signal x => rfl

@[simp]
theorem dialect_after (e : Remote) (xs : List Sent) : (e.after xs).dialect = e.dialect := by
  induction xs generalizing e with
  | nil => rfl
  | cons x xs ih => exact (ih (e.hear x)).trans (dialect_hear e x)

@[simp]
theorem refusals_after (e : Remote) (xs : List Sent) : (e.after xs).refusals = e.refusals := by
  induction xs generalizing e with
  | nil => rfl
  | cons x xs ih => exact (ih (e.hear x)).trans (refusals_hear e x)

@[simp]
theorem sent_after (e : Remote) (xs : List Sent) : (e.after xs).sent = e.sent ++ xs := by
  induction xs generalizing e with
  | nil => exact (List.append_nil _).symm
  | cons x xs ih =>
    show ((e.hear x).after xs).sent = _
    rw [ih, sent_hear, List.append_assoc]
    rfl

/-- whether a transaction is open depends on the signals alone -/
theorem busy_after (hr : e₁.refusals = e₂.refusals) (hb : e₁.busy = e₂.busy) (xs : List Sent) :
    (e₁.after xs).busy = (e₂.after xs).busy := by
  induction xs generalizing e₁ e₂ with
  | nil => exact hb
  | cons x xs ih =>
    refine ih (by rw [refusals_hear, refusals_hear, hr]) ?_
    cases x with
    | statement q => rw [hear_statement, hear_statement]; exact hb
    | signal x => simp only [hear, hr, hb]

end Remote

/-! ## what an answer tells -/

variable {α : Type}

def firstOf (scan : Row → Except Failure α) (r : Reply) : Except Failure α :=
  match r.rows, r.rowsError with
  | row :: _, _ => scan row
  | [], some text => .error (.plain text)
  | [], none => .error (.cause .noRows)

def oneOf (c : String) (missing : Cause) (scan : Row → Except Failure α)
    (a : Except Failure Reply) : Except Failure α :=
  match a.bind (firstOf scan) with
  | .ok x => .ok x
  | .error f => .error (if f.has (· == .noRows) then .cause missing else .within c f)

def allOf (c : String) (scan : Row → Except Failure α) (a : Except Failure Reply) :
    Except Failure (List α) := (a.mapError (.within c)).bind (scanAll scan)

/-- is the row there that was to be changed -/
def changeOf (c : String) (missing : Cause) (a : Except Failure Reply) : Except Failure Unit :=
  (a.mapError (.within c)).bind fun r =>
    (touched r).bind fun n => if n = 0 then .error (.cause missing) else .ok ()

/-- the id of a new row, as the answer to its insert tells it -/
def newId (d : Dialect) (a : Except Failure Reply) : Except Failure Int :=
  a.bind fun r => if d.returning then firstOf scanInt r else .ok r.id

/-! ## what reaches an engine at the far end -/

/-- To an engine at the far end the action sends `q`, and it ends in what `read` makes of the
answer. -/
def Hears (q : Statement) (read : Dialect → Except Failure Reply → Except Failure α)
    (x : Action Backend α) : Prop :=
  ∀ e : Remote, x (.remote e)
    = Action.ofExcept (read e.dialect (e.answer q).1) (.remote (e.hear (.statement q)))

namespace Hears

variable {q : Statement}

theorem send (q : Statement) : Hears q (fun _ a => a) (send q) := by
  intro e
  simp only [Store.send, Remote.hear]
  rcases e.answer q with ⟨_ | _, e'⟩ <;> rfl

theorem context {read : Dialect → Except Failure Reply → Except Failure α} {x : Action Backend α}
    (h : Hears q read x) (c : String) :
    Hears q (fun d a => (read d a).mapError (.within c)) (x.context c) := by
  intro e
  show _ = Action.ofExcept ((read e.dialect (e.answer q).1).mapError (.within c)) _
  rw [Action.context, h e]
  cases read e.dialect (e.answer q).1 <;> rfl

theorem bind {β : Type} {read : Dialect → Except Failure Reply → Except Failure α}
    {x : Action Backend α} {k : α → Action Backend β} {g : α → Except Failure β}
    (h : Hears q read x) (hk : ∀ a, k a = Action.ofExcept (g a)) :
    Hears q (fun d a => (read d a).bind g) (x >>= k) := by
  intro e
  show Action.andThen x k _ = Action.ofExcept ((read e.dialect (e.answer q).1).bind g) _
  rw [Action.andThen, h e]
  cases read e.dialect (e.answer q).1 with
  | error f => rfl
  | ok a => exact congrFun (hk a) _

theorem firstRow (scan : Row → Except Failure α) (q : Statement) :
    Hears q (fun _ a => a.bind (firstOf scan)) (firstRow scan q) := by
  refine (send q).bind fun r => ?_
  rw [firstOf]
  rcases r.rows with _ | ⟨row, rows⟩
  · cases r.rowsError <;> rfl
  · rfl

theorem readOne (c : String) (missing : Cause) (scan : Row → Except Failure α) (q : Statement) :
    Hears q (fun _ => oneOf c missing scan) (readOne c missing scan q) := by
  intro e
  have hfirst : Store.firstRow scan q (.remote e) = Action.ofExcept
      ((e.answer q).1.bind (firstOf scan)) (.remote (e.hear (.statement q))) := firstRow scan q e
  show _ = Action.ofExcept (oneOf c missing scan (e.answer q).1) _
  rw [Store.readOne, Action.orElse, hfirst]
  unfold oneOf
  cases (e.answer q).1.bind (firstOf scan) with
  | ok x => rfl
  | error f =>
    simp only [Action.ofExcept_error]
    split <;> rfl

theorem allRows (c : String) (scan : Row → Except Failure α) (q : Statement) :
    Hears q (fun _ => allOf c scan) (allRows c scan q) :=
  ((send q).context c).bind fun _ => rfl

theorem changeOne (c : String) (missing : Cause) (q : Statement) :
    Hears q (fun _ => changeOf c missing) (changeOne c missing q) := by
  refine ((send q).context c).bind fun r => ?_
  cases h : touched r with
  | error f => rfl
  | ok n =>
    show (if n = 0 then Action.raise missing else pure ())
      = Action.ofExcept (if n = 0 then .error (.cause missing) else .ok ())
    split <;> rfl

theorem insertNew (hq : ∀ d : Dialect, q.isQuery d = d.returning) :
    Hears q newId (insertNew q) := by
  intro e
  show (if q.isQuery e.dialect then Store.firstRow scanInt q
    else Store.send q >>= fun r => pure r.id) (.remote e) = _
  rw [hq]
  by_cases h : e.dialect.returning
  · rw [if_pos h, firstRow scanInt q e]
    simp only [newId, h, if_true]
  · rw [if_neg h]
    simp only [newId, h]
    exact (send q).bind (g := fun r => .ok r.id) (fun _ => rfl) e

end Hears

/-! ## signals -/

theorem begin_heard (e : Remote) : begin (.remote e)
    = Action.ofExcept (e.signal .begin).1 (.remote (e.hear (.signal .begin))) := by
  obtain ⟨dialect, answers, sent, refusals, busy⟩ := e
  simp only [begin, Remote.hear, Remote.signal, Signal.leaves]
  generalize List.lookup Signal.begin refusals = refusal
  cases refusal <;> simp

theorem commit_heard (e : Remote) : commit (.remote e)
    = Action.ofExcept (e.signal .commit).1 (.remote (e.hear (.signal .commit))) := rfl

theorem rollback_heard (e : Remote) : rollback (.remote e)
    = Action.ofExcept (e.signal .rollback).1 (.remote (e.hear (.signal .rollback))) := rfl

/-! ## a transaction -/

section
variable {σ α : Type} [Part σ Backend] [LawfulPart σ Backend] {s : σ} {e : Remote}

/-- how a transaction is closed after its body -/
def closing : Outcome α → Signal
  | .ok _ => .commit
  | _ => .rollback

omit [LawfulPart σ Backend] in
theorem onStore_signal {y : Action Backend Unit} {r : Except Failure Unit} {e' : Remote}
    (hs : storeOf s = .remote e) (hy : y (.remote e) = Action.ofExcept r (.remote e')) :
    (onStore y : Action σ Unit) s
      = Action.ofExcept r (Part.set (Backend.remote e') s) := by
  have hrun : y (Part.get s) = ((Action.ofExcept r (Backend.remote e')).1, .remote e') := by
    show y (storeOf s) = _
    rw [hs, hy]
    cases r <;> rfl
  refine (Action.on_of_eq hrun).trans ?_
  cases r <;> rfl

/-- **A transaction is closed once**, and it ends in a value only after its body did. -/
theorem conclude_closes (r : Outcome α) (hs : storeOf s = .remote e) :
    storeOf (conclude r s).2 = .remote (e.hear (.signal (closing r))) ∧
      ∀ a, (conclude r s).1 = .ok a → r = .ok a := by
  have hcommit := onStore_signal hs (commit_heard e)
  have hrollback := onStore_signal hs (rollback_heard e)
  have hattempt : ∃ u, (onStore rollback : Action σ Unit).attempt s
      = (.ok u, Part.set (Backend.remote (e.hear (.signal .rollback))) s) := by
    unfold Action.attempt
    rw [hrollback]
    cases (e.signal .rollback).1 with
    | ok u => exact ⟨_, rfl⟩
    | error f => exact ⟨_, rfl⟩
  cases r with
  | ok a =>
    cases hr : (e.signal .commit).1 with
    | ok u =>
      rw [hr] at hcommit
      have hend : (conclude (.ok a) : Action σ α) s = _ := Action.context_bind_of_ok hcommit
      rw [hend]
      exact ⟨storeOf_set _ _, fun _ h => h⟩
    | error f =>
      rw [hr] at hcommit
      have hend : (conclude (.ok a) : Action σ α) s = _ := Action.context_bind_of_failed hcommit
      rw [hend]
      exact ⟨storeOf_set _ _, fun _ => nofun⟩
  | failed f =>
    obtain ⟨u, hu⟩ := hattempt
    have hend : (conclude (.failed f) : Action σ α) s = _ := Action.bind_of_ok hu
    rw [hend]
    cases u <;> exact ⟨storeOf_set _ _, fun _ => nofun⟩
  | panicked t =>
    obtain ⟨u, hu⟩ := hattempt
    have hend : (conclude (.panicked t) : Action σ α) s = _ := Action.bind_of_ok hu
    rw [hend]
    exact ⟨storeOf_set _ _, fun _ => nofun⟩

theorem inTransaction_idle (hs : storeOf s = .remote e) (hb : e.busy = false) :
    inTransaction s = false := by
  show (storeOf s).isOpen = false
  rw [hs]
  exact hb

theorem within_refused {body : Action σ α} {text : String} (hs : storeOf s = .remote e)
    (hb : e.busy = false) (h : e.refusals.lookup .begin = some text) :
    ∃ f, within body s
      = (.failed f, Part.set (Backend.remote (e.hear (.signal .begin))) s) := by
  have hbegin := onStore_signal hs (begin_heard e)
  have herror : (e.signal .begin).1 = .error (.plain text) := by
    simp only [Remote.signal, h]
  rw [herror] at hbegin
  rw [within_eq (inTransaction_idle hs hb), Action.context_bind_of_failed hbegin]
  exact ⟨_, rfl⟩

theorem within_begun {body : Action σ α} (hs : storeOf s = .remote e)
    (hb : e.busy = false) (h : e.refusals.lookup .begin = none) :
    within body s
      = conclude (body (Part.set (Backend.remote (e.hear (.signal .begin))) s)).1
          (body (Part.set (Backend.remote (e.hear (.signal .begin))) s)).2 := by
  have hbegin := onStore_signal hs (begin_heard e)
  have hok : (e.signal .begin).1 = .ok () := by
    simp only [Remote.signal, h]
  rw [hok] at hbegin
  rw [within_eq (inTransaction_idle hs hb), Action.context_bind_of_ok hbegin]
  rfl

end

/-! ## runs -/

/-- Statements, each with the answer to it. -/
abbrev Talk : Type := List (Statement × Except Failure Reply)

def Talk.sent (talk : Talk) : List Sent := talk.map fun x => .statement x.1

theorem Talk.sent_append (t₁ t₂ : Talk) : Talk.sent (t₁ ++ t₂) = t₁.sent ++ t₂.sent :=
  List.map_append

theorem Talk.busy_after (e : Remote) (talk : Talk) : (e.after talk.sent).busy = e.busy := by
  induction talk generalizing e with
  | nil => rfl
  | cons x talk ih =>
    refine (ih (e.hear (.statement x.1))).trans ?_
    rw [Remote.hear_statement]

/-- An action ends in this value, or fails when there is none. -/
def Ends : Option α → Outcome α → Prop
  | some a, r => r = .ok a
  | none, r => ∃ f, r = .failed f

theorem ends_ofExcept (r : Except Failure α) {τ : Type} (t : τ) :
    Ends r.toOption (Action.ofExcept r t).1 := by
  cases r with
  | ok a => rfl
  | error f => exact ⟨f, rfl⟩

variable {σ β : Type} [Part σ Backend]

/-- Run from `s` against the engine `e`, the action sends the statements of `talk`, the engine gives
the answers of `talk`, and the action ends in `out`. Nothing else changes. -/
structure Speaks (x : Action σ α) (s : σ) (e : Remote) (talk : Talk) (out : Option α) : Prop where
  answered : e.exchanges talk.sent = talk
  run : ∃ r, x (Part.set (Backend.remote e) s)
    = (r, Part.set (Backend.remote (e.after talk.sent)) s) ∧ Ends out r

namespace Speaks

variable {x : Action σ α} {s : σ} {e : Remote} {talk : Talk} {out : Option α}

protected theorem pure (a : α) : Speaks (pure a : Action σ α) s e [] (some a) :=
  ⟨rfl, _, rfl, rfl⟩

theorem ofExcept (r : Except Failure α) :
    Speaks (Action.ofExcept r : Action σ α) s e [] r.toOption := by
  refine ⟨rfl, _, ?_, ends_ofExcept r s⟩
  cases r <;> rfl

theorem bind_none {f : α → Action σ β} (h : Speaks x s e talk none) :
    Speaks (x >>= f) s e talk none := by
  obtain ⟨hanswered, r, hrun, g, rfl⟩ := h
  exact ⟨hanswered, _, Action.bind_of_failed hrun, g, rfl⟩

theorem bind_some {f : α → Action σ β} {a : α} {talk' : Talk} {out' : Option β}
    (h : Speaks x s e talk (some a)) (hf : Speaks (f a) s (e.after talk.sent) talk' out') :
    Speaks (x >>= f) s e (talk ++ talk') out' := by
  obtain ⟨hanswered, r, hrun, hr⟩ := h
  obtain rfl : r = .ok a := hr
  obtain ⟨hanswered', r', hrun', hr'⟩ := hf
  refine ⟨?_, r', ?_, hr'⟩
  · rw [Talk.sent_append, Remote.exchanges_append, hanswered, hanswered']
  · rw [Action.bind_of_ok hrun, hrun', Talk.sent_append, Remote.after_append]

theorem context {c : String} (h : Speaks x s e talk out) : Speaks (x.context c) s e talk out := by
  obtain ⟨hanswered, r, hrun, hr⟩ := h
  cases out with
  | some a =>
    obtain rfl : r = .ok a := hr
    exact ⟨hanswered, .ok a, Action.context_ok_iff.mpr hrun, rfl⟩
  | none =>
    obtain ⟨f, rfl⟩ := hr
    exact ⟨hanswered, _, Action.context_failed_iff.mpr ⟨f, hrun, rfl⟩, _, rfl⟩

theorem onStore [LawfulPart σ Backend] {y : Action Backend α} {b : Backend}
    (h : Speaks y b e talk out) : Speaks (onStore y : Action σ α) s e talk out := by
  obtain ⟨hanswered, r, hrun, hr⟩ := h
  refine ⟨hanswered, r, ?_, hr⟩
  have hget : y (Part.get (Part.set (Backend.remote e) s))
      = (r, Backend.remote (e.after talk.sent)) := by
    rw [LawfulPart.get_set]
    exact hrun
  refine (Action.on_of_eq hget).trans ?_
  rw [LawfulPart.set_set]

theorem of_hears {y : Action Backend α} {q : Statement} {b : Backend}
    {read : Dialect → Except Failure Reply → Except Failure α} (h : Hears q read y) :
    Speaks y b e [(q, (e.answer q).1)] (read e.dialect (e.answer q).1).toOption := by
  refine ⟨rfl, _, ?_, ends_ofExcept _ (Backend.remote (e.hear (.statement q)))⟩
  show y (.remote e) = (_, .remote (e.hear (.statement q)))
  rw [h e]
  cases read e.dialect (e.answer q).1 <;> rfl

end Speaks

end OrderDesk.Store
