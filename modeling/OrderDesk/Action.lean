import OrderDesk.Failure

/-!
# Actions

An action reads and changes a state and ends in one of three ways. A panic passes every handler of
failures; only whoever guards against panics sees it.

* `Outcome`             a value, a failure or a panic;
* `Action σ α`          an action on states `σ`;
* `Action.attempt`      turns a failure into a value;
* `Action.context`      names what was being done when a failure arose;
* `Part σ τ`            a part of a state that can be read and replaced;
* `Action.on`           an action on a part, as an action on the whole.
-/

namespace OrderDesk

/-- How an action ends. -/
inductive Outcome (α : Type) where
  | ok (a : α)
  | failed (f : Failure)
  | panicked (text : String)
  deriving Repr

/-- An action on states `σ` with a value in `α`. -/
def Action (σ α : Type) : Type := σ → Outcome α × σ

namespace Action

variable {σ τ α β : Type}

def run (x : Action σ α) (s : σ) : Outcome α × σ := x s

def andThen (x : Action σ α) (f : α → Action σ β) : Action σ β := fun s =>
  match x s with
  | (.ok a, s) => f a s
  | (.failed e, s) => (.failed e, s)
  | (.panicked t, s) => (.panicked t, s)

instance : Monad (Action σ) where
  pure a := fun s => (.ok a, s)
  bind := andThen

def fail (f : Failure) : Action σ α := fun s => (.failed f, s)

/-- ends in a failure of this cause -/
def raise (c : Cause) : Action σ α := fail (.cause c)

def panicWith (text : String) : Action σ α := fun s => (.panicked text, s)

def state : Action σ σ := fun s => (.ok s, s)

/-- something of the state -/
def reads (f : σ → α) : Action σ α := fun s => (.ok (f s), s)

def change (f : σ → σ) : Action σ Unit := fun s => (.ok (), f s)

def ofExcept : Except Failure α → Action σ α
  | .ok a => fun s => (.ok a, s)
  | .error f => fail f

/-- turns a failure into a value; a panic goes on -/
def attempt (x : Action σ α) : Action σ (Except Failure α) := fun s =>
  match x s with
  | (.ok a, s) => (.ok (.ok a), s)
  | (.failed f, s) => (.ok (.error f), s)
  | (.panicked t, s) => (.panicked t, s)

/-- names what was being done when a failure arose -/
def context (c : String) (x : Action σ α) : Action σ α := fun s =>
  match x s with
  | (.failed f, s) => (.failed (.within c f), s)
  | r => r

/-- when it fails, something else is tried with the failure -/
def orElse (x : Action σ α) (h : Failure → Action σ α) : Action σ α := fun s =>
  match x s with
  | (.failed f, s) => h f s
  | r => r

/-- the actions of a list, one after another -/
def each (f : α → Action σ Unit) : List α → Action σ Unit
  | [] => pure ()
  | a :: as => do
    f a
    each f as

end Action

/-- A part of a state: how it is read, and how it is replaced. -/
class Part (σ τ : Type) where
  get : σ → τ
  set : τ → σ → σ

instance (σ : Type) : Part σ σ := ⟨id, fun t _ => t⟩

/-- an action on a part, as an action on the whole -/
def Action.on {σ τ α : Type} [Part σ τ] (x : Action τ α) : Action σ α := fun s =>
  let (r, t) := x (Part.get s)
  (r, Part.set t s)

end OrderDesk
