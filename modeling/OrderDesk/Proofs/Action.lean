import OrderDesk.Action
import Mathlib.Order.Defs.Unbundled

/-!
# How actions end

An action built from smaller ones ends in a value, a failure or a panic exactly when its parts do.
Each way of building one gets an equivalence per end, so that a run is taken apart from its end
backwards.

* `bind_ok_iff`, `bind_failed_iff`, `orElse_failed_iff`, ...   the equivalences, a simp set;
* `bind_of_ok`, `attempt_bind_of_ok`, `context_bind_of_ok`, ...   what follows a part that has run;
* `Keeps R x`           whatever `x` ends in, `R` relates the state before to the state after;
* `KeepsOr R S x`       so it does, or `x` ends in no value and `S` relates them;
* `Fixed g`             the relation that leaves the part `g` of the state as it was;
* `NoPanic x`           whatever the state, `x` ends in a value or a failure;
* `LawfulPart σ τ`      a part that reads back what was put into it, and nothing else changes.
-/

namespace OrderDesk.Action

variable {σ τ α β γ : Type}

/-! ## values, failures and panics of a composition -/

section
variable {x : Action σ α} {f : α → Action σ β} {s s' : σ} {a : α} {b : β} {e : Failure} {t : String}

/-- how an action ends, with the state that it leaves -/
theorem apply_of_outcome {o : Outcome α} (h : (x s).1 = o) : x s = (o, (x s).2) := Prod.ext h rfl

/-- what follows an action runs after its value -/
theorem bind_of_ok (h : x s = (.ok a, s')) : (x >>= f) s = f a s' := by
  show x.andThen f s = _
  rw [andThen, h]

theorem bind_of_failed (h : x s = (.failed e, s')) : (x >>= f) s = (.failed e, s') := by
  show x.andThen f s = _
  rw [andThen, h]

theorem bind_of_panicked (h : x s = (.panicked t, s')) : (x >>= f) s = (.panicked t, s') := by
  show x.andThen f s = _
  rw [andThen, h]

/-- what ends alike goes on alike -/
theorem bind_of_eq {y : Action σ α} (h : x s = y s') : (x >>= f) s = (y >>= f) s' := by
  show x.andThen f s = y.andThen f s'
  rw [andThen, andThen, h]

theorem fail_bind : (fail e : Action σ α) >>= f = fail e := rfl

theorem bind_assoc {γ : Type} (x : Action σ α) (f : α → Action σ β) (g : β → Action σ γ) :
    (x >>= f) >>= g = x >>= fun a => f a >>= g := by
  funext s
  rcases h : x s with ⟨o, s₁⟩
  cases o with
  | ok a =>
    rw [bind_of_ok h]
    exact bind_of_eq (bind_of_ok h)
  | failed e => rw [bind_of_failed h, bind_of_failed (bind_of_failed h)]
  | panicked t => rw [bind_of_panicked h, bind_of_panicked (bind_of_panicked h)]

@[simp]
theorem bind_ok_iff : (x >>= f) s = (.ok b, s') ↔
    ∃ a s₁, x s = (.ok a, s₁) ∧ f a s₁ = (.ok b, s') := by
  rcases hx : x s with ⟨o, s₁⟩
  cases o with
  | ok a => simp [bind_of_ok hx, and_assoc]
  | failed e => simp [bind_of_failed hx]
  | panicked t => simp [bind_of_panicked hx]

@[simp]
theorem bind_failed_iff : (x >>= f) s = (.failed e, s') ↔
    x s = (.failed e, s') ∨ ∃ a s₁, x s = (.ok a, s₁) ∧ f a s₁ = (.failed e, s') := by
  rcases hx : x s with ⟨o, s₁⟩
  cases o with
  | ok a => simp [bind_of_ok hx, and_assoc]
  | failed e => simp [bind_of_failed hx]
  | panicked t => simp [bind_of_panicked hx]

/-- the first part ends in a value and the rest runs, or the first part ends the whole -/
theorem bind_ends (x : Action σ α) (f : α → Action σ β) (s : σ) :
    (∃ a s₁, x s = (.ok a, s₁) ∧ (x >>= f) s = f a s₁) ∨
      (∀ a, (x s).1 ≠ .ok a) ∧ (∀ b, ((x >>= f) s).1 ≠ .ok b) ∧ ((x >>= f) s).2 = (x s).2 := by
  rcases hx : x s with ⟨o, s₁⟩
  cases o with
  | ok a => exact .inl ⟨a, s₁, rfl, bind_of_ok hx⟩
  | failed e =>
    rw [bind_of_failed hx]
    exact .inr ⟨fun _ => nofun, fun _ => nofun, rfl⟩
  | panicked t =>
    rw [bind_of_panicked hx]
    exact .inr ⟨fun _ => nofun, fun _ => nofun, rfl⟩

/-- what is made of the value leaves the state as it is -/
theorem bind_pure_snd (x : Action σ α) (g : α → β) (s : σ) :
    ((x >>= fun a => pure (g a)) s).2 = (x s).2 := by
  rcases bind_ends x (fun a => pure (g a)) s with ⟨a, s₁, hrun, hend⟩ | ⟨-, -, hend⟩
  · rw [hend, hrun]
    rfl
  · exact hend

@[simp]
theorem pure_apply : (pure a : Action σ α) s = (.ok a, s) := rfl

@[simp]
theorem fail_apply : (fail e : Action σ α) s = (.failed e, s) := rfl

@[simp]
theorem raise_apply {c : Cause} : (raise c : Action σ α) s = (.failed (.cause c), s) := rfl

@[simp]
theorem panicWith_apply : (panicWith t : Action σ α) s = (.panicked t, s) := rfl

@[simp]
theorem state_apply : state s = (.ok s, s) := rfl

@[simp]
theorem reads_apply {g : σ → α} : reads g s = (.ok (g s), s) := rfl

@[simp]
theorem change_apply {g : σ → σ} : change g s = (.ok (), g s) := rfl

@[simp]
theorem ofExcept_ok : (ofExcept (.ok a) : Action σ α) s = (.ok a, s) := rfl

@[simp]
theorem ofExcept_error : (ofExcept (.error e) : Action σ α) s = (.failed e, s) := rfl

theorem ofExcept_ok_iff {r : Except Failure α} :
    (ofExcept r : Action σ α) s = (.ok a, s') ↔ r = .ok a ∧ s' = s := by
  cases r <;> simp [eq_comm]

theorem ofExcept_failed_iff {r : Except Failure α} :
    (ofExcept r : Action σ α) s = (.failed e, s') ↔ r = .error e ∧ s' = s := by
  cases r <;> simp [eq_comm]

@[simp]
theorem attempt_ok_iff {r : Except Failure α} : x.attempt s = (.ok r, s') ↔
    (∃ a, x s = (.ok a, s') ∧ r = .ok a) ∨ ∃ e, x s = (.failed e, s') ∧ r = .error e := by
  unfold attempt
  rcases hx : x s with ⟨o, s₁⟩
  cases o with
  | ok a => simp [and_assoc, and_comm, eq_comm]
  | failed e => simp [and_assoc, and_comm, eq_comm]
  | panicked t => simp

@[simp]
theorem attempt_failed_iff : x.attempt s = (.failed e, s') ↔ False := by
  unfold attempt
  rcases hx : x s with ⟨o, s₁⟩
  cases o <;> simp

/-- an attempt hands on the value, or the failure as one -/
theorem attempt_bind_of_ok {k : Except Failure α → Action σ β} (h : x s = (.ok a, s')) :
    (x.attempt >>= k) s = k (.ok a) s' := bind_of_ok (attempt_ok_iff.mpr (.inl ⟨a, h, rfl⟩))

theorem attempt_bind_of_failed {k : Except Failure α → Action σ β} (h : x s = (.failed e, s')) :
    (x.attempt >>= k) s = k (.error e) s' := bind_of_ok (attempt_ok_iff.mpr (.inr ⟨e, h, rfl⟩))

@[simp]
theorem context_ok_iff {c : String} : x.context c s = (.ok a, s') ↔ x s = (.ok a, s') := by
  unfold context
  rcases hx : x s with ⟨o, s₁⟩
  cases o <;> simp

@[simp]
theorem context_failed_iff {c : String} : x.context c s = (.failed e, s') ↔
    ∃ g, x s = (.failed g, s') ∧ e = .within c g := by
  unfold context
  rcases hx : x s with ⟨o, s₁⟩
  cases o with
  | ok a => simp
  | failed g => simp [and_assoc, and_comm, eq_comm]
  | panicked t => simp

theorem context_bind_of_ok {c : String} (h : x s = (.ok a, s')) : (x.context c >>= f) s = f a s' :=
  bind_of_ok (context_ok_iff.mpr h)

theorem context_bind_of_failed {c : String} (h : x s = (.failed e, s')) :
    (x.context c >>= f) s = (.failed (.within c e), s') :=
  bind_of_failed (context_failed_iff.mpr ⟨e, h, rfl⟩)

@[simp]
theorem orElse_ok_iff {h : Failure → Action σ α} : x.orElse h s = (.ok a, s') ↔
    x s = (.ok a, s') ∨ ∃ g s₁, x s = (.failed g, s₁) ∧ h g s₁ = (.ok a, s') := by
  unfold orElse
  rcases hx : x s with ⟨o, s₁⟩
  cases o <;> simp [and_assoc]

@[simp]
theorem orElse_failed_iff {h : Failure → Action σ α} : x.orElse h s = (.failed e, s') ↔
    ∃ g s₁, x s = (.failed g, s₁) ∧ h g s₁ = (.failed e, s') := by
  unfold orElse
  rcases hx : x s with ⟨o, s₁⟩
  cases o <;> simp [and_assoc]

theorem orElse_of_failed {k : Failure → Action σ α} (h : x s = (.failed e, s')) :
    x.orElse k s = k e s' := by
  rw [orElse, h]

end

/-! ## ends that are computed -/

def value? (x : Action σ α) (s : σ) : Option α :=
  match (x s).1 with
  | .ok a => some a
  | _ => none

theorem ok_of_value? {x : Action σ α} {s : σ} {a : α} (h : x.value? s = some a) :
    x s = (.ok a, (x s).2) := by
  unfold value? at h
  rcases hx : x s with ⟨o, s₁⟩
  rw [hx] at h
  cases o with
  | ok b => rw [Option.some.inj h]
  | failed e => cases h
  | panicked t => cases h

def failure? (x : Action σ α) (s : σ) : Option Failure :=
  match (x s).1 with
  | .failed f => some f
  | _ => none

theorem failed_of_failure? {x : Action σ α} {s : σ} (h : (x.failure? s).isSome = true) :
    ∃ f, (x s).1 = .failed f := by
  unfold failure? at h
  generalize (x s).1 = o at h ⊢
  cases o with
  | ok a => cases h
  | failed f => exact ⟨f, rfl⟩
  | panicked t => cases h

/-! ## what an action does to the state, whatever it ends in -/

/-- Whatever the action ends in, the state before it and the state after it are related. -/
def Keeps (R : σ → σ → Prop) (x : Action σ α) : Prop := ∀ s, R s (x s).2

/-- The part `g` of the state is as it was. -/
def Fixed (g : σ → γ) (s s' : σ) : Prop := g s' = g s

instance (g : σ → γ) : IsPreorder σ (Fixed g) where
  refl _ := rfl
  trans _ _ _ h₁ h₂ := Eq.trans h₂ h₁

namespace Keeps

variable {R : σ → σ → Prop} {x : Action σ α}

theorem of_eq {o : Outcome α} {s s' : σ} (hx : Keeps R x) (h : x s = (o, s')) : R s s' := by
  have := hx s
  rwa [h] at this

theorem mono {R' : σ → σ → Prop} (hx : Keeps R x) (h : ∀ s s', R s s' → R' s s') :
    Keeps R' x := fun s => h _ _ (hx s)

section
variable [IsPreorder σ R]

protected theorem pure (a : α) : Keeps R (pure a : Action σ α) := fun s => refl_of R s

theorem fail (e : Failure) : Keeps R (Action.fail e : Action σ α) := fun s => refl_of R s

theorem raise (c : Cause) : Keeps R (Action.raise c : Action σ α) := fun s => refl_of R s

theorem panicWith (t : String) : Keeps R (Action.panicWith t : Action σ α) :=
  fun s => refl_of R s

theorem state : Keeps R (Action.state : Action σ σ) := fun s => refl_of R s

theorem reads (g : σ → α) : Keeps R (Action.reads g) := fun s => refl_of R s

theorem ofExcept (r : Except Failure α) : Keeps R (Action.ofExcept r : Action σ α) := by
  cases r with
  | ok a => exact Keeps.pure a
  | error e => exact Keeps.fail e

protected theorem bind {f : α → Action σ β} (hx : Keeps R x) (hf : ∀ a, Keeps R (f a)) :
    Keeps R (x >>= f) := by
  intro s
  rcases h : x s with ⟨o, s₁⟩
  have h₁ : R s s₁ := hx.of_eq h
  cases o with
  | ok a => rw [bind_of_ok h]; exact trans_of R h₁ (hf a s₁)
  | failed e => rw [bind_of_failed h]; exact h₁
  | panicked t => rw [bind_of_panicked h]; exact h₁

/-- from the end of an action to the end of what is done when it fails -/
theorem orElse_rest {k : Failure → Action σ α} (hk : ∀ e, Keeps R (k e)) (s : σ) :
    R (x s).2 (x.orElse k s).2 := by
  unfold Action.orElse
  rcases x s with ⟨o, s₁⟩
  cases o with
  | ok a => exact refl_of R s₁
  | failed e => exact hk e s₁
  | panicked t => exact refl_of R s₁

theorem orElse {k : Failure → Action σ α} (hx : Keeps R x) (hk : ∀ e, Keeps R (k e)) :
    Keeps R (x.orElse k) := fun s => trans_of R (hx s) (orElse_rest hk s)

end

theorem attempt (hx : Keeps R x) : Keeps R x.attempt := by
  intro s
  unfold Action.attempt
  rcases h : x s with ⟨o, s₁⟩
  cases o <;> exact hx.of_eq h

theorem context {c : String} (hx : Keeps R x) : Keeps R (x.context c) := by
  intro s
  unfold Action.context
  rcases h : x s with ⟨o, s₁⟩
  cases o <;> exact hx.of_eq h

end Keeps

/-! ## what an action does unless it breaks off -/

/-- Whatever the action ends in, `R` relates the state before to the state after; or it ends in no
value, and `S` relates them. -/
def KeepsOr (R S : σ → σ → Prop) (x : Action σ α) : Prop :=
  ∀ s, R s (x s).2 ∨ (∀ a, (x s).1 ≠ .ok a) ∧ S s (x s).2

theorem Keeps.keepsOr {R S : σ → σ → Prop} {x : Action σ α} (hx : Keeps R x) : KeepsOr R S x :=
  fun s => .inl (hx s)

namespace KeepsOr

variable {R S : σ → σ → Prop} {x : Action σ α}

theorem of_eq {o : Outcome α} {s s' : σ} (hx : KeepsOr R S x) (h : x s = (o, s')) :
    R s s' ∨ (∀ a, o ≠ .ok a) ∧ S s s' := by
  have := hx s
  rwa [h] at this

theorem of_ok {a : α} {s s' : σ} (hx : KeepsOr R S x) (h : x s = (.ok a, s')) : R s s' :=
  (hx.of_eq h).resolve_right fun h => h.1 a rfl

theorem mono {R' S' : σ → σ → Prop} (hx : KeepsOr R S x) (hR : ∀ s s', R s s' → R' s s')
    (hS : ∀ s s', S s s' → S' s s') : KeepsOr R' S' x :=
  fun s => (hx s).imp (hR _ _) (And.imp_right (hS _ _))

theorem context {c : String} (hx : KeepsOr R S x) : KeepsOr R S (x.context c) := by
  intro s
  unfold Action.context
  rcases h : x s with ⟨o, s₁⟩
  cases o with
  | failed e => exact (hx.of_eq h).imp_right fun h => ⟨fun _ => nofun, h.2⟩
  | ok a => exact hx.of_eq h
  | panicked t => exact hx.of_eq h

protected theorem bind [IsPreorder σ R] [Trans R S S] {f : α → Action σ β} (hx : KeepsOr R S x)
    (hf : ∀ a, KeepsOr R S (f a)) : KeepsOr R S (x >>= f) := by
  intro s
  rcases h : x s with ⟨o, s₁⟩
  cases o with
  | ok a =>
    have h₁ : R s s₁ := hx.of_ok h
    rw [bind_of_ok h]
    exact (hf a s₁).imp (trans_of R h₁) (And.imp_right (Trans.trans h₁))
  | failed e =>
    rw [bind_of_failed h]
    exact (hx.of_eq h).imp_right fun h => ⟨fun _ => nofun, h.2⟩
  | panicked t =>
    rw [bind_of_panicked h]
    exact (hx.of_eq h).imp_right fun h => ⟨fun _ => nofun, h.2⟩

end KeepsOr

/-! ## actions that do not panic -/

/-- Whatever the state, the action ends in a value or a failure. -/
def NoPanic (x : Action σ α) : Prop := ∀ s t, (x s).1 ≠ .panicked t

namespace NoPanic

variable {x : Action σ α}

protected theorem bind {f : α → Action σ β} (hx : NoPanic x) (hf : ∀ a, NoPanic (f a)) :
    NoPanic (x >>= f) := by
  intro s t h
  rcases hxs : x s with ⟨o, s₁⟩
  cases o with
  | ok a =>
    rw [bind_of_ok hxs] at h
    exact hf a s₁ t h
  | failed e =>
    rw [bind_of_failed hxs] at h
    cases h
  | panicked t' => exact hx s t' (congrArg Prod.fst hxs)

theorem context {c : String} (hx : NoPanic x) : NoPanic (x.context c) := by
  intro s t h
  unfold Action.context at h
  rcases hxs : x s with ⟨o, s₁⟩
  rw [hxs] at h
  cases o with
  | ok a => cases h
  | failed e => cases h
  | panicked t' => exact hx s t' (congrArg Prod.fst hxs)

theorem ofExcept (r : Except Failure α) : NoPanic (Action.ofExcept r : Action σ α) := by
  cases r <;> exact fun _ _ => nofun

end NoPanic

end OrderDesk.Action

namespace OrderDesk

/-! ## parts -/

/-- A part reads back what was put into it; putting back what it reads, or putting twice, adds
nothing. -/
class LawfulPart (σ τ : Type) [Part σ τ] : Prop where
  get_set : ∀ (t : τ) (s : σ), Part.get (Part.set t s) = t
  set_get : ∀ s : σ, Part.set (Part.get s : τ) s = s
  set_set : ∀ (t t' : τ) (s : σ), Part.set t (Part.set t' s) = Part.set t s

instance (σ : Type) : LawfulPart σ σ := ⟨fun _ _ => rfl, fun _ => rfl, fun _ _ _ => rfl⟩

namespace Action

variable {σ τ α : Type} [Part σ τ] {x : Action τ α} {s s' : σ} {o : Outcome α}

theorem on_eq_iff : (x.on : Action σ α) s = (o, s') ↔
    ∃ t, x (Part.get s) = (o, t) ∧ s' = Part.set t s := by
  unfold Action.on
  rcases hx : x (Part.get s) with ⟨o₁, t₁⟩
  simp only [Prod.mk.injEq]
  constructor
  · rintro ⟨rfl, rfl⟩
    exact ⟨t₁, ⟨rfl, rfl⟩, rfl⟩
  · rintro ⟨t, ⟨rfl, rfl⟩, rfl⟩
    exact ⟨rfl, rfl⟩

theorem on_of_eq {t : τ} (h : x (Part.get s) = (o, t)) :
    (x.on : Action σ α) s = (o, Part.set t s) := on_eq_iff.mpr ⟨t, h, rfl⟩

end Action

end OrderDesk
