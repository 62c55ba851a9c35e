import OrderDesk.Proofs.Action
import OrderDesk.Redis.Keyspace

/-!
# What the commands of a keyspace leave under a name

* `get?_insert`, `get?_erase`      what a keyspace holds after a key was set or removed;
* `Touches W`, `*_touches`         a command leaves the entries under other names as they were;
* `putNew_present`                 what is there is not put anew;
* `Redis.seen name`                what a command on that name can find out.
-/

namespace OrderDesk.Redis

open OrderDesk.Action (Keeps)

namespace Keyspace

variable (ks : Keyspace) (key other : String) (e : Entry)

theorem get?_cons : get? ((key, e) :: ks) other = if other = key then some e else ks.get? other := by
  unfold get?
  rw [List.lookup_cons]
  by_cases h : other = key
  · simp [h]
  · rw [beq_false_of_ne h, if_neg h]

@[simp]
theorem get?_erase :
    (ks.erase key).get? other = if other = key then none else ks.get? other := by
  unfold erase
  induction ks with
  | nil => simp [get?]
  | cons x ks ih =>
    obtain ⟨k, e⟩ := x
    by_cases hk : k = key
    · subst hk
      rw [List.filter_cons_of_neg (by simp), ih, get?_cons]
      split <;> rfl
    · rw [List.filter_cons_of_pos (by simpa using hk), get?_cons, get?_cons, ih]
      by_cases ho : other = k
      · subst ho
        simp [hk]
      · simp [ho]

@[simp]
theorem get?_insert :
    (ks.insert key e).get? other = if other = key then some e else ks.get? other := by
  unfold insert
  rw [get?_cons, get?_erase]
  split <;> rfl

end Keyspace

/-! ## what a command touches -/

/-- Only the entries under the names in `W` may differ. -/
structure Touches (W : List String) (r r' : Redis) : Prop where
  refusal : r'.refusal = r.refusal
  entries : ∀ name, name ∉ W → r'.keys.get? name = r.keys.get? name

instance (W : List String) : IsPreorder Redis (Touches W) where
  refl _ := ⟨rfl, fun _ _ => rfl⟩
  trans _ _ _ h₁ h₂ := ⟨h₂.refusal.trans h₁.refusal, fun name hn =>
    (h₂.entries name hn).trans (h₁.entries name hn)⟩

section
variable {α : Type} {f : Keyspace → α × Keyspace} {r r' : Redis} {W : List String}
  {name key value : String} {nanos : Int}

theorem command_of_refusal {text : String} (h : r.refusal = some text) :
    command f r = (.failed (.plain text), r) := by
  rw [command, h]

theorem command_of_none (h : r.refusal = none) :
    command f r = (.ok (f r.keys).1, { r with keys := (f r.keys).2 }) := by
  rw [command, h]

theorem command_ok_iff {a : α} : command f r = (.ok a, r') ↔
    r.refusal = none ∧ a = (f r.keys).1 ∧ r' = { r with keys := (f r.keys).2 } := by
  cases hr : r.refusal with
  | some text => simp [command_of_refusal hr]
  | none =>
    rw [command_of_none hr]
    simp only [Prod.mk.injEq, Outcome.ok.injEq, true_and, hr]
    exact ⟨fun ⟨h, h'⟩ => ⟨h.symm, h'.symm⟩, fun ⟨h, h'⟩ => ⟨h.symm, h'.symm⟩⟩

theorem fetch_ok_iff {found : Option String} : fetch key r = (.ok found, r') ↔
    r.refusal = none ∧ found = (r.keys.get? key).map Entry.value ∧ r' = r := command_ok_iff

theorem put_of_none (h : r.refusal = none) : put key value nanos r
    = (.ok (), { r with keys := r.keys.insert key ⟨value, timeFor r.keys key nanos⟩ }) :=
  command_of_none h

theorem command_touches (h : ∀ ks : Keyspace, ∀ name, name ∉ W → (f ks).2.get? name = ks.get? name) :
    Keeps (Touches W) (command f) := by
  intro r
  cases hr : r.refusal with
  | some text =>
    rw [command_of_refusal hr]
    exact refl_of (Touches W) r
  | none =>
    rw [command_of_none hr]
    exact ⟨rfl, h r.keys⟩

theorem fetch_touches : Keeps (Touches W) (fetch key) := command_touches fun _ _ _ => rfl

theorem put_touches (h : key ∈ W) : Keeps (Touches W) (put key value nanos) := by
  refine command_touches fun ks name hn => ?_
  have hne : name ≠ key := fun he => hn (he ▸ h)
  simp [hne]

theorem remove_touches (h : key ∈ W) : Keeps (Touches W) (remove key) := by
  refine command_touches fun ks name hn => ?_
  have hne : name ≠ key := fun he => hn (he ▸ h)
  simp [hne]

theorem putNew_touches (h : key ∈ W) : Keeps (Touches W) (putNew key value nanos) := by
  unfold putNew
  split
  · exact .fail _
  · refine command_touches fun ks name hn => ?_
    have hne : name ≠ key := fun he => hn (he ▸ h)
    cases ks.get? key with
    | some e => rfl
    | none => simp [hne]

theorem putNew_present (h : (r.keys.get? name).isSome) :
    (putNew key value nanos r).2.keys.get? name = r.keys.get? name := by
  obtain ⟨e, he⟩ := Option.isSome_iff_exists.mp h
  unfold putNew
  split
  · rfl
  · cases hr : r.refusal with
    | some text => rw [command_of_refusal hr]
    | none =>
      rw [command_of_none hr]
      cases hk : r.keys.get? key with
      | some _ => simp
      | none =>
        have hne : name ≠ key := by
          rintro rfl
          rw [hk] at he
          cases he
        simp [hne]

end

/-! ## what an answer comes from -/

/-- What a command on a name can find out: whether commands are refused, and what is kept there. -/
def seen (name : String) (r : Redis) : Option String × Option Entry := (r.refusal, r.keys.get? name)

section
variable {α : Type} {f : Keyspace → α × Keyspace} {r r' : Redis} {W : List String}
  {name value : String} {nanos : Int}

theorem Touches.seen (h : Touches W r r') (hn : name ∉ W) : seen name r' = seen name r :=
  Prod.ext h.refusal (h.entries name hn)

theorem command_of_seen (hf : (f r'.keys).1 = (f r.keys).1) (h : r'.refusal = r.refusal) :
    (command f r').1 = (command f r).1 := by
  cases hr : r.refusal with
  | some text => rw [command_of_refusal hr, command_of_refusal (h.trans hr)]
  | none => rw [command_of_none hr, command_of_none (h.trans hr), hf]

theorem fetch_of_seen (h : seen name r' = seen name r) : (fetch name r').1 = (fetch name r).1 := by
  obtain ⟨hr, hk⟩ := Prod.mk.inj h
  exact command_of_seen (congrArg (Option.map Entry.value) hk) hr

theorem putNew_of_seen (h : seen name r' = seen name r) :
    (putNew name value nanos r').1 = (putNew name value nanos r).1 := by
  obtain ⟨hr, hk⟩ := Prod.mk.inj h
  unfold putNew
  split
  · rfl
  · refine command_of_seen ?_ hr
    simp only [hk]
    cases r.keys.get? name <;> rfl

end

end OrderDesk.Redis
