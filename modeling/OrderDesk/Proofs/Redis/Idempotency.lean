import OrderDesk.Access.Client
import OrderDesk.Proofs.Redis.Keyspace
import OrderDesk.Redis.Idempotency

/-!
# Which idempotency keys get in each other's way

All locks and results lie in one keyspace, under names that join a client's id and its key. Two
pairs of a client and a key are apart exactly when no name of one is a name of the other; the names
of registered clients are apart whenever the pairs differ.

* `Slot`                    a client's id with one of its keys;
* `Slot.joined_eq_iff`      when two slots are joined to the same text;
* `Separate p q`            no use of `p` changes what `q` is answered;
* `slots_separate_iff`      which slots are separate, and which locks can be read back as results;
* `Slot.Plain`              a client's id that joins without ambiguity, as all registered ones do.
-/

namespace OrderDesk.Idempotency

/-- A client's id, with one of its keys. -/
@[ext]
structure Slot where
  scope : String
  key : String
  deriving DecidableEq, Repr

namespace Slot

variable {p q : Slot}

/-- the part that all names of a slot end in -/
def joined (p : Slot) : String := p.scope ++ ":" ++ p.key

def lock (p : Slot) : String := lockKey p.scope p.key

def result (p : Slot) : String := resultKey p.scope p.key

/-- The id of one slot goes on, behind a colon, with what the key of the other begins with. -/
def Nested (p q : Slot) : Prop := ∃ m, p.scope = q.scope ++ ":" ++ m ∧ q.key = m ++ ":" ++ p.key

/-- The lock of one slot has the name of the result of the other. -/
def Poses (p q : Slot) : Prop := p.joined = "map:" ++ q.joined

/-! ## the names -/

theorem lock_eq_lock_iff : p.lock = q.lock ↔ p.joined = q.joined := by
  simp [lock, lockKey, joined, String.append_assoc]

theorem result_eq_result_iff : p.result = q.result ↔ p.joined = q.joined := by
  simp [result, resultKey, joined, String.append_assoc]

theorem lock_eq_result_iff : p.lock = q.result ↔ Poses p q := by
  have hmap : resultKey q.scope q.key = "idemp:" ++ ("map:" ++ q.joined) := by
    rw [← String.append_assoc, joined, resultKey]
    simp only [String.append_assoc]
    rfl
  rw [Poses, lock, result, hmap]
  simp [lockKey, joined, String.append_assoc]

/-- Where two texts cut at a colon agree, either the cuts do or one lies further on. -/
theorem cut_eq_iff {a b c d : List Char} : a ++ ':' :: b = c ++ ':' :: d ↔
    (a = c ∧ b = d) ∨ (∃ m, c = a ++ ':' :: m ∧ b = m ++ ':' :: d) ∨
      ∃ m, a = c ++ ':' :: m ∧ d = m ++ ':' :: b := by
  rw [List.append_eq_append_iff]
  constructor
  · rintro (⟨t, rfl, h⟩ | ⟨t, rfl, h⟩) <;> cases t with
    | nil => exact .inl ⟨by simp, by simpa [eq_comm] using h⟩
    | cons x m => ?_
    · obtain ⟨rfl, rfl⟩ := List.cons.inj h
      exact .inr (.inl ⟨m, rfl, rfl⟩)
    · obtain ⟨rfl, rfl⟩ := List.cons.inj h
      exact .inr (.inr ⟨m, rfl, rfl⟩)
  · rintro (⟨rfl, rfl⟩ | ⟨m, rfl, rfl⟩ | ⟨m, rfl, rfl⟩)
    · exact .inl ⟨[], by simp⟩
    · exact .inl ⟨':' :: m, by simp⟩
    · exact .inr ⟨':' :: m, by simp⟩

theorem nested_iff : Nested p q ↔ ∃ m : List Char, p.scope.toList = q.scope.toList ++ ':' :: m ∧
    q.key.toList = m ++ ':' :: p.key.toList := by
  constructor
  · rintro ⟨m, h₁, h₂⟩
    exact ⟨m.toList, by simp [h₁], by simp [h₂]⟩
  · rintro ⟨m, h₁, h₂⟩
    exact ⟨.ofList m, String.toList_injective (by simp [h₁]), String.toList_injective (by simp [h₂])⟩

theorem joined_toList (p : Slot) : p.joined.toList = p.scope.toList ++ ':' :: p.key.toList := by
  simp [joined]

/-- Two slots are joined to the same text only if the id of one reaches into the key of the other. -/
theorem joined_eq_iff : p.joined = q.joined ↔ p = q ∨ Nested p q ∨ Nested q p := by
  have heq : p = q ↔ p.scope.toList = q.scope.toList ∧ p.key.toList = q.key.toList := by
    rw [String.toList_inj, String.toList_inj]
    exact Slot.ext_iff
  rw [← String.toList_inj, joined_toList, joined_toList, cut_eq_iff, nested_iff, nested_iff, heq]
  exact or_congr_right or_comm

/-- A lock is a result's when the client calls itself `map`, or its id begins with `map:`. -/
theorem poses_iff : Poses p q ↔ (p.scope = "map" ∧ p.key = q.joined) ∨
    ∃ m, p.scope = "map:" ++ m ∧ q.joined = m ++ ":" ++ p.key := by
  have hj : "map:" ++ q.joined = (⟨"map", q.joined⟩ : Slot).joined := by
    simp only [joined, ← String.append_assoc]
    rfl
  have hmap : ¬ Nested ⟨"map", q.joined⟩ p := by
    rw [nested_iff]
    rintro ⟨m, hm, -⟩
    have hcolon : ':' ∈ "map".toList := by rw [hm]; simp
    simp at hcolon
  rw [Poses, hj, joined_eq_iff, Slot.ext_iff, or_iff_left hmap]
  rfl

theorem exists_poses_iff : (∃ q, Poses p q) ↔
    (p.scope = "map" ∧ ':' ∈ p.key.toList) ∨ ∃ m, p.scope = "map:" ++ m := by
  simp only [poses_iff]
  constructor
  · rintro ⟨q, ⟨hs, hk⟩ | ⟨m, hm, -⟩⟩
    · exact .inl ⟨hs, by rw [hk, joined_toList]; simp⟩
    · exact .inr ⟨m, hm⟩
  · rintro (⟨hs, hk⟩ | ⟨m, hm⟩)
    · obtain ⟨a, b, hab⟩ := List.mem_iff_append.mp hk
      refine ⟨⟨.ofList a, .ofList b⟩, .inl ⟨hs, String.toList_injective ?_⟩⟩
      rw [joined_toList, hab]
      simp
    · exact ⟨⟨m, p.key⟩, .inr ⟨m, hm, rfl⟩⟩

end Slot

/-! ## what the uses of one slot do to another -/

/-- whether a request under the slot gets the lock -/
def Slot.granted (nanos : Int) (p : Slot) (r : Redis) : Outcome Bool :=
  (tryLock nanos p.scope p.key r).1

/-- what a request under the slot finds remembered -/
def Slot.recalled (p : Slot) (r : Redis) : Outcome (Option String) := (lookBack p.scope p.key r).1

/-- What a request does under its slot. -/
inductive Use where
  | tryLock (nanos : Int)
  | release
  | remember (nanos : Int) (value : String)
  deriving DecidableEq, Repr

/-- the keyspace that a use of a slot leaves -/
def Use.after (p : Slot) (r : Redis) : Use → Redis
  | .tryLock nanos => (Idempotency.tryLock nanos p.scope p.key r).2
  | .release => (Idempotency.release p.scope p.key r).2
  | .remember nanos value => (Idempotency.remember nanos p.scope p.key value r).2

/-- No use of one slot changes what the other is answered. -/
def Separate (p q : Slot) : Prop := ∀ (u : Use) (r : Redis),
  (∀ nanos, q.granted nanos (u.after p r) = q.granted nanos r) ∧
    q.recalled (u.after p r) = q.recalled r

/-- Taking the lock of one slot is never read back as the result of the other. -/
def Unread (p q : Slot) : Prop := ∀ (nanos : Int) (r : Redis),
  q.recalled (Use.after p r (.tryLock nanos)) = q.recalled r

section
variable {p q : Slot}

theorem Use.after_touches (p : Slot) (r : Redis) :
    ∀ u : Use, Redis.Touches [p.lock, p.result] r (u.after p r)
  | .tryLock _ => Redis.putNew_touches (by simp [Slot.lock]) r
  | .release => Redis.remove_touches (by simp [Slot.lock]) r
  | .remember _ _ => Redis.put_touches (by simp [Slot.result]) r

theorem separate_of_ne (hl : q.lock ≠ p.lock) (hlr : q.lock ≠ p.result) (hrl : q.result ≠ p.lock)
    (hr : q.result ≠ p.result) : Separate p q := by
  intro u r
  have hu : Redis.Touches [p.lock, p.result] r (u.after p r) := u.after_touches p r
  have hlock : q.lock ∉ [p.lock, p.result] := by simp [hl, hlr]
  have hresult : q.result ∉ [p.lock, p.result] := by simp [hrl, hr]
  exact ⟨fun _ => Redis.putNew_of_seen (hu.seen hlock), Redis.fetch_of_seen (hu.seen hresult)⟩

theorem unread_of_ne (h : q.result ≠ p.lock) : Unread p q := by
  intro nanos r
  have hu : Redis.Touches [p.lock] r (Use.after p r (.tryLock nanos)) :=
    Redis.putNew_touches List.mem_cons_self r
  have hresult : q.result ∉ [p.lock] := by simp [h]
  exact Redis.fetch_of_seen (hu.seen hresult)

/-- A keyspace with one name in it. -/
def single (name value : String) : Redis := { keys := Redis.Keyspace.insert [] name ⟨value, none⟩ }

theorem granted_single {name value : String} :
    q.granted 0 (single name value) = .ok (decide (q.lock ≠ name)) := by
  unfold Slot.granted tryLock Redis.putNew
  rw [if_neg (by decide), Redis.command_of_none rfl]
  by_cases h : q.lock = name
  · have hkey : lockKey q.scope q.key = name := h
    simp [single, h, hkey]
  · have hkey : lockKey q.scope q.key ≠ name := h
    have hnone : (Redis.Keyspace.insert [] name ⟨value, none⟩).get? (lockKey q.scope q.key)
        = none := by
      rw [Redis.Keyspace.get?_insert, if_neg hkey]
      rfl
    simp [single, h, hnone]

theorem recalled_single {name value : String} :
    q.recalled (single name value) = .ok (if q.result = name then some value else none) := by
  show Outcome.ok ((Redis.Keyspace.get? (.insert [] name _) q.result).map _) = _
  rw [Redis.Keyspace.get?_insert]
  split <;> rfl

theorem unread_iff : Unread p q ↔ ¬ Slot.Poses p q := by
  rw [← Slot.lock_eq_result_iff]
  constructor
  · intro h heq
    have hread : q.recalled (single p.lock "1") = .ok none := h 0 {}
    rw [recalled_single, if_pos heq.symm] at hread
    cases hread
  · exact fun h => unread_of_ne (Ne.symm h)

/-- Two slots are separate exactly if no name of one is a name of the other. -/
theorem separate_iff : Separate p q ↔
    p.joined ≠ q.joined ∧ ¬ Slot.Poses p q ∧ ¬ Slot.Poses q p := by
  rw [Ne, ← Slot.lock_eq_lock_iff, ← unread_iff, ← Slot.lock_eq_result_iff]
  constructor
  · intro h
    refine ⟨fun heq => ?_, fun nanos r => (h (.tryLock nanos) r).2, fun heq => ?_⟩
    · have hlock : q.granted 0 (single p.lock "1") = .ok true := (h (.tryLock 0) {}).1 0
      simp [granted_single, heq] at hlock
    · have hlock : q.granted 0 (single p.result "") = .ok true := (h (.remember 0 "") {}).1 0
      simp [granted_single, heq] at hlock
  · rintro ⟨hl, hu, hlr⟩
    rw [unread_iff, ← Slot.lock_eq_result_iff] at hu
    refine separate_of_ne (Ne.symm hl) hlr (Ne.symm hu) fun heq => hl ?_
    rw [Slot.lock_eq_lock_iff, Slot.result_eq_result_iff.mp heq]

/-- Two different slots disturb each other exactly if an id reaches into a key, or a client's lock
passes for a result; only a client whose id is `map`, or begins with `map:`, takes such locks. -/
theorem slots_separate_iff (p q : Slot) :
    (Separate p q ↔ p ≠ q ∧ ¬ Slot.Nested p q ∧ ¬ Slot.Nested q p ∧
      ¬ Slot.Poses p q ∧ ¬ Slot.Poses q p) ∧
    (Unread p q ↔ ¬ Slot.Poses p q) ∧
    ((∀ q', Unread p q') ↔
      ¬ (p.scope = "map" ∧ ':' ∈ p.key.toList) ∧ ∀ m, p.scope ≠ "map:" ++ m) := by
  refine ⟨?_, unread_iff, ?_⟩
  · rw [separate_iff, Ne, Slot.joined_eq_iff]
    simp only [not_or, and_assoc, ne_eq]
  · simp only [unread_iff, ← not_exists]
    rw [Slot.exists_poses_iff, not_or, not_exists]

/-- Clients whose ids have a colon share names with others; so does one that is called `map`. -/
theorem some_slots_meet :
    ¬ Separate ⟨"web", "a:b"⟩ ⟨"web:a", "b"⟩ ∧ ¬ Separate ⟨"map", "web:k"⟩ ⟨"web", "k"⟩ ∧
      ¬ Unread ⟨"map", "web:k"⟩ ⟨"web", "k"⟩ := by
  refine ⟨fun h => ?_, fun h => ?_, fun h => ?_⟩
  · exact (separate_iff.mp h).1 rfl
  · exact (separate_iff.mp h).2.1 rfl
  · exact unread_iff.mp h rfl

end

/-! ## clients whose ids join without ambiguity -/

/-- The client's id has no colon, and is not `map`. -/
def Slot.Plain (p : Slot) : Prop := ':' ∉ p.scope.toList ∧ p.scope ≠ "map"

namespace Slot.Plain

variable {p q : Slot}

theorem not_nested (hp : p.Plain) : ¬ Nested p q := by
  rintro ⟨m, hm, -⟩
  exact hp.1 (by simp [hm])

theorem not_poses (hp : p.Plain) : ¬ Poses p q := by
  rw [poses_iff]
  rintro (⟨hs, -⟩ | ⟨m, hm, -⟩)
  · exact hp.2 hs
  · exact hp.1 (by simp [hm])

theorem lock_ne_result (hp : p.Plain) : p.lock ≠ q.result := by
  rw [Ne, lock_eq_result_iff]
  exact hp.not_poses

theorem joined_eq_iff (hp : p.Plain) (hq : q.Plain) : p.joined = q.joined ↔ p = q := by
  rw [Slot.joined_eq_iff, or_iff_left (not_or.mpr ⟨hp.not_nested, hq.not_nested⟩)]

theorem lock_eq_iff (hp : p.Plain) (hq : q.Plain) : p.lock = q.lock ↔ p = q := by
  rw [lock_eq_lock_iff, joined_eq_iff hp hq]

theorem result_eq_iff (hp : p.Plain) (hq : q.Plain) : p.result = q.result ↔ p = q := by
  rw [result_eq_result_iff, joined_eq_iff hp hq]

/-- different slots of such clients are separate, and no lock of theirs is read back -/
theorem separate (hp : p.Plain) (hq : q.Plain) (h : p ≠ q) : Separate p q ∧ ∀ q', Unread p q' :=
  ⟨separate_iff.mpr ⟨mt (joined_eq_iff hp hq).mp h, hp.not_poses, hq.not_poses⟩,
    fun _ => unread_iff.mpr hp.not_poses⟩

end Slot.Plain

theorem registered_plain (key : String) : ∀ c ∈ Access.registered, (⟨c.id, key⟩ : Slot).Plain := by
  have hids : ∀ c ∈ Access.registered, ':' ∉ c.id.toList ∧ c.id ≠ "map" := by decide
  exact hids

end OrderDesk.Idempotency
