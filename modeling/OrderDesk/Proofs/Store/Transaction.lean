import OrderDesk.Proofs.Action
import OrderDesk.Store.Orders

/-!
# Transactions of the embedded engine

An action on the store that runs inside a transaction touches the tables and nothing else of the
engine: it neither ends the transaction nor forgets the tables to return to. It can make the engine
give the transaction up, but then it fails. So a transaction that does not end in a value gives back
the store it began with.

* `TablesOnly`          only the tables of an embedded engine differ;
* `GaveUp`              the engine gave up its transaction and is back where that began;
* `Joins x`             an action that does the one, or fails and does the other;
* `inside db ts`        the engine at the tables `ts`, in a transaction that began at those of `db`;
* `forsaken db`         the engine once it gave up a transaction that began at the tables of `db`;
* `within_of_open`      inside a transaction a further one is its body;
* `within_of_ok`, `within_of_failed`, `within_of_forsaken`      a transaction ends as its body;
* `within_concludes`    every end of a transaction, by the end of its body;
* `within_ok`           a transaction that ends in a value, taken apart;
* `within_failed`       a transaction that fails: the body failed, and the store is as it was;
* `within_restores`     every other end gives the store back.
-/

set_option linter.unusedSectionVars false

namespace OrderDesk.Store

open OrderDesk.Action (Keeps KeepsOr)

instance : LawfulPart Orders.Draft Backend :=
  ⟨fun _ _ => rfl, fun _ => rfl, fun _ _ _ => rfl⟩

variable {σ α β : Type} [Part σ Backend]

def storeOf (s : σ) : Backend := Part.get s

/-- Only the tables of an embedded engine differ. -/
def TablesOnly (s s' : σ) : Prop :=
  ∀ db, storeOf s = .embedded db → ∃ ts, storeOf s' = .embedded { db with tables := ts }

instance : IsPreorder σ TablesOnly where
  refl _ db h := ⟨db.tables, h⟩
  trans _ _ _ h₁ h₂ db h := by
    obtain ⟨ts₁, e₁⟩ := h₁ db h
    obtain ⟨ts₂, e₂⟩ := h₂ _ e₁
    exact ⟨ts₂, e₂⟩

/-- An embedded engine gave up the transaction that it was in: its tables are those that the
transaction began with. -/
def GaveUp (s s' : σ) : Prop :=
  ∀ db, storeOf s = .embedded db → ∃ ts, db.saved = some (.start ts) ∧
    storeOf s' = .embedded { db with tables := ts, saved := some .lost }

theorem GaveUp.at_rest {s s' : σ} {db : Database} (h : GaveUp s s') (hs : storeOf s = .embedded db) :
    db.saved ≠ none := by
  obtain ⟨ts, hsaved, -⟩ := h db hs
  simp [hsaved]

instance : Trans (TablesOnly (σ := σ)) (GaveUp (σ := σ)) (GaveUp (σ := σ)) where
  trans h₁ h₂ db h := by
    obtain ⟨ts₁, e₁⟩ := h₁ db h
    obtain ⟨ts₂, hs, e₂⟩ := h₂ _ e₁
    exact ⟨ts₂, hs, e₂⟩

/-- Inside a transaction the action changes tables and nothing else, or it ends in no value and the
engine gave the transaction up. -/
abbrev Joins (x : Action σ α) : Prop := KeepsOr TablesOnly GaveUp x

/-! ## statements -/

/-- a statement that fails changes nothing, unless the ids are exhausted inside a transaction -/
theorem Database.refuse_cases (db : Database) (f : Failure) : db.refuse f = db ∨
    f = idsExhausted ∧ ∃ ts, db.saved = some (.start ts) ∧
      db.refuse f = { db with tables := ts, saved := some .lost } := by
  unfold refuse
  split
  · next ts hsaved =>
    split
    · next hf => exact .inr ⟨hf, ts, hsaved, rfl⟩
    · exact .inl rfl
  · exact .inl rfl

theorem Database.refuse_of_ne {db : Database} {f : Failure} (h : f ≠ idsExhausted) :
    db.refuse f = db := (db.refuse_cases f).resolve_right fun h' => h h'.1

theorem Database.refuse_at_rest {db : Database} (f : Failure) (hr : db.saved = none) :
    db.refuse f = db :=
  (db.refuse_cases f).resolve_right fun ⟨_, _, hs, _⟩ => by simp [hr] at hs

/-- a statement that the engine answers: it is open, and its tables give the answer -/
theorem send_ok_iff {q : Statement} {db : Database} {r : Reply} {b : Backend} :
    send q (.embedded db) = (.ok r, b) ↔
      db.closed = false ∧ ∃ ts, db.tables.answer q = .ok (r, ts) ∧
        b = .embedded { db with tables := ts } := by
  cases hc : db.closed with
  | true => simp [send, Database.answer, hc]
  | false =>
    cases ht : db.tables.answer q with
    | error f => simp [send, Database.answer, hc, ht]
    | ok p =>
      obtain ⟨r', ts⟩ := p
      simp [send, Database.answer, hc, ht, and_assoc, eq_comm]

theorem send_failed_iff {q : Statement} {db : Database} {f : Failure} {b : Backend} :
    send q (.embedded db) = (.failed f, b) ↔
      db.closed = true ∧ f = Database.isClosed ∧ b = .embedded db ∨
        db.closed = false ∧ db.tables.answer q = .error f ∧ b = .embedded (db.refuse f) := by
  cases hc : db.closed with
  | true => simp [send, Database.answer, hc, eq_comm]
  | false =>
    cases ht : db.tables.answer q with
    | error g =>
      simp only [send, Database.answer, hc, ht]
      simp only [Bool.false_eq_true, if_false, Prod.mk.injEq, Outcome.failed.injEq, false_and,
        true_and, false_or, Except.error.injEq]
      exact and_congr_right fun h => h ▸ eq_comm
    | ok p =>
      obtain ⟨r, ts⟩ := p
      simp [send, Database.answer, hc, ht]

/-- **A statement that fails leaves the engine as it was**, unless it made it give up. -/
theorem send_failed {q : Statement} {db : Database} {f : Failure} {b : Backend}
    (h : send q (.embedded db) = (.failed f, b)) : b = .embedded (db.refuse f) := by
  rcases send_failed_iff.mp h with ⟨-, rfl, rfl⟩ | ⟨-, -, rfl⟩
  · rw [Database.refuse_of_ne (by decide)]
  · rfl

theorem send_not_panicked {q : Statement} {b b' : Backend} {t : String} :
    send q b ≠ (.panicked t, b') := by
  intro h
  unfold send at h
  split at h <;> split at h <;> simp at h

/-- what the answers of an embedded engine do to its tables, a statement does to the store -/
theorem send_keepsOr {R : Backend → Backend → Prop} [IsPreorder Backend R] {q : Statement}
    (hremote : ∀ e b, R (.remote e) b)
    (hok : ∀ db r ts, db.tables.answer q = .ok (r, ts) →
      R (.embedded db) (.embedded { db with tables := ts })) : KeepsOr R GaveUp (send q) := by
  intro b
  cases b with
  | remote e => exact .inl (hremote e _)
  | embedded db =>
    rcases h : send q (.embedded db) with ⟨o, b'⟩
    cases o with
    | ok r =>
      obtain ⟨-, ts, ha, rfl⟩ := send_ok_iff.mp h
      exact .inl (hok db r ts ha)
    | failed f =>
      rw [send_failed h]
      rcases db.refuse_cases f with heq | ⟨-, ts, hs, heq⟩
      · rw [heq]
        exact .inl (refl_of R _)
      · refine .inr ⟨fun _ => nofun, fun db' h => ⟨ts, ?_⟩⟩
        obtain rfl := Backend.embedded.inj h
        exact ⟨hs, congrArg Backend.embedded heq⟩
    | panicked t => exact absurd h send_not_panicked

theorem send_joins (q : Statement) : Joins (send q) := by
  refine send_keepsOr (fun e b db h => nomatch h) fun db r ts _ db' h => ⟨ts, ?_⟩
  obtain rfl := Backend.embedded.inj h
  rfl

/-! ## what statements are made into

Whatever a statement does to the store, so does each of the ways to read its reply. -/

section
variable {R S : Backend → Backend → Prop} [IsPreorder Backend R] {q : Statement}

theorem firstRow_keeps (scan : Row → Except Failure α) (h : Keeps R (send q)) :
    Keeps R (firstRow scan q) := by
  refine h.bind fun r => ?_
  split
  · exact .ofExcept _
  · exact .fail _
  · exact .raise _

theorem readOne_keeps (c : String) (missing : Cause) (scan : Row → Except Failure α)
    (h : Keeps R (send q)) : Keeps R (readOne c missing scan q) := by
  refine (firstRow_keeps scan h).orElse fun f => ?_
  split
  · exact .raise _
  · exact .fail _

theorem allRows_keeps (c : String) (scan : Row → Except Failure α) (h : Keeps R (send q)) :
    Keeps R (allRows c scan q) :=
  h.context.bind fun _ => .ofExcept _

variable [Trans R S S]

theorem changeOne_keepsOr (c : String) (missing : Cause) (h : KeepsOr R S (send q)) :
    KeepsOr R S (changeOne c missing q) := by
  refine h.context.bind fun r => (Keeps.ofExcept _).keepsOr.bind fun n => ?_
  split
  · exact (Keeps.raise _).keepsOr
  · exact (Keeps.pure _).keepsOr

theorem insertNew_keepsOr (h : KeepsOr R S (send q)) : KeepsOr R S (insertNew q) := by
  refine Keeps.state.keepsOr.bind fun b => ?_
  split
  · refine h.bind fun r => ?_
    split
    · exact (Keeps.ofExcept _).keepsOr
    · exact (Keeps.fail _).keepsOr
    · exact (Keeps.raise _).keepsOr
  · exact h.bind fun _ => (Keeps.pure _).keepsOr

end

/-! ## transactions -/

/-- the engine at the tables `ts`, in a transaction that began at those of `db` -/
def inside (db : Database) (ts : Tables) : Database := ⟨ts, some (.start db.tables), db.closed⟩

/-- the engine once it gave up a transaction that began at the tables of `db` -/
def forsaken (db : Database) : Database := { db with saved := some .lost }

/-- what a failure becomes when there is no transaction left to undo -/
def unended (f : Failure) : Failure := .both f (.within "rollback" (Database.notActive "rollback"))

/-- a further transaction is its body, whatever the store -/
theorem within_of_isOpen {body : Action σ α} {s : σ} (h : (storeOf s).isOpen = true) :
    within body s = body s := if_pos h

theorem within_of_open {body : Action σ α} {s : σ} {db : Database} (hs : storeOf s = .embedded db)
    (ho : db.saved.isSome) : within body s = body s :=
  within_of_isOpen (by rw [hs]; exact ho)

/-- how an action ends, as a value; then nothing that follows is passed over -/
def ending (x : Action σ α) : Action σ (Outcome α) := fun s => (.ok (x s).1, (x s).2)

theorem within_eq {body : Action σ α} {s : σ} (h : inTransaction s = false) :
    within body s = ((Action.context "begin tx" (onStore begin) : Action σ Unit) >>= fun _ =>
      ending body >>= conclude) s := by
  unfold within
  rw [if_neg (by simp [h])]
  rcases hb : Action.context "begin tx" (onStore begin) s with ⟨o, s₁⟩
  cases o with
  | ok u => rw [Action.bind_of_ok hb]; rfl
  | failed f => rw [Action.bind_of_failed hb]
  | panicked t => rw [Action.bind_of_panicked hb]

theorem storeOf_def (s : σ) : storeOf s = Part.get s := rfl

variable [LawfulPart σ Backend]

@[simp]
theorem storeOf_set (b : Backend) (s : σ) : storeOf (Part.set b s) = b := LawfulPart.get_set b s

/-- what an action does to a store, it does to the store of any state -/
theorem onStore_keepsOr {R S : Backend → Backend → Prop} {x : Action Backend α}
    (hx : KeepsOr R S x) : KeepsOr (fun s s' => R (storeOf s) (storeOf s'))
      (fun s s' => S (storeOf s) (storeOf s')) (onStore x : Action σ α) := by
  intro s
  have hstore : storeOf ((onStore x : Action σ α) s).2 = (x (storeOf s)).2 := storeOf_set _ _
  refine (hx (storeOf s)).imp (fun h => ?_) (And.imp_right fun h => ?_)
  · show R _ _
    rwa [hstore]
  · show S _ _
    rwa [hstore]

theorem onStore_joins {x : Action Backend α} (hx : Joins x) : Joins (onStore x : Action σ α) :=
  onStore_keepsOr hx

section
variable {body : Action σ α} {s s' : σ} {db : Database}

theorem inTransaction_at_rest (hs : storeOf s = .embedded db) (hr : db.saved = none) :
    inTransaction s = false := by
  show (storeOf s).isOpen = false
  rw [hs]
  show db.saved.isSome = false
  rw [hr]
  rfl

/-- at rest, a transaction is its body in the opened engine, and then its conclusion -/
theorem within_at_rest (hs : storeOf s = .embedded db) (hr : db.saved = none)
    (hc : db.closed = false) :
    within body s =
      conclude (body (Part.set (Backend.embedded (inside db db.tables)) s)).1
        (body (Part.set (Backend.embedded (inside db db.tables)) s)).2 := by
  have hb : (onStore begin : Action σ Unit) s
      = (.ok (), Part.set (Backend.embedded (inside db db.tables)) s) := by
    apply Action.on_of_eq
    show begin (storeOf s) = _
    rw [hs]
    simp [begin, Database.begin, hc, inside]
  rw [within_eq (inTransaction_at_rest hs hr), Action.context_bind_of_ok hb]
  rfl

theorem within_closed (hs : storeOf s = .embedded db) (hr : db.saved = none)
    (hc : db.closed = true) :
    within body s = (.failed (.within "begin tx" Database.isClosed), s) := by
  have hb : (onStore begin : Action σ Unit) s = (.failed Database.isClosed, s) := by
    have : (onStore begin : Action σ Unit) s
        = (.failed Database.isClosed, Part.set (storeOf s) s) := by
      apply Action.on_of_eq
      show begin (storeOf s) = _
      rw [hs]
      simp [begin, Database.begin, hc]
    rwa [storeOf_def, LawfulPart.set_get] at this
  rw [within_eq (inTransaction_at_rest hs hr), Action.context_bind_of_failed hb]

theorem rollback_apply {ts : Tables} (hs : storeOf s = .embedded db)
    (hr : db.saved = some (.start ts)) : (onStore rollback : Action σ Unit) s
      = (.ok (), Part.set (Backend.embedded { db with tables := ts, saved := none }) s) := by
  apply Action.on_of_eq
  show rollback (storeOf s) = _
  rw [hs]
  simp [rollback, Database.rollback, hr]

/-- a transaction that the engine gave up cannot be undone -/
theorem rollback_lost (hs : storeOf s = .embedded db) (hr : db.saved = some .lost) :
    (onStore rollback : Action σ Unit) s = (.failed (Database.notActive "rollback"),
      Part.set (Backend.embedded { db with saved := none }) s) := by
  apply Action.on_of_eq
  show rollback (storeOf s) = _
  rw [hs]
  simp [rollback, Database.rollback, hr]

theorem conclude_ok {a : α} (hs : storeOf s = .embedded db) (hr : db.saved ≠ some .lost) :
    (conclude (.ok a) : Action σ α) s
      = (.ok a, Part.set (Backend.embedded { db with saved := none }) s) := by
  have h : (onStore commit : Action σ Unit) s
      = (.ok (), Part.set (Backend.embedded { db with saved := none }) s) := by
    apply Action.on_of_eq
    show commit (storeOf s) = _
    rw [hs]
    simp [commit, Database.commit, hr]
  show (Action.context "commit tx" (onStore commit) >>= fun _ => pure a) s = _
  rw [Action.context_bind_of_ok h]
  rfl

theorem conclude_failed {f : Failure} {ts : Tables} (hs : storeOf s = .embedded db)
    (hr : db.saved = some (.start ts)) :
    (conclude (.failed f) : Action σ α) s
      = (.failed f, Part.set (Backend.embedded { db with tables := ts, saved := none }) s) :=
  Action.attempt_bind_of_ok (rollback_apply hs hr)

theorem conclude_panicked {t : String} {ts : Tables} (hs : storeOf s = .embedded db)
    (hr : db.saved = some (.start ts)) :
    (conclude (.panicked t) : Action σ α) s
      = (.panicked t, Part.set (Backend.embedded { db with tables := ts, saved := none }) s) :=
  Action.attempt_bind_of_ok (rollback_apply hs hr)

theorem conclude_lost_ok {a : α} (hs : storeOf s = .embedded db) (hr : db.saved = some .lost) :
    (conclude (.ok a) : Action σ α) s
      = (.failed (.within "commit tx" (Database.notActive "commit")),
        Part.set (Backend.embedded { db with saved := none }) s) := by
  have h : (onStore commit : Action σ Unit) s = (.failed (Database.notActive "commit"),
      Part.set (Backend.embedded { db with saved := none }) s) := by
    apply Action.on_of_eq
    show commit (storeOf s) = _
    rw [hs]
    simp [commit, Database.commit, hr]
  exact Action.context_bind_of_failed h

theorem conclude_lost_failed {f : Failure} (hs : storeOf s = .embedded db)
    (hr : db.saved = some .lost) : (conclude (.failed f) : Action σ α) s
      = (.failed (unended f), Part.set (Backend.embedded { db with saved := none }) s) :=
  Action.attempt_bind_of_failed (rollback_lost hs hr)

theorem conclude_lost_panicked {t : String} (hs : storeOf s = .embedded db)
    (hr : db.saved = some .lost) : (conclude (.panicked t) : Action σ α) s
      = (.panicked t, Part.set (Backend.embedded { db with saved := none }) s) :=
  Action.attempt_bind_of_failed (rollback_lost hs hr)

/-- the body of a transaction leaves the open transaction as it was, or fails for the loss of it -/
theorem body_store (hb : Joins body) (s : σ) (db : Database) :
    (∃ ts, storeOf (body (Part.set (Backend.embedded (inside db db.tables)) s)).2
      = .embedded (inside db ts)) ∨
    (∀ a, (body (Part.set (Backend.embedded (inside db db.tables)) s)).1 ≠ .ok a) ∧
      storeOf (body (Part.set (Backend.embedded (inside db db.tables)) s)).2
        = .embedded (forsaken db) := by
  refine (hb _).imp (fun h => h _ (storeOf_set _ _)) (And.imp_right fun h => ?_)
  obtain ⟨ts, hts, heq⟩ := h _ (storeOf_set _ _)
  obtain rfl : db.tables = ts := Savepoint.start.inj (Option.some.inj hts)
  exact heq

/-- a body that ends in a value is committed -/
theorem within_of_ok {a : α} {ts : Tables} (hs : storeOf s = .embedded db) (hr : db.saved = none)
    (hc : db.closed = false)
    (hbody : body (Part.set (Backend.embedded (inside db db.tables)) s) = (.ok a, s'))
    (hts : storeOf s' = .embedded (inside db ts)) :
    within body s = (.ok a, Part.set (Backend.embedded { db with tables := ts }) s') := by
  rw [within_at_rest hs hr hc, hbody, conclude_ok hts (by simp [inside])]
  simp only [inside, hr, hc]

/-- a body that fails is undone -/
theorem within_of_failed {f : Failure} {ts : Tables} (hs : storeOf s = .embedded db)
    (hr : db.saved = none) (hc : db.closed = false)
    (hbody : body (Part.set (Backend.embedded (inside db db.tables)) s) = (.failed f, s'))
    (hts : storeOf s' = .embedded (inside db ts)) :
    within body s = (.failed f, Part.set (Backend.embedded db) s') := by
  rw [within_at_rest hs hr hc, hbody, conclude_failed hts rfl, inside, ← hr]

/-- a body that fails for the loss of its transaction was undone when it lost it -/
theorem within_of_forsaken {f : Failure} (hs : storeOf s = .embedded db) (hr : db.saved = none)
    (hc : db.closed = false)
    (hbody : body (Part.set (Backend.embedded (inside db db.tables)) s) = (.failed f, s'))
    (hts : storeOf s' = .embedded (forsaken db)) :
    within body s = (.failed (unended f), Part.set (Backend.embedded db) s') := by
  rw [within_at_rest hs hr hc, hbody, conclude_lost_failed hts rfl, forsaken, ← hr]

/-- How a transaction of an engine at rest ends, by the end of its body in the opened engine. -/
inductive Concludes (db : Database) (body : Action σ α) (s : σ) : Outcome α × σ → Prop where
  | closed (hc : db.closed = true) :
      Concludes db body s (.failed (.within "begin tx" Database.isClosed), s)
  | kept (a : α) (s₁ : σ) (ts : Tables) (hc : db.closed = false)
      (hbody : body (Part.set (Backend.embedded (inside db db.tables)) s) = (.ok a, s₁))
      (hts : storeOf s₁ = .embedded (inside db ts)) :
      Concludes db body s (.ok a, Part.set (Backend.embedded { db with tables := ts }) s₁)
  | undone (f : Failure) (s₁ : σ)
      (hbody : body (Part.set (Backend.embedded (inside db db.tables)) s) = (.failed f, s₁)) :
      Concludes db body s (.failed f, Part.set (Backend.embedded db) s₁)
  | lost (f : Failure) (s₁ : σ)
      (hbody : body (Part.set (Backend.embedded (inside db db.tables)) s) = (.failed f, s₁)) :
      Concludes db body s (.failed (unended f), Part.set (Backend.embedded db) s₁)
  | aborted (t : String) (s₁ : σ)
      (hbody : body (Part.set (Backend.embedded (inside db db.tables)) s) = (.panicked t, s₁)) :
      Concludes db body s (.panicked t, Part.set (Backend.embedded db) s₁)

theorem within_concludes (hb : Joins body) (hs : storeOf s = .embedded db) (hr : db.saved = none) :
    Concludes db body s (within body s) := by
  cases hc : db.closed with
  | true =>
    rw [within_closed hs hr hc]
    exact .closed hc
  | false =>
    have hend := body_store hb s db
    rcases hx : body (Part.set (Backend.embedded (inside db db.tables)) s) with ⟨o, s₁⟩
    rw [hx] at hend
    rcases hend with ⟨ts, hts⟩ | ⟨hno, hlost⟩
    · cases o with
      | ok a =>
        rw [within_of_ok hs hr hc hx hts]
        exact .kept a s₁ ts hc hx hts
      | failed f =>
        rw [within_of_failed hs hr hc hx hts]
        exact .undone f s₁ hx
      | panicked t =>
        rw [within_at_rest hs hr hc, hx, conclude_panicked hts rfl, inside, ← hr]
        exact .aborted t s₁ hx
    · cases o with
      | ok a => exact absurd rfl (hno a)
      | failed f =>
        rw [within_of_forsaken hs hr hc hx hlost]
        exact .lost f s₁ hx
      | panicked t =>
        rw [within_at_rest hs hr hc, hx, conclude_lost_panicked hlost rfl, forsaken, ← hr]
        exact .aborted t s₁ hx

/-- **A transaction that ends in a value**: so did its body, and its tables stay. -/
theorem within_ok {a : α} (hb : Joins body) (hs : storeOf s = .embedded db)
    (hr : db.saved = none) (h : within body s = (.ok a, s')) :
    db.closed = false ∧ ∃ s₁ ts,
      body (Part.set (Backend.embedded (inside db db.tables)) s) = (.ok a, s₁) ∧
      storeOf s₁ = .embedded (inside db ts) ∧
      s' = Part.set (Backend.embedded { db with tables := ts }) s₁ := by
  have hend := within_concludes hb hs hr
  rw [h] at hend
  cases hend with
  | kept _ s₁ ts hc hbody hts => exact ⟨hc, s₁, ts, hbody, hts, rfl⟩

/-- **A transaction that fails**: the engine was closed, or the body failed and was undone. -/
theorem within_failed {f : Failure} (hb : Joins body) (hs : storeOf s = .embedded db)
    (hr : db.saved = none) (h : within body s = (.failed f, s')) :
    (f = .within "begin tx" Database.isClosed ∧ s' = s) ∨
      ∃ g s₁, body (Part.set (Backend.embedded (inside db db.tables)) s) = (.failed g, s₁) ∧
        (f = g ∨ f = unended g) ∧ s' = Part.set (Backend.embedded db) s₁ := by
  have hend := within_concludes hb hs hr
  rw [h] at hend
  cases hend with
  | closed => exact .inl ⟨rfl, rfl⟩
  | undone _ s₁ hbody => exact .inr ⟨f, s₁, hbody, .inl rfl, rfl⟩
  | lost g s₁ hbody => exact .inr ⟨g, s₁, hbody, .inr rfl, rfl⟩

/-- a transaction that does not end in a value gives the store back -/
theorem within_restores (hb : Joins body) (hs : storeOf s = .embedded db)
    (hr : db.saved = none) (h : ∀ a, (within body s).1 ≠ .ok a) :
    storeOf (within body s).2 = .embedded db := by
  have hend := within_concludes hb hs hr
  generalize within body s = r at hend h ⊢
  cases hend with
  | closed => exact hs
  | kept a => exact absurd rfl (h a)
  | undone | lost | aborted => exact storeOf_set _ _

theorem within_joins (hb : Joins body) : Joins (within body) := by
  intro s
  rcases hs : storeOf s with db | e
  · by_cases ho : db.saved.isSome
    · rw [within_of_open hs ho]
      exact hb s
    · have ho : db.saved = none := by simpa using ho
      refine .inl fun db' hs' => ?_
      obtain rfl := Backend.embedded.inj (hs.symm.trans hs')
      rcases hw : within body s with ⟨o, s'⟩
      cases o with
      | ok a =>
        obtain ⟨-, s₁, ts, -, -, rfl⟩ := within_ok hb hs ho hw
        exact ⟨ts, storeOf_set _ _⟩
      | failed f =>
        have h := within_restores hb hs ho (by rw [hw]; simp)
        rw [hw] at h
        exact ⟨db.tables, h⟩
      | panicked t =>
        have h := within_restores hb hs ho (by rw [hw]; simp)
        rw [hw] at h
        exact ⟨db.tables, h⟩
  · exact .inl fun db h => nomatch hs.symm.trans h

end

/-- what a transaction leaves alone besides the store, its body leaves alone -/
theorem within_keeps {R : σ → σ → Prop} [IsPreorder σ R] {body : Action σ α} (hb : Keeps R body)
    (hstore : ∀ (b : Backend) s, R s (Part.set b s)) : Keeps R (within body) := by
  have hon : ∀ {β : Type} (x : Action Backend β), Keeps R (onStore x : Action σ β) :=
    fun x s => hstore _ _
  intro s
  unfold within
  split
  · exact hb s
  · have hbegin : Keeps R (Action.context "begin tx" (onStore begin) : Action σ Unit) :=
      (hon begin).context
    rcases h₁ : Action.context "begin tx" (onStore begin) s with ⟨o₁, s₁⟩
    have r₁ : R s s₁ := hbegin.of_eq h₁
    cases o₁ with
    | failed f => exact r₁
    | panicked t => exact r₁
    | ok u =>
      rcases h₂ : body s₁ with ⟨o₂, s₂⟩
      have r₂ : R s₁ s₂ := hb.of_eq h₂
      have r₃ : Keeps R (conclude o₂ : Action σ α) := by
        cases o₂ with
        | ok a => exact (hon commit).context.bind fun _ => .pure _
        | failed f =>
          refine (hon rollback).attempt.bind fun r => ?_
          split
          · exact .fail _
          · exact .fail _
        | panicked t => exact (hon rollback).attempt.bind fun _ => .panicWith _
      simp only [h₂]
      exact trans_of R r₁ (trans_of R r₂ (r₃ s₂))

end OrderDesk.Store
