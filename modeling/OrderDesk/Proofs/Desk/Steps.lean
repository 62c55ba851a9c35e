import OrderDesk.Desk.Messages
import OrderDesk.Proofs.Store.Calls

/-!
# The steps of the service

How the small steps end that the service is made of, and what they leave alone.

* `stored_ok_iff`, `stored_failed_iff`     a call on the store;
* `beside`                what of the state is neither store nor a note of what happened;
* `Working`               only the tables and the notes differ: what happens inside a transaction;
* `Works x`               so it is whatever `x` ends in, or the engine gave the transaction up;
* `transaction_ok`, `transaction_outcome`, `transaction_undone`      a transaction at rest;
* `inSpan_end`            a span adds a note and nothing else;
* `createOrder_end`       a creation ends as its steps do.
-/

namespace OrderDesk.Desk

open OrderDesk.Action (Keeps KeepsOr Fixed)
open Store (Backend Database Tables TablesOnly GaveUp Joins inside forsaken unended)

instance : LawfulPart Desk Backend := ⟨fun _ _ => rfl, fun _ => rfl, fun _ _ _ => rfl⟩

variable {α : Type} {d d' : Desk} {a : α} {f : Failure}

/-! ## the smallest steps -/

@[simp]
theorem now_apply : now d = (.ok d.clock.utc, d) := rfl

@[simp]
theorem takeUuid_apply : takeUuid d = (.ok d.uuids.take.1, { d with uuids := d.uuids.take.2 }) := rfl

@[simp]
theorem log_apply {s : Scope} {l : Log.Level} {m : String} {as : Log.Attrs} : log s l m as d
    = (.ok (), { d with lines := d.lines ++ [s.logger.line l m (as ++ spanAttrs s.span)] }) := rfl

@[simp]
theorem count_apply {name : String} {labels : List (String × String)} : count name labels d
    = (.ok (), { d with meter := d.meter.add ⟨name, labels⟩ }) := rfl

theorem reach_ok_iff {c : Call} {u : Unit} : reach c d = (.ok u, d') ↔
    d.outages.lookup c = none ∧ d' = d := by
  unfold reach
  rw [Action.bind_of_ok Action.state_apply]
  cases d.outages.lookup c with
  | none => simp [eq_comm]
  | some o => cases o <;> simp

theorem reach_failed_iff {c : Call} : reach c d = (.failed f, d') ↔
    d.outages.lookup c = some (.fails f) ∧ d' = d := by
  unfold reach
  rw [Action.bind_of_ok Action.state_apply]
  cases d.outages.lookup c with
  | none => simp
  | some o => cases o <;> simp [eq_comm]

/-- whatever a call ends in before it is passed on, the state is as it was -/
theorem reach_fixed (c : Call) : Keeps (Fixed id) (reach c) := by
  intro d
  unfold reach
  rw [Action.bind_of_ok Action.state_apply]
  cases d.outages.lookup c with
  | none => rfl
  | some o => cases o <;> rfl

section
variable {c : Call} {x : Action Backend α}

theorem onStore_eq_iff {o : Outcome α} : (Store.onStore x : Action Desk α) d = (o, d') ↔
    ∃ b, x d.store = (o, b) ∧ d' = { d with store := b } := Action.on_eq_iff

theorem stored_ok_iff : stored c x d = (.ok a, d') ↔
    d.outages.lookup c = none ∧ ∃ b, x d.store = (.ok a, b) ∧ d' = { d with store := b } := by
  unfold stored
  simp only [Action.bind_ok_iff, reach_ok_iff, onStore_eq_iff]
  constructor
  · rintro ⟨_, _, ⟨hc, rfl⟩, h⟩
    exact ⟨hc, h⟩
  · rintro ⟨hc, h⟩
    exact ⟨(), d, ⟨hc, rfl⟩, h⟩

theorem stored_failed_iff : stored c x d = (.failed f, d') ↔
    (d.outages.lookup c = some (.fails f) ∧ d' = d) ∨
      d.outages.lookup c = none ∧ ∃ b, x d.store = (.failed f, b) ∧ d' = { d with store := b } := by
  unfold stored
  simp only [Action.bind_failed_iff, reach_failed_iff, reach_ok_iff, onStore_eq_iff]
  constructor
  · rintro (h | ⟨_, _, ⟨hc, rfl⟩, h⟩)
    · exact .inl h
    · exact .inr ⟨hc, h⟩
  · rintro (h | ⟨hc, h⟩)
    · exact .inl h
    · exact .inr ⟨(), d, ⟨hc, rfl⟩, h⟩

end

/-! ## what a step leaves alone -/

/-- What of the state is neither the store nor a note of what happened. -/
def beside (d : Desk) : Policy × Option Redis × Option Event.Broker × Stamp × List (Call × Outage) :=
  (d.policy, d.redis, d.broker, d.clock, d.outages)

/-- Only the tables and the notes of what happened differ. -/
def Working (d d' : Desk) : Prop := Fixed beside d d' ∧ TablesOnly d d'

instance : IsPreorder Desk Working where
  refl d := ⟨refl_of (Fixed beside) d, refl_of TablesOnly d⟩
  trans _ _ _ h₁ h₂ :=
    ⟨trans_of (Fixed beside) h₁.1 h₂.1, trans_of TablesOnly h₁.2 h₂.2⟩

/-- The engine gave up the transaction that it was in; besides the notes nothing else differs. -/
def Parting (d d' : Desk) : Prop := Fixed beside d d' ∧ GaveUp d d'

instance : Trans Working Parting Parting where
  trans h₁ h₂ := ⟨trans_of (Fixed beside) h₁.1 h₂.1, Trans.trans h₁.2 h₂.2⟩

/-- Inside a transaction the step changes tables and adds notes, or it ends in no value and the
engine gave the transaction up. -/
abbrev Works (x : Action Desk α) : Prop := KeepsOr Working Parting x

theorem Works.joins {x : Action Desk α} (hx : Works x) : Joins x :=
  hx.mono (fun _ _ h => h.2) fun _ _ h => h.2

theorem Works.beside {x : Action Desk α} (hx : Works x) : Keeps (Fixed beside) x :=
  fun d => (hx d).elim (·.1) (·.2.1)

/-- a step that leaves the state as it was leaves everything about it as it was -/
theorem works_of_fixed {x : Action Desk α} (hx : Keeps (Fixed id) x) : Works x := by
  intro d
  have h : (x d).2 = d := hx d
  rw [h]
  exact .inl (refl_of Working d)

theorem reach_works (c : Call) : Works (reach c) := works_of_fixed (reach_fixed c)

theorem takeUuid_works : Works takeUuid :=
  fun _ => .inl ⟨rfl, fun db h => ⟨db.tables, h⟩⟩

theorem now_works : Works now := (Keeps.reads _).keepsOr

theorem onStore_works {x : Action Backend α} (hx : Joins x) :
    Works (Store.onStore x : Action Desk α) := fun d =>
  (Store.onStore_joins (σ := Desk) hx d).imp (⟨rfl, ·⟩) (And.imp_right (⟨rfl, ·⟩))

theorem stored_works (c : Call) {x : Action Backend α} (hx : Joins x) : Works (stored c x) :=
  (reach_works c).bind fun _ => onStore_works hx

/-! ## transactions -/

section
variable {x : Action Desk α} {db : Database}

theorem transaction_beside (hx : Works x) : Keeps (Fixed beside) (transaction x) :=
  (reach_works _).beside.bind fun _ => Store.within_keeps hx.beside fun _ _ => rfl

theorem transaction_ok (hx : Works x) (hs : d.store = .embedded db) (hr : db.saved = none)
    (h : transaction x d = (.ok a, d')) :
    d.outages.lookup .transaction = none ∧ db.closed = false ∧ ∃ d₁ ts,
      x { d with store := .embedded (inside db db.tables) } = (.ok a, d₁) ∧
      d₁.store = .embedded (inside db ts) ∧
      d' = { d₁ with store := .embedded { db with tables := ts } } := by
  unfold transaction at h
  rw [Action.bind_ok_iff] at h
  obtain ⟨_, _, hc, h⟩ := h
  obtain ⟨hc, rfl⟩ := reach_ok_iff.mp hc
  obtain ⟨ho, d₁, ts, hbody, hts, rfl⟩ := Store.within_ok hx.joins hs hr h
  exact ⟨hc, ho, d₁, ts, hbody, hts, rfl⟩

/-- a transaction on an engine at rest runs its body inside, and concludes -/
theorem transaction_apply (hc : d.outages.lookup .transaction = none)
    (hs : d.store = .embedded db) (hr : db.saved = none) (ho : db.closed = false) :
    transaction x d = Store.conclude (x { d with store := .embedded (inside db db.tables) }).1
      (x { d with store := .embedded (inside db db.tables) }).2 := by
  have hreach : reach .transaction d = (.ok (), d) := reach_ok_iff.mpr ⟨hc, rfl⟩
  unfold transaction
  rw [Action.bind_of_ok hreach, Store.within_at_rest (s := d) hs hr ho]
  rfl

/-- a transaction on an engine at rest ends as its body does, if that leaves it open -/
theorem transaction_outcome {ts : Tables} (hc : d.outages.lookup .transaction = none)
    (hs : d.store = .embedded db) (hr : db.saved = none) (ho : db.closed = false)
    (hts : (x { d with store := .embedded (inside db db.tables) }).2.store
      = .embedded (inside db ts)) :
    (transaction x d).1 = (x { d with store := .embedded (inside db db.tables) }).1 := by
  rw [transaction_apply hc hs hr ho]
  rcases h : x { d with store := .embedded (inside db db.tables) } with ⟨o, d₁⟩
  replace hts : Store.storeOf d₁ = .embedded (inside db ts) := by rwa [h] at hts
  dsimp only
  cases o with
  | ok a => rw [Store.conclude_ok hts (by simp [inside])]
  | failed f => rw [Store.conclude_failed hts rfl]
  | panicked t => rw [Store.conclude_panicked hts rfl]

theorem transaction_of_ok {d₁ : Desk} (hx : Works x)
    (hc : d.outages.lookup .transaction = none) (hs : d.store = .embedded db)
    (hr : db.saved = none) (ho : db.closed = false)
    (h : x { d with store := .embedded (inside db db.tables) } = (.ok a, d₁)) :
    ∃ d', transaction x d = (.ok a, d') := by
  obtain ⟨ts, hts⟩ : ∃ ts, d₁.store = .embedded (inside db ts) :=
    (hx.of_ok h).2 (inside db db.tables) rfl
  have hend := transaction_outcome (x := x) hc hs hr ho (by rw [h]; exact hts)
  rw [h] at hend
  exact ⟨(transaction x d).2, Prod.ext hend rfl⟩

theorem transaction_of_failed {d₁ : Desk} {ts : Tables}
    (hc : d.outages.lookup .transaction = none) (hs : d.store = .embedded db)
    (hr : db.saved = none) (ho : db.closed = false)
    (h : x { d with store := .embedded (inside db db.tables) } = (.failed f, d₁))
    (hts : d₁.store = .embedded (inside db ts)) :
    ∃ d', transaction x d = (.failed f, d') := by
  have hend := transaction_outcome (x := x) hc hs hr ho (by rw [h]; exact hts)
  rw [h] at hend
  exact ⟨(transaction x d).2, Prod.ext hend rfl⟩

/-- a body that made the engine give up leaves no transaction to undo -/
theorem transaction_of_forsaken {d₁ : Desk}
    (hc : d.outages.lookup .transaction = none) (hs : d.store = .embedded db)
    (hr : db.saved = none) (ho : db.closed = false)
    (h : x { d with store := .embedded (inside db db.tables) } = (.failed f, d₁))
    (hts : d₁.store = .embedded (forsaken db)) :
    transaction x d = (.failed (unended f), { d₁ with store := .embedded db }) := by
  rw [transaction_apply hc hs hr ho, h]
  refine (Store.conclude_lost_failed (s := d₁) hts rfl).trans ?_
  rw [forsaken, ← hr]
  rfl

/-- a transaction that does not end in a value leaves the store as it was -/
theorem transaction_undone (hx : Works x) (hs : d.store = .embedded db)
    (hr : db.saved = none) (h : ∀ a, (transaction x d).1 ≠ .ok a) :
    (transaction x d).2.store = d.store := by
  rcases hreach : reach .transaction d with ⟨o, d₁⟩
  have hd : d₁ = d := (reach_fixed .transaction).of_eq hreach
  subst hd
  unfold transaction at h ⊢
  cases o with
  | failed f => rw [Action.bind_of_failed hreach]
  | panicked t => rw [Action.bind_of_panicked hreach]
  | ok u =>
    rw [Action.bind_of_ok hreach] at h ⊢
    rw [hs]
    exact Store.within_restores hx.joins hs hr h

end

/-! ## spans -/

/-- a span adds a note before and after what runs in it -/
theorem inSpan_end {name : String} {server : Bool} {attrs : Telemetry.Attrs} {s : Scope}
    {ending : Except Failure α → Telemetry.Ending} {body : Scope → Action Desk α} {o : Outcome α}
    (h : inSpan name server attrs s ending body d = (o, d')) :
    ∃ s' t t' d₁, body s' { d with tracer := t } = (o, d₁) ∧ d' = { d₁ with tracer := t' } := by
  obtain ⟨ho, hd⟩ := Prod.mk.inj h
  exact ⟨_, _, _, _, Prod.ext ho rfl, hd.symm⟩

/-- **A creation ends as its steps do**: around them a span is noted, and a failure is counted. -/
theorem createOrder_end {s : Scope} {r : OrderRequest} {o : Outcome Summary}
    (h : createOrder s r d = (o, d')) : ∃ s' t t' m d₁,
      createUnmeasured s' r { d with tracer := t } = (o, d₁) ∧
        d' = { d₁ with tracer := t', meter := m } := by
  obtain ⟨s', t, t', d₂, hbody, rfl⟩ := inSpan_end h
  rcases hrun : createUnmeasured s' r { d with tracer := t } with ⟨out, d₁⟩
  unfold Action.orElse at hbody
  rw [hrun] at hbody
  cases out with
  | ok a | panicked text =>
    obtain ⟨rfl, rfl⟩ := Prod.mk.inj hbody
    exact ⟨s', t, t', d₁.meter, d₁, hrun, rfl⟩
  | failed f =>
    obtain ⟨rfl, rfl⟩ := Prod.mk.inj (show (Outcome.failed f, _) = (o, d₂) from hbody)
    exact ⟨s', t, t', _, d₁, hrun, rfl⟩

end OrderDesk.Desk
