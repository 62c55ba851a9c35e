import OrderDesk.Proofs.Desk.Keyed
import OrderDesk.Proofs.Desk.Readers

/-!
# Readings, moves and removals of one order, side by side

A move of an order has two steps: its transaction, and its write to the cache, which puts what the
transaction committed in the place of whatever is cached. A removal has two steps as well: its
transaction, and the mark that it leaves in the cache. Between the steps of one call any other call
on the order takes its own.

* `MoveStage`, `RemovalStage`, `Task`     calls on an order, and where they stand;
* `Floor`, `Floor.Step`                   such calls side by side;
* `Task.Turned`, `Task.turned`            what one step of a call does;
* `Floor.Sound`, `Floor.Sealed`           what is kept by every step;
* `changeStatus_steps`, `deleteOrder_steps`      whole calls are made of the steps of one;
* `removal_final_unless_pending`          a removed order is read no more, unless a committed move
                                          still has its write to the cache ahead of it.
-/

namespace OrderDesk.Desk

open OrderDesk.Action (Keeps)
open Store (Backend Database Tables inside)

/-! ## calls in steps -/

/-- Where a move stands. -/
inductive MoveStage where
  | begun (target : Status)
  | committed (before after : Order)
  | ended (out : Outcome Unit)

/-- Where a removal stands. -/
inductive RemovalStage where
  | begun
  | committed
  | ended (out : Outcome Unit)

/-- A call on an order, and where it stands. -/
inductive Task where
  | reading (st : Stage)
  | moving (st : MoveStage)
  | removing (st : RemovalStage)

namespace Task

/-- no step of the call was made -/
inductive Begun : Task → Prop where
  | reading : Begun (.reading .asked)
  | moving (target : Status) : Begun (.moving (.begun target))
  | removing : Begun (.removing .begun)

/-- a committed move that is not cached yet -/
inductive Pending : Task → Prop where
  | committed (before after : Order) : Pending (.moving (.committed before after))

theorem pending_iff {t : Task} :
    t.Pending ↔ ∃ before after, t = .moving (.committed before after) := by
  constructor
  · rintro ⟨before, after⟩
    exact ⟨before, after, rfl⟩
  · rintro ⟨before, after, rfl⟩
    exact .committed before after

/-- a removal whose transaction went through, and that did not fail -/
inductive Erased : Task → Prop where
  | committed : Erased (.removing .committed)
  | ended : Erased (.removing (.ended (.ok ())))

/-- the next step of a call on the order `id` -/
def next (s : Scope) (id : Int) : Task → Action Desk Task
  | reading st => do return reading (← st.next s id)
  | moving (.begun target) => do
    let (before, after) ← moveStored id target
    return moving (.committed before after)
  | moving (.committed before after) => do
    afterMove s id before after
    return moving (.ended (.ok ()))
  | moving (.ended out) => return moving (.ended out)
  | removing .begun => do
    eraseStored id
    return removing .committed
  | removing .committed => do
    log s .info "order deleted" [("order_id", .int id)]
    evictOrder s id
    return removing (.ended (.ok ()))
  | removing (.ended out) => return removing (.ended out)

def failed (f : Failure) : Task → Task
  | reading _ => reading (.answered (.failed f))
  | moving _ => moving (.ended (.failed f))
  | removing _ => removing (.ended (.failed f))

def panicked (text : String) : Task → Task
  | reading _ => reading (.answered (.panicked text))
  | moving _ => moving (.ended (.panicked text))
  | removing _ => removing (.ended (.panicked text))

def after (t : Task) : Outcome Task → Task
  | .ok t' => t'
  | .failed f => t.failed f
  | .panicked text => t.panicked text

end Task

/-- The service with the calls on one order, in the order in which they came. -/
structure Floor where
  desk : Desk
  tasks : List (Scope × Task) := []

def Floor.turn (id : Int) (l : Floor) (i : Nat) : Floor :=
  match l.tasks[i]? with
  | none => l
  | some (s, t) =>
    let (out, d) := t.next s id l.desk
    { desk := d, tasks := l.tasks.set i (s, t.after out) }

/-- The keyspace answers, and orders can be asked for. -/
structure Serving (d : Desk) : Prop where
  answering : Answering d
  reachable : d.outages.lookup .getOrder = none

/-- The store is as it was, and so is what is cached for the order; anything else may have
changed. -/
structure Undisturbed (id : Int) (d d' : Desk) : Prop where
  store : d'.store = d.store
  cached : cachedFor id d' = cachedFor id d
  serving : Serving d'

/-- What may happen next: a call comes or goes on, or some time passes. -/
inductive Floor.Step (id : Int) (l : Floor) : Floor → Prop where
  | come (s : Scope) {t : Task} (ht : t.Begun) : Step id l { l with tasks := l.tasks ++ [(s, t)] }
  | turn (i : Nat) : Step id l (l.turn id i)
  | lull {d : Desk} (hd : Undisturbed id l.desk d) : Step id l { l with desk := d }

/-! ## what a step of a call does -/

section
variable {s : Scope} {id : Int} {d d' : Desk} {db : Database} {ts ts' : Tables} {t : Task}

theorem Serving.of_terms (h : Serving d) (ht : terms d' = terms d) : Serving d' := by
  refine ⟨h.answering.of_terms ht, ?_⟩
  have hout : d'.outages = d.outages := congrArg (fun t => t.2.2.1) ht
  rw [hout]
  exact h.reachable

theorem moveStored_ok {target : Status} {moved : Order × Order} (hs : d.store = .embedded db)
    (hr : db.saved = none) (h : moveStored id target d = (.ok moved, d')) :
    ¬ db.tables.Lacks id ∧ moved.2.id = id ∧ Writes [] { d with store := d'.store } d' ∧
      ∃ ts, d'.store = .embedded { db with tables := ts } := by
  obtain ⟨d₁, ts, hbody, -, hs', hwrites⟩ :=
    transaction_commits (W := []) (moveOrder_works id target) hs hr h
  obtain ⟨hreads, hmove, -⟩ := moveOrder_reads rfl hbody
  exact ⟨fun hlacks => hlacks.not_reads hreads, (moveTo_id hmove).trans hreads.id_eq, hwrites,
    ts, hs'⟩

theorem eraseStored_ok (hs : d.store = .embedded db) (hr : db.saved = none)
    (h : eraseStored id d = (.ok (), d')) : Writes [] { d with store := d'.store } d' ∧
      ∃ ts, d'.store = .embedded { db with tables := ts } ∧ ts.Lacks id := by
  obtain ⟨d₁, ts, hbody, hts, hs', hwrites⟩ :=
    transaction_commits (W := []) (eraseOrder_works id) hs hr h
  obtain ⟨book, lines, -, -, hstore⟩ := eraseOrder_ok rfl rfl hbody
  refine ⟨hwrites, ts, hs', ?_⟩
  rw [hts] at hstore
  have hsame : ts = _ := congrArg Database.tables (Backend.embedded.inj hstore)
  rw [hsame]
  exact ⟨_, rfl, Store.Table.get?_erase_self book id⟩

/-- What one step of a call does. An order that is not there does not come back, and a mark that is
cached stays, unless the call is a move that was committed before. -/
structure Task.Turned (id : Int) (ts ts' : Tables) (d d' : Desk) (t t' : Task) : Prop where
  terms : terms d' = terms d
  lacks : ts.Lacks id → ts'.Lacks id
  erased : t'.Erased → t.Erased ∨ ts'.Lacks id
  pending : ∀ before after, t' = .moving (.committed before after) → after.id = id ∧ ¬ ts.Lacks id
  mark : ts.Lacks id → ¬ t.Pending → cachedFor id d = some OrderCache.tombstone →
    cachedFor id d' = some OrderCache.tombstone

theorem turned_of_quiet {t' : Task} (hterms : terms d' = terms d)
    (herased : ¬ t'.Erased) (hpending : ¬ t'.Pending) (hlacks : ts.Lacks id → ts'.Lacks id)
    (hmark : ts.Lacks id → ¬ t.Pending → cachedFor id d = some OrderCache.tombstone →
      cachedFor id d' = some OrderCache.tombstone) : Task.Turned id ts ts' d d' t t' where
  terms := hterms
  lacks := hlacks
  erased h := absurd h herased
  pending before after h := absurd (Task.pending_iff.mpr ⟨before, after, h⟩) hpending
  mark := hmark

theorem turned_of_idle {t' : Task} (hs : d.store = .embedded db) (hwrites : Writes [] d d')
    (herased : ¬ t'.Erased) (hpending : ¬ t'.Pending) : d'.store = .embedded db ∧
      Task.Turned id db.tables db.tables d d' t t' := by
  refine ⟨hwrites.store.trans hs, turned_of_quiet hwrites.terms herased hpending (fun h => h)
    fun _ _ hmark => ?_⟩
  rw [hwrites.cachedFor_eq List.not_mem_nil]
  exact hmark

/-- a call whose step ended in no value is over -/
theorem Task.after_quiet {out : Outcome Task} (t : Task) (h : ∀ t', out ≠ .ok t') :
    ¬ (t.after out).Erased ∧ ¬ (t.after out).Pending := by
  cases out with
  | ok t' => exact absurd rfl (h t')
  | failed f => cases t <;> exact ⟨(fun h => by cases h), fun h => by cases h⟩
  | panicked text => cases t <;> exact ⟨(fun h => by cases h), fun h => by cases h⟩

/-- a step that is an action `x` and what is made of its value: it does what `x` does, and either
the call goes on from that value or it is over -/
theorem Task.next_ends {α : Type} {x : Action Desk α} {g : α → Task}
    (h : t.next s id = x >>= fun a => pure (g a)) (d : Desk) : (t.next s id d).2 = (x d).2 ∧
      ((∃ a, x d = (.ok a, (x d).2) ∧ t.after (t.next s id d).1 = g a) ∨
        (∀ a, (x d).1 ≠ .ok a) ∧ ¬ (t.after (t.next s id d).1).Erased ∧
          ¬ (t.after (t.next s id d).1).Pending) := by
  rw [h]
  refine ⟨Action.bind_pure_snd x g d, ?_⟩
  rcases Action.bind_ends x (fun a => pure (g a)) d with ⟨a, d₁, hrun, hend⟩ | ⟨hno, hno', -⟩
  · rw [hend, hrun]
    exact .inl ⟨a, rfl, rfl⟩
  · exact .inr ⟨hno, t.after_quiet hno'⟩

/-! ### readers -/

/-- What is cached for an order stays. -/
def Stays (id : Int) (d d' : Desk) : Prop :=
  (cachedFor id d).isSome → cachedFor id d' = cachedFor id d

instance (id : Int) : IsPreorder Desk (Stays id) where
  refl _ _ := rfl
  trans _ _ _ h₁ h₂ h := by
    have hsame := h₁ h
    exact (h₂ (hsame ▸ h)).trans hsame

theorem fillCache_stays (s : Scope) (j : Int) (o : Order) :
    Keeps (Stays id) (fillCache s j o) := by
  have hfill : ∀ nanos k, (k.keys.get? (OrderCache.key id)).isSome →
      (OrderCache.fill nanos o k).2.keys.get? (OrderCache.key id)
        = k.keys.get? (OrderCache.key id) := by
    intro nanos k hk
    unfold OrderCache.fill
    cases OrderCache.encode o with
    | error f => rfl
    | ok raw =>
      have hput : (Redis.putNew (OrderCache.key o.id) raw nanos k).2.keys.get? (OrderCache.key id)
          = k.keys.get? (OrderCache.key id) := Redis.putNew_present hk
      rw [Action.bind_of_ok Action.ofExcept_ok,
        Action.bind_pure_snd (Redis.putNew (OrderCache.key o.id) raw nanos) (fun _ => ()) k]
      exact hput
  have hkept : ∀ nanos, Keeps (Stays id) (kept () (OrderCache.fill nanos o)) := fun nanos =>
    kept_entry (Q := fun e e' => (e.map Redis.Entry.value).isSome →
      e'.map Redis.Entry.value = e.map Redis.Entry.value) (fun _ _ => rfl) () fun k hk => by
        rw [hfill nanos k (by rwa [Option.isSome_map] at hk)]
  refine Keeps.bind .state fun d => Keeps.bind (hkept _).attempt fun r => ?_
  cases r with
  | ok u => exact .pure ()
  | error f => exact fun _ _ => rfl

/-- a reader leaves the store as it is, and a mark of an order that is not there -/
theorem Stage.next_leaves (s : Scope) (st : Stage) (hd : Serving d) (hs : d.store = .embedded db) :
    terms (st.next s id d).2 = terms d ∧ (st.next s id d).2.store = d.store ∧
      (db.tables.Lacks id → cachedFor id d = some OrderCache.tombstone →
        cachedFor id (st.next s id d).2 = some OrderCache.tombstone) := by
  cases st with
  | asked =>
    have hwrites : Keeps (Writes [OrderCache.key id]) (Stage.asked.next s id) :=
      (cachedOrder_writes s id List.mem_cons_self).bind fun found => by
        cases found <;> exact .pure _
    have hnext : Writes [OrderCache.key id] d (Stage.asked.next s id d).2 := hwrites d
    refine ⟨hnext.terms, hnext.store, fun hlacks hmark => ?_⟩
    rcases cachedOrder_agrees s hd.answering (hmark ▸ Agrees.mark hlacks) with
      hlook | ⟨o, o', -, hread, -⟩
    · have hmissed : Stage.asked.next s id d = (.ok .missed, d) := Action.bind_of_ok hlook
      rw [hmissed]
      exact hmark
    · exact absurd hread hlacks.not_reads
  | missed =>
    have hlooks : Keeps (Looks []) (Stage.missed.next s id) :=
      (stored_looks _ (Store.Orders.read_readOnly false id)).bind fun _ => .pure _
    have hnext : Writes [] d (Stage.missed.next s id d).2 := hlooks d ⟨db, hs⟩
    refine ⟨hnext.terms, hnext.store, fun _ hmark => ?_⟩
    rw [hnext.cachedFor_eq List.not_mem_nil]
    exact hmark
  | loaded o =>
    have hwrites : Keeps (Writes [OrderCache.key o.id]) ((Stage.loaded o).next s id) :=
      (fillCache_writes s id o List.mem_cons_self).bind fun _ => .pure _
    have hstays : Keeps (Stays id) ((Stage.loaded o).next s id) :=
      (fillCache_stays s id o).bind fun _ => .pure _
    have hnext : Writes [OrderCache.key o.id] d ((Stage.loaded o).next s id d).2 := hwrites d
    have hsame : Stays id d ((Stage.loaded o).next s id d).2 := hstays d
    refine ⟨hnext.terms, hnext.store, fun _ hmark => ?_⟩
    rw [hsame (by rw [hmark]; rfl)]
    exact hmark
  | answered out => exact ⟨rfl, rfl, fun _ h => h⟩

theorem reading_turned (s : Scope) (st : Stage) (hd : Serving d) (hs : d.store = .embedded db) :
    ((Task.reading st).next s id d).2.store = .embedded db ∧
      Task.Turned id db.tables db.tables d ((Task.reading st).next s id d).2 (.reading st)
        ((Task.reading st).after ((Task.reading st).next s id d).1) := by
  obtain ⟨hterms, hstore, hmark⟩ := st.next_leaves s hd hs
  obtain ⟨hstate, hend⟩ :=
    Task.next_ends (t := .reading st) (x := st.next s id) (g := Task.reading) rfl d
  rw [hstate]
  refine ⟨hstore.trans hs, ?_⟩
  rcases hend with ⟨st', -, hafter⟩ | ⟨-, herased, hpending⟩
  · rw [hafter]
    exact turned_of_quiet hterms nofun nofun (fun h => h) fun h _ => hmark h
  · exact turned_of_quiet hterms herased hpending (fun h => h) fun h _ => hmark h

/-! ### moves and removals -/

theorem moving_turned (s : Scope) (st : MoveStage) (hs : d.store = .embedded db)
    (hr : db.saved = none) : ∃ ts,
      ((Task.moving st).next s id d).2.store = .embedded { db with tables := ts } ∧
      Task.Turned id db.tables ts d ((Task.moving st).next s id d).2 (.moving st)
        ((Task.moving st).after ((Task.moving st).next s id d).1) := by
  cases st with
  | begun target =>
    obtain ⟨hstate, hend⟩ := Task.next_ends (t := .moving (.begun target))
      (x := moveStored id target) (g := fun moved => .moving (.committed moved.1 moved.2)) rfl d
    rw [hstate]
    rcases hend with ⟨moved, hrun, hafter⟩ | ⟨hno, herased, hpending⟩
    · obtain ⟨hthere, hid, hwrites, ts, hs₁⟩ := moveStored_ok hs hr hrun
      rw [hafter]
      refine ⟨ts, hs₁, hwrites.terms, fun h => absurd h hthere, nofun, ?_, fun h => absurd h hthere⟩
      rintro before after ⟨⟩
      exact ⟨hid, hthere⟩
    · exact ⟨db.tables, turned_of_idle hs
        (transaction_idle (moveOrder_works id target) hs hr hno) herased hpending⟩
  | committed before after =>
    have hkeeps : Keeps (Writes [OrderCache.key after.id]) (afterMove s id before after) :=
      afterMove_writes s id before after List.mem_cons_self
    have hwrites : Writes _ d (afterMove s id before after d).2 := hkeeps d
    have hpending : Task.Pending (.moving (.committed before after)) := .committed before after
    obtain ⟨hstate, hend⟩ := Task.next_ends (t := .moving (.committed before after))
      (x := afterMove s id before after) (g := fun _ => .moving (.ended (.ok ()))) rfl d
    rw [hstate]
    refine ⟨db.tables, hwrites.store.trans hs, ?_⟩
    rcases hend with ⟨_, -, hafter⟩ | ⟨-, herased, hquiet⟩
    · rw [hafter]
      exact turned_of_quiet hwrites.terms nofun nofun (fun h => h) fun _ hn => absurd hpending hn
    · exact turned_of_quiet hwrites.terms herased hquiet (fun h => h)
        fun _ hn => absurd hpending hn
  | ended out => exact ⟨db.tables, hs, turned_of_quiet rfl nofun nofun (fun h => h) fun _ _ h => h⟩

/-- a removal that was committed leaves its mark, and returns -/
theorem mark_left (s : Scope) (hd : Answering d) :
    ∃ d', (Task.removing .committed).next s id d = (.ok (.removing (.ended (.ok ()))), d') ∧
      Writes [OrderCache.key id] d d' ∧ cachedFor id d' = some OrderCache.tombstone := by
  obtain ⟨_, d₁, hlog, hd₁⟩ := log_passing s .info "order deleted" [("order_id", .int id)] d hd
  obtain ⟨d₂, hput, left, hentry⟩ :=
    hd₁.kept_put (OrderCache.key id) OrderCache.tombstone d₁.policy.cacheTime
  have hevict : evictOrder s id d₁ = (.ok (), d₂) := warnOnFailure_ok s _ _ hput
  refine ⟨d₂, ?_, ?_, congrArg (Option.map Redis.Entry.value) hentry⟩
  · show (log s .info "order deleted" [("order_id", .int id)] >>= fun _ =>
      evictOrder s id >>= fun _ => pure (Task.removing (.ended (.ok ())))) d = _
    rw [Action.bind_of_ok hlog, Action.bind_of_ok hevict]
    rfl
  · have hfirst : Writes [OrderCache.key id] d d₁ := (log_writes _ _ _ _).of_eq hlog
    have hsecond : Writes [OrderCache.key id] d₁ d₂ :=
      (evictOrder_writes s id List.mem_cons_self).of_eq hevict
    exact trans_of (Writes _) hfirst hsecond

theorem removing_turned (s : Scope) (st : RemovalStage) (hd : Serving d)
    (hs : d.store = .embedded db) (hr : db.saved = none) : ∃ ts,
      ((Task.removing st).next s id d).2.store = .embedded { db with tables := ts } ∧
      Task.Turned id db.tables ts d ((Task.removing st).next s id d).2 (.removing st)
        ((Task.removing st).after ((Task.removing st).next s id d).1) := by
  cases st with
  | begun =>
    obtain ⟨hstate, hend⟩ := Task.next_ends (t := .removing .begun) (x := eraseStored id)
      (g := fun _ => .removing .committed) rfl d
    rw [hstate]
    rcases hend with ⟨_, hrun, hafter⟩ | ⟨hno, herased, hpending⟩
    · obtain ⟨hwrites, ts, hs₁, hlacks⟩ := eraseStored_ok hs hr hrun
      have hsame : cachedFor id (eraseStored id d).2 = cachedFor id d :=
        hwrites.cachedFor_eq List.not_mem_nil
      rw [hafter]
      exact ⟨ts, hs₁, hwrites.terms, fun _ => hlacks, fun _ => .inr hlacks,
        (fun _ _ h => by cases h), fun _ _ hmark => hsame.trans hmark⟩
    · exact ⟨db.tables, turned_of_idle hs
        (transaction_idle (eraseOrder_works id) hs hr hno) herased hpending⟩
  | committed =>
    obtain ⟨d₁, hnext, hwrites, hmark⟩ := mark_left s hd.answering
    rw [hnext]
    have hturned : Task.Turned id db.tables db.tables d d₁ (.removing .committed)
        (.removing (.ended (.ok ()))) :=
      ⟨hwrites.terms, fun h => h, fun _ => .inl .committed, (fun _ _ h => by cases h),
        fun _ _ _ => hmark⟩
    exact ⟨db.tables, hwrites.store.trans hs, hturned⟩
  | ended out =>
    have hturned : Task.Turned id db.tables db.tables d d (.removing (.ended out))
        (.removing (.ended out)) :=
      ⟨rfl, fun h => h, .inl, (fun _ _ h => by cases h), fun _ _ h => h⟩
    exact ⟨db.tables, hs, hturned⟩

/-- **One step of a call**, whichever it is. -/
theorem Task.turned (s : Scope) (t : Task) (hd : Serving d) (hs : d.store = .embedded db)
    (hr : db.saved = none) : ∃ ts, (t.next s id d).2.store = .embedded { db with tables := ts } ∧
      Task.Turned id db.tables ts d (t.next s id d).2 t (t.after (t.next s id d).1) := by
  cases t with
  | reading st => exact ⟨db.tables, reading_turned s st hd hs⟩
  | moving st => exact moving_turned s st hs hr
  | removing st => exact removing_turned s st hd hs hr

end

/-! ## what is kept -/

/-- What is kept by every step: the engine is open and at rest, a removed order is not there, and a
move that is not cached yet is one of this order. -/
structure Floor.Sound (id : Int) (l : Floor) (db : Database) : Prop where
  serving : Serving l.desk
  store : l.desk.store = .embedded db
  isOpen : db.closed = false
  atRest : db.saved = none
  erased : ∀ p ∈ l.tasks, p.2.Erased → db.tables.Lacks id
  pending : ∀ p ∈ l.tasks, ∀ before after, p.2 = .moving (.committed before after) → after.id = id

/-- A call that came too late to find the order. -/
inductive Task.Barred (id : Int) : Task → Prop where
  | asked : Barred id (.reading .asked)
  | missed : Barred id (.reading .missed)
  | refused : Barred id (.reading (.answered (.failed (.cause (Store.Orders.missing id)))))
  | moving (st : MoveStage) : Barred id (.moving st)
  | removing (st : RemovalStage) : Barred id (.removing st)

/-- The order is not there, the mark of its removal is cached, and no move is about to replace it.
The calls from the `n`-th on came too late. -/
structure Floor.Sealed (id : Int) (n : Nat) (l : Floor) (db : Database) : Prop where
  lacks : db.tables.Lacks id
  mark : cachedFor id l.desk = some OrderCache.tombstone
  quiet : ∀ p ∈ l.tasks, ¬ p.2.Pending
  barred : ∀ i p, n ≤ i → l.tasks[i]? = some p → p.2.Barred id

section
variable {id : Int} {n : Nat} {l l' : Floor} {db : Database} {d : Desk}

theorem Floor.turn_of_none {i : Nat} (hi : l.tasks[i]? = none) : l.turn id i = l := by
  unfold Floor.turn
  rw [hi]

theorem Floor.turn_of_some {i : Nat} {s : Scope} {t : Task} (hi : l.tasks[i]? = some (s, t)) :
    l.turn id i = ⟨(t.next s id l.desk).2,
      l.tasks.set i (s, t.after (t.next s id l.desk).1)⟩ := by
  unfold Floor.turn
  rw [hi]

theorem Task.Begun.quiet {t : Task} (h : t.Begun) : ¬ t.Erased ∧ ¬ t.Pending := by
  cases h <;> exact ⟨(fun h => by cases h), fun h => by cases h⟩

theorem Task.Begun.barred {t : Task} (h : t.Begun) : t.Barred id := by
  cases h with
  | reading => exact .asked
  | moving target => exact .moving _
  | removing => exact .removing _

/-! ### a call comes, and time passes -/

theorem Floor.Sound.come (hl : l.Sound id db) (s : Scope) {t : Task} (ht : t.Begun) :
    ({ l with tasks := l.tasks ++ [(s, t)] } : Floor).Sound id db := by
  obtain ⟨hnew, hquiet⟩ := ht.quiet
  refine ⟨hl.serving, hl.store, hl.isOpen, hl.atRest, fun p hp herased => ?_,
    fun p hp before after hmove => ?_⟩
  · rcases List.mem_append.mp hp with hp | hp
    · exact hl.erased p hp herased
    · rw [List.mem_singleton.mp hp] at herased
      exact absurd herased hnew
  · rcases List.mem_append.mp hp with hp | hp
    · exact hl.pending p hp before after hmove
    · rw [List.mem_singleton.mp hp] at hmove
      exact absurd (Task.pending_iff.mpr ⟨before, after, hmove⟩) hquiet

theorem Floor.Sealed.come (hl : l.Sealed id n db) (s : Scope) {t : Task} (ht : t.Begun) :
    ({ l with tasks := l.tasks ++ [(s, t)] } : Floor).Sealed id n db := by
  refine ⟨hl.lacks, hl.mark, fun p hp => ?_, fun i p hi hp => ?_⟩
  · rcases List.mem_append.mp hp with hp | hp
    · exact hl.quiet p hp
    · rw [List.mem_singleton.mp hp]
      exact ht.quiet.2
  · rcases Nat.lt_or_ge i l.tasks.length with hlt | hge
    · rw [List.getElem?_append_left hlt] at hp
      exact hl.barred i p hi hp
    · rw [List.getElem?_append_right hge] at hp
      obtain rfl : (s, t) = p := List.mem_singleton.mp (List.mem_of_getElem? hp) |>.symm
      exact ht.barred

theorem Floor.Sound.lull (hl : l.Sound id db) (hd : Undisturbed id l.desk d) :
    ({ l with desk := d } : Floor).Sound id db :=
  ⟨hd.serving, hd.store.trans hl.store, hl.isOpen, hl.atRest, hl.erased, hl.pending⟩

theorem Floor.Sealed.lull (hl : l.Sealed id n db) (hd : Undisturbed id l.desk d) :
    ({ l with desk := d } : Floor).Sealed id n db :=
  ⟨hl.lacks, hd.cached.trans hl.mark, hl.quiet, hl.barred⟩

/-! ### a call goes on -/

theorem ok_of_bind_pure {α β : Type} {x : Action Desk α} {g : α → β} {b : β}
    (h : ((x >>= fun a => pure (g a)) d).1 = .ok b) : ∃ a, b = g a := by
  obtain ⟨a, d₁, -, hpure⟩ := Action.bind_ok_iff.mp (Prod.ext h rfl)
  exact ⟨a, (Outcome.ok.inj (congrArg Prod.fst hpure)).symm⟩

theorem moving_after (s : Scope) (st : MoveStage) (d : Desk) :
    ∃ st', (Task.moving st).after ((Task.moving st).next s id d).1 = .moving st' := by
  cases h : ((Task.moving st).next s id d).1 with
  | ok t' =>
    cases st with
    | begun target =>
      obtain ⟨moved, rfl⟩ := ok_of_bind_pure (x := moveStored id target)
        (g := fun moved => Task.moving (.committed moved.1 moved.2)) h
      exact ⟨_, rfl⟩
    | committed before after =>
      obtain ⟨_, rfl⟩ := ok_of_bind_pure (x := afterMove s id before after)
        (g := fun _ => Task.moving (.ended (.ok ()))) h
      exact ⟨_, rfl⟩
    | ended out => exact ⟨.ended out, (Outcome.ok.inj h).symm⟩
  | failed f => exact ⟨_, rfl⟩
  | panicked text => exact ⟨_, rfl⟩

theorem removing_after (s : Scope) (st : RemovalStage) (hd : Answering d) :
    ∃ st', (Task.removing st).after ((Task.removing st).next s id d).1 = .removing st' := by
  cases h : ((Task.removing st).next s id d).1 with
  | ok t' =>
    cases st with
    | begun =>
      obtain ⟨_, rfl⟩ := ok_of_bind_pure (x := eraseStored id)
        (g := fun _ => Task.removing .committed) h
      exact ⟨_, rfl⟩
    | committed =>
      obtain ⟨d₁, hnext, -⟩ := mark_left s hd
      rw [hnext] at h
      exact ⟨_, (Outcome.ok.inj h).symm⟩
    | ended out => exact ⟨.ended out, (Outcome.ok.inj h).symm⟩
  | failed f => exact ⟨_, rfl⟩
  | panicked text => exact ⟨_, rfl⟩

/-- **A call that came too late** does not find the order. -/
theorem Task.Barred.after {s : Scope} {t : Task} (h : t.Barred id) (hd : Serving d)
    (hs : d.store = .embedded db) (hclosed : db.closed = false) (hlacks : db.tables.Lacks id)
    (hmark : cachedFor id d = some OrderCache.tombstone) :
    (t.after (t.next s id d).1).Barred id := by
  cases h with
  | asked =>
    rcases cachedOrder_agrees s hd.answering (hmark ▸ Agrees.mark hlacks) with
      hlook | ⟨o, o', -, hread, -⟩
    · have hmissed : Stage.asked.next s id d = (.ok .missed, d) := Action.bind_of_ok hlook
      have hnext : (Task.reading .asked).next s id d = (.ok (.reading .missed), d) :=
        Action.bind_of_ok hmissed
      rw [hnext]
      exact .missed
    · exact absurd hread hlacks.not_reads
  | missed =>
    have hget := stored_get_lacks hs hclosed hd.reachable hlacks
    have hrefused : Stage.missed.next s id d = (.failed (.cause (Store.Orders.missing id)), d) :=
      Action.bind_of_failed hget
    have hnext : (Task.reading .missed).next s id d
        = (.failed (.cause (Store.Orders.missing id)), d) := Action.bind_of_failed hrefused
    rw [hnext]
    exact .refused
  | refused => exact .refused
  | moving st =>
    obtain ⟨st', hsame⟩ := moving_after s st d
    rw [hsame]
    exact .moving st'
  | removing st =>
    obtain ⟨st', hsame⟩ := removing_after s st hd.answering
    rw [hsame]
    exact .removing st'

theorem Floor.turn_sound (hl : l.Sound id db) (i : Nat) : ∃ ts,
    (l.turn id i).Sound id { db with tables := ts } ∧
      (l.Sealed id n db → (l.turn id i).Sealed id n { db with tables := ts }) := by
  cases hi : l.tasks[i]? with
  | none =>
    rw [Floor.turn_of_none hi]
    exact ⟨db.tables, hl, fun h => h⟩
  | some p =>
    obtain ⟨s, t⟩ := p
    have hmem : (s, t) ∈ l.tasks := List.mem_of_getElem? hi
    obtain ⟨ts, hs, hturned⟩ := t.turned s hl.serving hl.store hl.atRest
    rw [Floor.turn_of_some hi]
    refine ⟨ts, ⟨hl.serving.of_terms hturned.terms, hs, hl.isOpen, hl.atRest,
      fun p hp herased => ?_, fun p hp before after hmove => ?_⟩, fun hsealed => ?_⟩
    · -- the removal was committed before, or by this step
      rcases List.mem_or_eq_of_mem_set hp with hp | rfl
      · exact hturned.lacks (hl.erased p hp herased)
      · rcases hturned.erased herased with hold | hnew
        · exact hturned.lacks (hl.erased _ hmem hold)
        · exact hnew
    · rcases List.mem_or_eq_of_mem_set hp with hp | rfl
      · exact hl.pending p hp before after hmove
      · exact (hturned.pending before after hmove).1
    · refine ⟨hturned.lacks hsealed.lacks,
        hturned.mark hsealed.lacks (hsealed.quiet _ hmem) hsealed.mark, fun p hp hpending => ?_,
        fun k p hk hp => ?_⟩
      · -- no move is committed of an order that is gone
        rcases List.mem_or_eq_of_mem_set hp with hp | rfl
        · exact hsealed.quiet p hp hpending
        · obtain ⟨before, after, hmove⟩ := Task.pending_iff.mp hpending
          exact (hturned.pending before after hmove).2 hsealed.lacks
      · by_cases hik : i = k
        · subst hik
          have hp : (l.tasks.set i (s, t.after (t.next s id l.desk).1))[i]? = some p := hp
          have hlt : i < l.tasks.length := (List.getElem?_eq_some_iff.mp hi).1
          rw [List.getElem?_set_self hlt] at hp
          rw [← Option.some.inj hp]
          exact (hsealed.barred i _ hk hi).after hl.serving hl.store hl.isOpen hsealed.lacks
            hsealed.mark
        · have hp : (l.tasks.set i (s, t.after (t.next s id l.desk).1))[k]? = some p := hp
          rw [List.getElem?_set_ne hik] at hp
          exact hsealed.barred k p hk hp

/-- **Every step** keeps what is kept, and an order that is gone for good stays so. -/
theorem Floor.Step.sound (hl : l.Sound id db) (hstep : Floor.Step id l l') : ∃ ts,
    l'.Sound id { db with tables := ts } ∧
      (l.Sealed id n db → l'.Sealed id n { db with tables := ts }) := by
  cases hstep with
  | come s ht => exact ⟨db.tables, hl.come s ht, fun h => h.come s ht⟩
  | turn i => exact l.turn_sound hl i
  | lull hd => exact ⟨db.tables, hl.lull hd, fun h => h.lull hd⟩

theorem Floor.sound_of_steps (hl : l.Sound id db)
    (hrun : Relation.ReflTransGen (Floor.Step id) l l') : ∃ ts,
    l'.Sound id { db with tables := ts } ∧
      (l.Sealed id n db → l'.Sealed id n { db with tables := ts }) := by
  induction hrun with
  | refl => exact ⟨db.tables, hl, fun h => h⟩
  | tail _ hstep ih =>
    obtain ⟨ts, hsound, hsealed⟩ := ih
    obtain ⟨ts', hsound', hsealed'⟩ := hstep.sound (n := n) hsound
    exact ⟨ts', hsound', fun h => hsealed' (hsealed h)⟩

/-! ## a move that was committed before -/

theorem Floor.Step.last {s : Scope} {t : Task} {r : Outcome Task} {d' : Desk}
    {tasks : List (Scope × Task)} (hnext : t.next s id d = (r, d')) :
    Floor.Step id ⟨d, tasks ++ [(s, t)]⟩ ⟨d', tasks ++ [(s, t.after r)]⟩ := by
  have hi : (⟨d, tasks ++ [(s, t)]⟩ : Floor).tasks[tasks.length]? = some (s, t) := by
    show (tasks ++ [(s, t)])[tasks.length]? = some (s, t)
    rw [List.getElem?_concat_length]
  have hturn : (⟨d, tasks ++ [(s, t)]⟩ : Floor).turn id tasks.length = _ := Floor.turn_of_some hi
  have hset : (tasks ++ [(s, t)]).set tasks.length (s, t.after r)
      = tasks ++ [(s, t.after r)] := by
    rw [List.set_append_right _ _ (Nat.le_refl _), Nat.sub_self]
    rfl
  have hstep : Floor.Step id ⟨d, tasks ++ [(s, t)]⟩ _ := .turn tasks.length
  rw [hturn, hnext, hset] at hstep
  exact hstep

/-- the last step of a call, which ends as an action does -/
theorem Floor.Step.closing {s : Scope} {t : Task} {e : Outcome Unit → Task} {x : Action Desk Unit}
    {out : Outcome Unit} {d' : Desk} {tasks : List (Scope × Task)}
    (h : t.next s id = x >>= fun _ => pure (e (.ok ()))) (hrun : x d = (out, d'))
    (hfailed : ∀ f, t.failed f = e (.failed f))
    (hpanicked : ∀ text, t.panicked text = e (.panicked text)) :
    Floor.Step id ⟨d, tasks ++ [(s, t)]⟩ ⟨d', tasks ++ [(s, e out)]⟩ := by
  cases out with
  | ok u => exact .last (r := .ok _) (by rw [h]; exact Action.bind_of_ok hrun)
  | failed f =>
    rw [← hfailed]
    exact .last (r := .failed f) (by rw [h, Action.bind_of_failed hrun])
  | panicked text =>
    rw [← hpanicked]
    exact .last (r := .panicked text) (by rw [h, Action.bind_of_panicked hrun])

/-- **A committed move that is cached late**: a reader who comes after that is answered with its
order. -/
theorem Floor.Sound.serves {s s' : Scope} {i : Nat} {before o : Order} (hl : l.Sound id db)
    (hi : l.tasks[i]? = some (s, .moving (.committed before o))) (hc : o.Cacheable) :
    ∃ l', Relation.ReflTransGen (Floor.Step id) l l' ∧
      l'.tasks[l.tasks.length]? = some (s', .reading (.answered (.ok o.summary))) := by
  obtain ⟨raw, o', hraw, hdecode, hsame⟩ := OrderCache.decode?_encode hc
  have hid : o.id = id := hl.pending _ (List.mem_of_getElem? hi) before o rfl
  -- the move is cached
  have hcached : cachedFor id (l.turn id i).desk = some raw := by
    obtain ⟨left, hentry⟩ := afterMove_leaves s id before hraw l.desk hl.serving.answering
    have hstate : (l.turn id i).desk = (afterMove s id before o l.desk).2 := by
      rw [Floor.turn_of_some hi]
      exact Action.bind_pure_snd (afterMove s id before o) _ l.desk
    rw [hid] at hentry
    rw [hstate]
    exact congrArg (Option.map Redis.Entry.value) hentry
  obtain ⟨ts, hsound, -⟩ := l.turn_sound (n := 0) hl i
  -- a reader comes, and finds it
  have hlook : cachedOrder s' id (l.turn id i).desk = (.ok (some o'), (l.turn id i).desk) := by
    rw [cachedOrder_apply s' hsound.serving.answering, hcached, Option.bind_some, hdecode]
    intro raw' hraw'
    rw [hcached] at hraw'
    rw [← Option.some.inj hraw', hdecode]
    exact .inr rfl
  have hfound : Stage.asked.next s' id (l.turn id i).desk
      = (.ok (.answered (.ok o'.summary)), (l.turn id i).desk) := Action.bind_of_ok hlook
  have hnext : (Task.reading .asked).next s' id (l.turn id i).desk
      = (.ok (.reading (.answered (.ok o'.summary))), (l.turn id i).desk) :=
    Action.bind_of_ok hfound
  have hlength : (l.turn id i).tasks.length = l.tasks.length := by
    rw [Floor.turn_of_some hi]
    exact List.length_set
  refine ⟨_, .tail (.tail (.single (.turn i)) (.come s' .reading)) (.last hnext), ?_⟩
  rw [← hlength, ← hsame]
  exact List.getElem?_concat_length

/-! ## whole calls -/

/-- **A whole removal** is made of the steps of one. -/
theorem deleteOrder_steps (l : Floor) (s : Scope) : Relation.ReflTransGen (Floor.Step id) l
    ⟨(deleteOrder s id l.desk).2,
      l.tasks ++ [(s, .removing (.ended (deleteOrder s id l.desk).1))]⟩ := by
  have hcome : Floor.Step id l ⟨l.desk, l.tasks ++ [(s, .removing .begun)]⟩ := .come s .removing
  unfold deleteOrder
  rcases herase : eraseStored id l.desk with ⟨out, d₁⟩
  cases out with
  | ok u =>
    have hnext : (Task.removing .begun).next s id l.desk = (.ok (.removing .committed), d₁) :=
      Action.bind_of_ok herase
    rw [Action.bind_of_ok herase]
    rcases hrest : (log s .info "order deleted" [("order_id", .int id)] >>= fun _ =>
      evictOrder s id) d₁ with ⟨out, d₂⟩
    have hassoc : (Task.removing .committed).next s id = ((log s .info "order deleted"
        [("order_id", .int id)] >>= fun _ => evictOrder s id) >>= fun _ =>
          pure (Task.removing (.ended (.ok ())))) := (Action.bind_assoc _ _ _).symm
    have hlast : Floor.Step id ⟨d₁, l.tasks ++ [(s, .removing .committed)]⟩
        ⟨d₂, l.tasks ++ [(s, .removing (.ended out))]⟩ :=
      .closing (e := fun out => .removing (.ended out)) hassoc hrest (fun _ => rfl) fun _ => rfl
    exact .tail (.tail (.single hcome) (.last hnext)) hlast
  | failed f =>
    have hnext : (Task.removing .begun).next s id l.desk = (.failed f, d₁) :=
      Action.bind_of_failed herase
    rw [Action.bind_of_failed herase]
    exact .tail (.single hcome) (.last hnext)
  | panicked t =>
    have hnext : (Task.removing .begun).next s id l.desk = (.panicked t, d₁) :=
      Action.bind_of_panicked herase
    rw [Action.bind_of_panicked herase]
    exact .tail (.single hcome) (.last hnext)

/-- **A whole move** is made of the steps of one. -/
theorem changeStatus_steps (hl : l.Sound id db) (s : Scope) (target : Status) : ∃ s',
    Relation.ReflTransGen (Floor.Step id) l ⟨(changeStatus s id target l.desk).2,
      l.tasks ++ [(s', .moving (.ended (changeStatus s id target l.desk).1))]⟩ := by
  rcases hrun : changeStatus s id target l.desk with ⟨out, d'⟩
  obtain ⟨s', t, t', d₂, hbody, rfl⟩ := inSpan_end hrun
  -- the notes of spans disturb nobody
  have hspan : ∀ (k : Floor) db (t : Telemetry.Tracer), k.Sound id db →
      Floor.Step id k { k with desk := { k.desk with tracer := t } } := fun k db t hk =>
    .lull ⟨rfl, rfl, hk.serving.answering, hk.serving.reachable⟩
  have hstart : Relation.ReflTransGen (Floor.Step id) l
      ⟨{ l.desk with tracer := t }, l.tasks ++ [(s', .moving (.begun target))]⟩ :=
    .tail (.single (hspan l db t hl)) (.come s' (.moving target))
  have hsteps : Relation.ReflTransGen (Floor.Step id) l
      ⟨d₂, l.tasks ++ [(s', .moving (.ended out))]⟩ := by
    rcases hmove : moveStored id target { l.desk with tracer := t } with ⟨out₁, d₁⟩
    have hbody : (moveStored id target >>= fun moved => afterMove s' id moved.1 moved.2)
        { l.desk with tracer := t } = (out, d₂) := hbody
    cases out₁ with
    | ok moved =>
      have hnext : (Task.moving (.begun target)).next s' id { l.desk with tracer := t }
          = (.ok (.moving (.committed moved.1 moved.2)), d₁) := Action.bind_of_ok hmove
      rw [Action.bind_of_ok hmove] at hbody
      have hlast : Floor.Step id ⟨d₁, l.tasks ++ [(s', .moving (.committed moved.1 moved.2))]⟩
          ⟨d₂, l.tasks ++ [(s', .moving (.ended out))]⟩ :=
        .closing (e := fun out => .moving (.ended out)) rfl hbody (fun _ => rfl) fun _ => rfl
      exact .tail (.tail hstart (.last hnext)) hlast
    | failed f =>
      rw [Action.bind_of_failed hmove] at hbody
      obtain ⟨rfl, rfl⟩ := Prod.mk.inj hbody
      exact .tail hstart (.last (r := .failed f) (Action.bind_of_failed hmove))
    | panicked text =>
      rw [Action.bind_of_panicked hmove] at hbody
      obtain ⟨rfl, rfl⟩ := Prod.mk.inj hbody
      exact .tail hstart (.last (r := .panicked text) (Action.bind_of_panicked hmove))
  obtain ⟨ts, hsound, -⟩ := Floor.sound_of_steps (n := 0) hl hsteps
  exact ⟨s', .tail hsteps (hspan _ _ t' hsound)⟩

end

/-! ## what holds of every run -/

/-- Where a run begins: an engine that is open and at rest, and nobody there. -/
structure Floor.Opening (l : Floor) : Prop where
  serving : Serving l.desk
  store : ∃ db, l.desk.store = .embedded db ∧ db.closed = false ∧ db.saved = none
  tasks : l.tasks = []

section
variable {id : Int} {l₀ l : Floor}

theorem Floor.Opening.sound (ho : l₀.Opening) : ∃ db, l₀.Sound id db := by
  obtain ⟨db, hs, hopen, hrest⟩ := ho.store
  refine ⟨db, ho.serving, hs, hopen, hrest, ?_, ?_⟩ <;> simp [ho.tasks]

/-- **A removal that leaves its mark** while no committed move waits to be cached. -/
theorem Floor.Sound.marked {db : Database} {s : Scope} {i : Nat} (hl : l.Sound id db)
    (hi : l.tasks[i]? = some (s, .removing .committed)) : (l.turn id i).Sound id db ∧
      (l.turn id i).tasks = l.tasks.set i (s, .removing (.ended (.ok ()))) ∧
      ((∀ p ∈ l.tasks, ¬ p.2.Pending) → (l.turn id i).Sealed id l.tasks.length db) := by
  obtain ⟨d, hnext, hwrites, hmark⟩ := mark_left s hl.serving.answering
  obtain ⟨ts, hsound, -⟩ := l.turn_sound (n := 0) hl i
  have hturn : l.turn id i = ⟨d, l.tasks.set i (s, .removing (.ended (.ok ())))⟩ := by
    rw [Floor.turn_of_some hi, hnext]
    rfl
  rw [hturn] at hsound ⊢
  have hsame : ({ db with tables := ts } : Database) = db :=
    Backend.embedded.inj (hsound.store.symm.trans (hwrites.store.trans hl.store))
  rw [hsame] at hsound
  refine ⟨hsound, rfl, fun hquiet => ⟨hl.erased _ (List.mem_of_getElem? hi) .committed, hmark,
    fun p hp => ?_, fun k p hk hp => ?_⟩⟩
  · rcases List.mem_or_eq_of_mem_set hp with hp | rfl
    · exact hquiet p hp
    · intro h
      cases h
  · have hnone : (l.tasks.set i (s, .removing (.ended (.ok ()))))[k]? = none :=
      List.getElem?_eq_none (by rw [List.length_set]; exact hk)
    have hp : (l.tasks.set i (s, .removing (.ended (.ok ()))))[k]? = some p := hp
    rw [hnone] at hp
    cases hp

/-- **A removed order is gone for good, unless a committed move is cached late.** Take any readings,
moves and removals of one order, each in its steps and side by side with all others, while the
keyspace answers and nothing expires. When a removal returns with success and no move is between its
transaction and its write to the cache, whoever comes later is told that there is no such order.
Each move that is there by then, though, can still bring its order back: it is put in the place of
the mark, and a reader who comes later is answered with it. -/
theorem removal_final_unless_pending {i : Nat} {s : Scope} (hopen : l₀.Opening)
    (hrun : Relation.ReflTransGen (Floor.Step id) l₀ l)
    (hi : l.tasks[i]? = some (s, .removing .committed)) :
    (l.turn id i).tasks[i]? = some (s, .removing (.ended (.ok ()))) ∧
    ((∀ p ∈ l.tasks, ¬ p.2.Pending) → ∀ (l' : Floor) k s' out,
      Relation.ReflTransGen (Floor.Step id) (l.turn id i) l' → l.tasks.length ≤ k →
      l'.tasks[k]? = some (s', .reading (.answered out)) →
      out = .failed (.cause (Store.Orders.missing id))) ∧
    ∀ (k : Nat) s' before (o : Order),
      l.tasks[k]? = some (s', .moving (.committed before o)) → o.Cacheable →
      ∃ (l' : Floor) (s'' : Scope), Relation.ReflTransGen (Floor.Step id) (l.turn id i) l' ∧
        l'.tasks[l.tasks.length]? = some (s'', .reading (.answered (.ok o.summary))) := by
  obtain ⟨db₀, h₀⟩ := hopen.sound
  obtain ⟨ts, hl, -⟩ := Floor.sound_of_steps (n := 0) h₀ hrun
  obtain ⟨hmarked, htasks, hsealed⟩ := hl.marked hi
  have hlt : i < l.tasks.length := (List.getElem?_eq_some_iff.mp hi).1
  refine ⟨?_, fun hquiet l' k s' out hrest hk hout => ?_, fun k s' before o hmove hc => ?_⟩
  · rw [htasks, List.getElem?_set_self hlt]
  · obtain ⟨ts', -, hstill⟩ := Floor.sound_of_steps hmarked hrest
    have hbarred := (hstill (hsealed hquiet)).barred k _ hk hout
    cases hbarred with
    | refused => rfl
  · have hne : i ≠ k := by
      rintro rfl
      rw [hi] at hmove
      cases hmove
    have hlength : (l.turn id i).tasks.length = l.tasks.length := by
      rw [htasks]
      exact List.length_set
    rw [← List.getElem?_set_ne hne (a := (s, .removing (.ended (.ok ())))), ← htasks] at hmove
    obtain ⟨l', hrest, hserved⟩ := hmarked.serves hmove hc
    rw [hlength] at hserved
    exact ⟨l', scope, hrest, hserved⟩

/-! ## a removal and a move that is overtaken -/

/-- the small shop with one order, which is not cached, and nobody there -/
def soldFloor : Floor := { desk := soldAndExpired.desk }

theorem soldFloor_opening : soldFloor.Opening := by
  obtain ⟨db₀, h₀⟩ := quietShop_opening.sound
  obtain ⟨db, hsold⟩ := h₀.call sellThreeOfOne_whole
  have hl := hsold.lull soldAndExpired_lull
  exact ⟨⟨hl.running.answering, hl.running.reachable⟩, ⟨db, hl.store, hl.isOpen, hl.atRest⟩, rfl⟩

def Task.isMarking : Task → Bool
  | .removing .committed => true
  | _ => false

theorem Task.isMarking_iff {t : Task} : t.isMarking = true ↔ t = .removing .committed := by
  constructor
  · intro h
    unfold isMarking at h
    split at h
    · rfl
    · cases h
  · rintro rfl
    rfl

instance (t : Task) : Decidable t.Pending :=
  match t with
  | .moving (.committed before after) => isTrue (.committed before after)
  | .moving (.begun _) | .moving (.ended _) | .reading _ | .removing _ => isFalse (by rintro ⟨⟩)

/-- a reader has loaded the order when it is removed -/
def removedWhileRead : Floor :=
  let begun : Floor := { soldFloor with
    tasks := [(scope, .reading .asked), (scope, .removing .begun)] }
  ((begun.turn 1 0).turn 1 0).turn 1 1

/-- whoever comes after the removal has returned is told that there is no such order -/
theorem removed_while_read :
    Relation.ReflTransGen (Floor.Step 1) soldFloor removedWhileRead ∧
      (∃ s, removedWhileRead.tasks[1]? = some (s, .removing .committed)) ∧
      ∀ (l' : Floor) k s' out,
        Relation.ReflTransGen (Floor.Step 1) (removedWhileRead.turn 1 1) l' → 2 ≤ k →
        l'.tasks[k]? = some (s', .reading (.answered out)) →
        out = .failed (.cause (Store.Orders.missing 1)) := by
  have hrun : Relation.ReflTransGen (Floor.Step 1) soldFloor removedWhileRead :=
    .head (.come scope .reading) (.head (.come scope .removing) (.head (.turn 0) (.head (.turn 0)
      (.head (.turn 1) .refl))))
  have hmarking : (removedWhileRead.tasks[1]?.any fun p => p.2.isMarking) = true := by
    decide +kernel
  obtain ⟨⟨s, t⟩, hi, ht⟩ := (Option.any_eq_true _ _).mp hmarking
  obtain rfl : t = .removing .committed := Task.isMarking_iff.mp ht
  have hquiet : ∀ p ∈ removedWhileRead.tasks, ¬ p.2.Pending := by decide +kernel
  have hlength : removedWhileRead.tasks.length = 2 := by decide +kernel
  obtain ⟨-, hfinal, -⟩ := removal_final_unless_pending soldFloor_opening hrun hi
  rw [hlength] at hfinal
  exact ⟨hrun, ⟨s, hi⟩, hfinal hquiet⟩

/-- the order is confirmed and removed, and the removal returns before the move is cached -/
def overtaken : Floor :=
  let begun : Floor := { soldFloor with
    tasks := [(scope, .moving (.begun .confirmed)), (scope, .removing .begun)] }
  ((begun.turn 1 0).turn 1 1).turn 1 1

def servedLate : Floor :=
  let cached := overtaken.turn 1 0
  ({ cached with tasks := cached.tasks ++ [(scope, .reading .asked)] } : Floor).turn 1 2

def Task.shown? : Task → Option String
  | .reading (.answered (.ok a)) => some a.status
  | _ => none

def Task.isRemoved : Task → Bool
  | .removing (.ended (.ok _)) => true
  | _ => false

/-- a reader who comes after the removal has returned is answered with the order -/
theorem removed_order_served :
    Relation.ReflTransGen (Floor.Step 1) soldFloor overtaken ∧
      overtaken.tasks.map (fun p => p.2.isRemoved) = [false, true] ∧
      Relation.ReflTransGen (Floor.Step 1) overtaken servedLate ∧
      (servedLate.tasks[2]?.bind fun p => p.2.shown?) = some "CONFIRMED" :=
  ⟨.head (.come scope (.moving .confirmed)) (.head (.come scope .removing) (.head (.turn 0)
      (.head (.turn 1) (.head (.turn 1) .refl)))),
    by decide +kernel, .head (.turn 0) (.head (.come scope .reading) (.head (.turn 2) .refl)),
    by decide +kernel⟩

end

end OrderDesk.Desk
