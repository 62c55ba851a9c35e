import OrderDesk.Proofs.Desk.Reading
import OrderDesk.Proofs.Redis.OrderCache

/-!
# Creations under a client's key, step by step

A creation under a key looks back, takes the lock, stores the order and notes it under the key, or
gives the lock back. Between these steps anything else may happen, and a creation may stop for ever
after any of them.

* `Phase`, `Phase.next`      where a creation stands, and its next step;
* `Hall`, `Step`             creations side by side, with everything else that may happen;
* `Entered`, `Turned`        what one step of a creation does, in every phase;
* `next_turned`              and that it does no more.
-/

namespace OrderDesk.Desk

open OrderDesk.Action (Keeps)
open Idempotency (Slot)
open Store (Backend Database Tables)

/-! ## creations in steps -/

/-- Where a creation under a key stands. -/
inductive Phase where
  | begun
  | found (raw : String)
  | unknown
  | locked
  | refused (f : Failure)
  | stored (o : Order)
  | remembered (o : Order)
  | ended (out : Outcome Summary)

/-- a step that did not end in a value ends the creation -/
def Phase.ofOutcome : Outcome Phase → Phase
  | .ok p => p
  | .failed f => .ended (.failed f)
  | .panicked t => .ended (.panicked t)

/-- a stored order is counted, logged, and remembered under the key -/
def noteCreation (s : Scope) (r : OrderRequest) (o : Order) : Action Desk Unit := do
  count "orders_created_total"
  log s .info "order created"
    [("order_id", .int o.id), ("order_number", .str o.number), ("total", .str o.total.fixed),
      ("lines", .int o.items.length)]
  rememberKey r o.id

/-- a stored order is cached and announced -/
def announceCreation (s : Scope) (o : Order) : Action Desk Unit := do
  cacheOrder s o
  let d ← Action.state
  warnOnFailure s "publish order.created failed" o.id
    (announced (Event.publishCreated d.policy.topology o.created))

def Phase.next (s : Scope) (r : OrderRequest) : Phase → Action Desk Phase
  | .begun => do
    Action.ofExcept (checkItems r.items)
    match ← lookBack r with
    | some raw => return .found raw
    | none => return .unknown
  | .found raw => do return .ended (.ok (← replay s raw))
  | .unknown => do
    lockKey r
    return .locked
  | .locked => do
    match ← (reserveAndStore r.items).attempt with
    | .ok o => return .stored o
    | .error f => return .refused f
  | .refused f => do
    releaseKey r
    Action.fail f
  | .stored o => do
    noteCreation s r o
    return .remembered o
  | .remembered o => do
    announceCreation s o
    return .ended (.ok o.summary)
  | .ended out => return .ended out

/-- the phase and the state after the next step -/
def Phase.turn (s : Scope) (r : OrderRequest) (p : Phase) (d : Desk) : Phase × Desk :=
  (Phase.ofOutcome (p.next s r d).1, (p.next s r d).2)

/-- the order that was stored between two phases -/
def Phase.committed? : Phase → Phase → Option Order
  | .locked, .stored o => some o
  | _, _ => none

/-- A creation under a key. -/
structure Job where
  scope : Scope
  request : OrderRequest
  phase : Phase

def OrderRequest.slot (r : OrderRequest) : Slot := ⟨r.client, r.key⟩

/-- The service with the creations that were begun. `commits` is what their transactions stored, and
under which key, the last one first. -/
structure Hall where
  desk : Desk
  jobs : List Job := []
  commits : List (Slot × Order) := []

/-- the service after a step of one creation led to a phase and a state -/
def Hall.moved (h : Hall) (j : Job) (p : Phase) (d : Desk) (jobs : List Job) : Hall where
  desk := d
  jobs := jobs
  commits := ((j.phase.committed? p).map (j.request.slot, ·)).toList ++ h.commits

def Hall.turn (h : Hall) (i : Nat) : Hall :=
  match h.jobs[i]? with
  | none => h
  | some j =>
    let (p, d) := j.phase.turn j.scope j.request h.desk
    h.moved j p d (h.jobs.set i { j with phase := p })

/-- The client's id is one that joins without ambiguity, and the key is not empty. -/
def OrderRequest.Keyed (r : OrderRequest) : Prop := r.slot.Plain ∧ r.key ≠ ""

/-- A call of the service that is no creation under a key. -/
def Request.Unkeyed : Request → Prop
  | .change (.createOrder _ r) => r.key = ""
  | _ => True

/-- The store and the keys are as they were; anything else may have changed, and the clock shows a
time at which the service runs. -/
structure Drift (C : Stamp → Prop) (d d' : Desk) : Prop where
  store : d'.store = d.store
  keys : d'.redis.map Redis.keys = d.redis.map Redis.keys
  clock : C d'.clock.utc

/-- What may happen next: a creation begins or goes on, another call is made, or something changes
besides the store and the keys. -/
inductive Step (C : Stamp → Prop) (h : Hall) : Hall → Prop where
  | begin (s : Scope) {r : OrderRequest} (hr : r.Keyed) :
      Step C h { h with jobs := ⟨s, r, .begun⟩ :: h.jobs }
  | turn (i : Nat) : Step C h (h.turn i)
  | call {r : Request} (hr : r.Unkeyed) : Step C h { h with desk := (r.perform h.desk).2 }
  | drift {d : Desk} (hd : Drift C h.desk d) : Step C h { h with desk := d }

/-! ## what is kept under the names of a key -/

section
variable {α : Type} {name value : String} {d d' : Desk} {r : OrderRequest} {o : Order}

/-- The entry under a name is not removed. -/
def Holds (name : String) (d d' : Desk) : Prop := (entry name d).isSome → (entry name d').isSome

instance (name : String) : IsPreorder Desk (Holds name) where
  refl _ h := h
  trans _ _ _ h₁ h₂ h := h₂ (h₁ h)

/-- The entry under a name is as it was, or it has a given value. -/
def Sets (name value : String) (d d' : Desk) : Prop :=
  entry name d' = entry name d ∨ (entry name d').map Redis.Entry.value = some value

instance (name value : String) : IsPreorder Desk (Sets name value) where
  refl _ := .inl rfl
  trans _ _ _ h₁ h₂ := by
    rcases h₂ with h₂ | h₂
    · rcases h₁ with h₁ | h₁
      · exact .inl (h₂.trans h₁)
      · exact .inr (h₂ ▸ h₁)
    · exact .inr h₂

theorem Writes.holds {W : List String} (h : Writes W d d') (hn : name ∉ W) : Holds name d d' :=
  fun he => (h.entries name hn) ▸ he

/-- what a command does to an entry, a call on the keyspace does -/
theorem kept_entry {Q : Option Redis.Entry → Option Redis.Entry → Prop} (hrefl : ∀ e, Q e e)
    (absent : α) {x : Action Redis α}
    (hx : ∀ k, Q (k.keys.get? name) ((x k).2.keys.get? name)) (d : Desk) :
    Q (entry name d) (entry name (kept absent x d).2) := by
  rcases h : kept absent x d with ⟨o, d'⟩
  obtain ⟨-, -, rfl⟩ | ⟨k, k', hk, hrun, rfl⟩ := kept_eq_iff.mp h
  · exact hrefl _
  · have hq := hx k
    rw [hrun] at hq
    unfold entry
    rw [hk]
    exact hq

theorem reach_keeps {R : Desk → Desk → Prop} [IsPreorder Desk R] (c : Call) : Keeps R (reach c) := by
  intro d
  have hsame : (reach c d).2 = d := reach_fixed c d
  rw [hsame]
  exact refl_of R d

/-- a lock that is there stays there, whoever asks for it -/
theorem lockKey_holds (r : OrderRequest) : Keeps (Holds r.slot.lock) (lockKey r) := by
  have hput : ∀ nanos k, (k.keys.get? r.slot.lock).isSome →
      ((Idempotency.tryLock nanos r.client r.key k).2.keys.get? r.slot.lock).isSome := by
    intro nanos k hk
    unfold Idempotency.tryLock
    rw [Redis.putNew_present hk]
    exact hk
  refine Keeps.bind .state fun d => Keeps.bind ?_ fun got => ?_
  · refine ((reach_keeps _).bind fun _ => ?_).context
    exact kept_entry (Q := fun e e' => e.isSome → e'.isSome) (fun _ h => h) _ (hput _)
  · split
    · exact .pure _
    · exact .raise _

/-- a key remembers what it is to remember, or what it did before -/
theorem rememberKey_sets (r : OrderRequest) (id : Int) :
    Keeps (Sets r.slot.result (toString id)) (rememberKey r id) := by
  have hput : ∀ nanos k, (Idempotency.remember nanos r.client r.key (toString id) k).2.keys.get?
      r.slot.result = k.keys.get? r.slot.result ∨
      ((Idempotency.remember nanos r.client r.key (toString id) k).2.keys.get?
        r.slot.result).map Redis.Entry.value = some (toString id) := by
    intro nanos k
    unfold Idempotency.remember Redis.put
    cases hr : k.refusal with
    | some text =>
      rw [Redis.command_of_refusal hr]
      exact .inl rfl
    | none =>
      rw [Redis.command_of_none hr]
      refine .inr ?_
      show (Redis.Keyspace.get? (.insert k.keys r.slot.result _) r.slot.result).map _ = _
      rw [Redis.Keyspace.get?_insert, if_pos rfl]
      rfl
  refine Keeps.bind .state fun d => Keeps.bind (Keeps.attempt ?_) fun _ => .pure _
  refine (reach_keeps _).bind fun _ => ?_
  exact kept_entry (Q := fun e e' => e' = e ∨ e'.map Redis.Entry.value = some (toString id))
    (fun _ => .inl rfl) _ (hput _)

end

/-! ## what a step of a creation does -/

/-- A phase that nothing is left of in the keys. -/
def Phase.Quiet : Phase → Prop
  | .unknown | .remembered _ | .ended _ => True
  | _ => False

/-- A phase from which the keys are not looked at any more. -/
def Phase.Over : Phase → Prop
  | .remembered _ | .ended _ => True
  | _ => False

/-- The lines of the request were looked at before the key was. -/
def Phase.Formed (r : OrderRequest) : Phase → Prop
  | .unknown | .locked => WellFormed r.items
  | _ => True

/-- How a phase is entered. -/
inductive Entered (r : OrderRequest) (d d' : Desk) : Phase → Phase → Prop where
  | quiet {p p' : Phase} (hp : p'.Quiet) (hs : d'.store = d.store) : Entered r d d' p p'
  | found {raw : String} {e : Redis.Entry} (he : entry r.slot.result d = some e)
      (hraw : e.value = raw) (hs : d'.store = d.store) : Entered r d d' .begun (.found raw)
  | locked (hfree : entry r.slot.lock d = none) (hheld : (entry r.slot.lock d').isSome)
      (hs : d'.store = d.store) : Entered r d d' .unknown .locked
  | refused {f : Failure} (hs : d'.store = d.store) : Entered r d d' .locked (.refused f)
  | stored {o : Order} {db : Database} {ts : Tables} (hs : d.store = .embedded db)
      (hs' : d'.store = .embedded { db with tables := ts })
      (hdoes : Does d.policy.maxOrderValue d.clock.utc db.tables
        (.change (.createOrder Desk.scope r)) (.placed o) ts) :
      Entered r d d' .locked (.stored o)

/-- What one step of a creation does: how it enters its phase, and what it does to the entries of
its key and to all others. -/
structure Turned (r : OrderRequest) (p p' : Phase) (d d' : Desk) : Prop where
  entered : Entered r d d' p p'
  formed : p.Formed r → p'.Formed r
  terms : terms d' = terms d
  others : ∀ name, name ∉ r.names → (∀ id, name ≠ OrderCache.key id) → entry name d' = entry name d
  lock : (∀ f, p ≠ .refused f) → Holds r.slot.lock d d'
  result : entry r.slot.result d' = entry r.slot.result d ∨
    ∃ o, p = .stored o ∧ (entry r.slot.result d').map Redis.Entry.value = some (toString o.id)

section
variable {α : Type} {r : OrderRequest} {p p' : Phase} {d d' : Desk} {s : Scope} {db : Database}

theorem Phase.Over.quiet (h : p.Over) : p.Quiet := by
  cases p <;> first | exact h.elim | trivial

theorem Phase.Over.formed (h : p.Over) : p.Formed r := by
  cases p <;> first | exact h.elim | trivial

/-- a step whose last part ends in a phase that is over, or in no value, ends the creation -/
theorem bind_over {x : Action Desk α} {k : α → Action Desk Phase}
    (hk : ∀ a d', (Phase.ofOutcome (k a d').1).Over) : (Phase.ofOutcome ((x >>= k) d).1).Over := by
  rcases hx : x d with ⟨o, d₁⟩
  cases o with
  | ok a =>
    rw [Action.bind_of_ok hx]
    exact hk a d₁
  | failed f =>
    rw [Action.bind_of_failed hx]
    trivial
  | panicked t =>
    rw [Action.bind_of_panicked hx]
    trivial

theorem Turned.of_writes {W : List String} (hW : ∀ name ∈ W, ∃ id, name = OrderCache.key id)
    (hentered : Entered r d d' p p') (hformed : p.Formed r → p'.Formed r)
    (h : Writes W { d with store := d'.store } d') : Turned r p p' d d' := by
  have hlock : r.slot.lock ∉ W := fun hmem => by
    obtain ⟨id, hid⟩ := hW _ hmem
    exact OrderCache.key_ne_lock r.slot hid.symm
  have hresult : r.slot.result ∉ W := fun hmem => by
    obtain ⟨id, hid⟩ := hW _ hmem
    exact OrderCache.key_ne_result r.slot hid.symm
  refine ⟨hentered, hformed, h.terms, fun name _ hn => h.entries name fun hmem => ?_, fun _ => h.holds hlock,
    .inl (h.entries _ hresult)⟩
  obtain ⟨id, hid⟩ := hW _ hmem
  exact hn id hid

theorem Turned.of_nothing (hentered : Entered r d d' p p') (hformed : p.Formed r → p'.Formed r)
    (h : Writes [] d d') : Turned r p p' d d' :=
  .of_writes (fun _ h => absurd h List.not_mem_nil) hentered hformed h.rest

theorem announceCreation_writes (s : Scope) (o : Order) :
    Keeps (Writes [OrderCache.key o.id]) (announceCreation s o) :=
  (cacheOrder_writes s o List.mem_cons_self).bind fun _ => Keeps.bind .state fun _ =>
    warnOnFailure_writes _ _ _ (announced_writes _)

theorem OrderRequest.Keyed.names (h : r.Keyed) : r.names = [r.slot.lock, r.slot.result] := if_neg h.2

theorem OrderRequest.Keyed.lock_ne_result (h : r.Keyed) : r.slot.lock ≠ r.slot.result :=
  h.1.lock_ne_result

theorem begun_turned : Turned r .begun (Phase.begun.turn s r d).1 d (Phase.begun.turn s r d).2 := by
  have hnext : Phase.begun.next s r d = (Action.ofExcept (checkItems r.items) >>= fun _ =>
      lookBack r >>= fun found => match found with
        | some raw => return .found raw
        | none => return .unknown) d := rfl
  unfold Phase.turn
  rw [hnext]
  cases hcheck : checkItems r.items with
  | error f => exact .of_nothing (.quiet trivial rfl) (fun _ => trivial) (refl_of (Writes []) d)
  | ok u =>
    have hform : WellFormed r.items := wellFormed_of_checkItems hcheck
    rw [Action.bind_of_ok Action.ofExcept_ok]
    rcases hback : lookBack r d with ⟨o, d₁⟩
    have hwrites : Writes [] d d₁ := (lookBack_writes r).of_eq hback
    cases o with
    | ok found =>
      rw [Action.bind_of_ok hback]
      cases found with
      | none => exact .of_nothing (.quiet trivial hwrites.store) (fun _ => hform) hwrites
      | some raw =>
        obtain ⟨-, k, e, hk, -, he, hraw, rfl⟩ := lookBack_some_iff.mp hback
        have hentry : entry r.slot.result d₁ = some e := by
          unfold entry
          rw [hk]
          exact he
        exact .of_nothing (.found hentry hraw rfl) (fun _ => trivial) hwrites
    | failed f =>
      rw [Action.bind_of_failed hback]
      exact .of_nothing (.quiet trivial hwrites.store) (fun _ => trivial) hwrites
    | panicked t =>
      rw [Action.bind_of_panicked hback]
      exact .of_nothing (.quiet trivial hwrites.store) (fun _ => trivial) hwrites

theorem unknown_turned (hr : r.Keyed) (hredis : d.redis.isSome) :
    Turned r .unknown (Phase.unknown.turn s r d).1 d (Phase.unknown.turn s r d).2 := by
  have hnext : Phase.unknown.next s r d = (lockKey r >>= fun _ => return .locked) d := rfl
  have hresult : r.slot.result ∉ [r.slot.lock] := by simpa using hr.lock_ne_result.symm
  unfold Phase.turn
  rw [hnext]
  rcases hlock : lockKey r d with ⟨o, d₁⟩
  have hwrites : Writes [r.slot.lock] d d₁ := (lockKey_writes r List.mem_cons_self).of_eq hlock
  have hholds : Holds r.slot.lock d d₁ := (lockKey_holds r).of_eq hlock
  have hturned : ∀ p, Entered r d d₁ .unknown p → (Phase.unknown.Formed r → p.Formed r) →
      Turned r .unknown p d d₁ := by
    intro p hentered hformed
    refine ⟨hentered, hformed, hwrites.terms, fun name hn _ => hwrites.entries name fun hmem => hn ?_,
      fun _ => hholds, .inl (hwrites.entries _ hresult)⟩
    rw [hr.names]
    exact List.mem_cons.mpr (.inl (List.mem_singleton.mp hmem))
  cases o with
  | ok u =>
    rw [Action.bind_of_ok hlock]
    obtain ⟨hnone, -⟩ | ⟨k, e, hk, -, hfree, rfl⟩ := lockKey_ok hlock
    · rw [hnone] at hredis
      cases hredis
    · refine hturned _ (.locked ?_ ?_ rfl) id
      · unfold entry
        rw [hk]
        exact hfree
      · simp [entry, OrderRequest.slot, Slot.lock]
  | failed f =>
    rw [Action.bind_of_failed hlock]
    exact hturned _ (.quiet trivial hwrites.store) fun _ => trivial
  | panicked t =>
    rw [Action.bind_of_panicked hlock]
    exact hturned _ (.quiet trivial hwrites.store) fun _ => trivial

theorem locked_turned (hs : d.store = .embedded db) (hready : Ready db) (hform : WellFormed r.items) :
    Turned r .locked (Phase.locked.turn s r d).1 d (Phase.locked.turn s r d).2 := by
  have hnext : Phase.locked.next s r d = ((reserveAndStore r.items).attempt >>= fun stored =>
      match stored with
      | .ok o => return .stored o
      | .error f => return .refused f) d := rfl
  unfold Phase.turn
  rw [hnext]
  rcases hrun : reserveAndStore r.items d with ⟨out, d₁⟩
  have hidle : (∀ o, out ≠ .ok o) → Writes [] d d₁ := by
    intro hno
    have h := transaction_idle (W := []) (placeOrder_works r.items) hs hready.atRest fun o ho =>
      hno o ((congrArg Prod.fst hrun).symm.trans ho)
    rw [show transaction (placeOrder r.items) d = (out, d₁) from hrun] at h
    exact h
  cases out with
  | ok o =>
    rw [Action.attempt_bind_of_ok hrun]
    obtain ⟨d₂, ts, hplace, hts, hs₁, hwrites⟩ := transaction_commits (W := [])
      (placeOrder_works r.items) hs hready.atRest hrun
    obtain ⟨t, t', book, lines, ht, hbook, hlines, hplaced, hstored⟩ := placeOrder_ok
      (d := { d with store := .embedded (Store.inside db db.tables) }) rfl rfl hform hplace
    have hts : ts = Store.Orders.withNew { db.tables with products := some t' } book lines o := by
      rw [hts] at hstored
      exact congrArg Database.tables (Backend.embedded.inj hstored)
    refine .of_writes (fun _ h => absurd h List.not_mem_nil) (.stored hs hs₁ ?_) (fun _ => trivial)
      hwrites
    rw [hts]
    exact .placed ht hbook hlines hform hplaced
  | failed f =>
    rw [Action.attempt_bind_of_failed hrun]
    have hwrites : Writes [] d d₁ := hidle nofun
    exact .of_nothing (.refused hwrites.store) (fun _ => trivial) hwrites
  | panicked t =>
    have hattempt : (reserveAndStore r.items).attempt d = (.panicked t, d₁) := by
      unfold Action.attempt
      rw [hrun]
    have hwrites : Writes [] d d₁ := hidle nofun
    rw [Action.bind_of_panicked hattempt]
    exact .of_nothing (.quiet trivial hwrites.store) (fun _ => trivial) hwrites

theorem found_turned {raw : String} (hs : d.store = .embedded db) : Turned r (.found raw)
    ((Phase.found raw).turn s r d).1 d ((Phase.found raw).turn s r d).2 := by
  have hwrites : Writes [] d ((Phase.found raw).next s r d).2 :=
    ((replay_looks s raw).bind fun _ => .pure _ : Keeps (Looks []) _) d ⟨db, hs⟩
  have hover : (Phase.ofOutcome ((Phase.found raw).next s r d).1).Over :=
    bind_over fun _ _ => trivial
  exact .of_nothing (.quiet hover.quiet hwrites.store) (fun _ => hover.formed) hwrites

theorem refused_turned {f : Failure} (hr : r.Keyed) : Turned r (.refused f)
    ((Phase.refused f).turn s r d).1 d ((Phase.refused f).turn s r d).2 := by
  have hwrites : Writes [r.slot.lock] d ((Phase.refused f).next s r d).2 :=
    ((releaseKey_writes r List.mem_cons_self).bind fun _ => .fail f : Keeps _ _) d
  have hresult : r.slot.result ∉ [r.slot.lock] := by simpa using hr.lock_ne_result.symm
  have hover : (Phase.ofOutcome ((Phase.refused f).next s r d).1).Over :=
    bind_over fun _ _ => trivial
  refine ⟨.quiet hover.quiet hwrites.store, fun _ => hover.formed, hwrites.terms,
    fun name hn _ => hwrites.entries name fun hmem => hn ?_, fun h => absurd rfl (h f),
    .inl (hwrites.entries _ hresult)⟩
  rw [hr.names]
  exact List.mem_cons.mpr (.inl (List.mem_singleton.mp hmem))

theorem noteCreation_writes (s : Scope) (r : OrderRequest) (o : Order) :
    Keeps (Writes [r.slot.result]) (noteCreation s r o) :=
  (count_writes _ _).bind fun _ => (log_writes _ _ _ _).bind fun _ =>
    rememberKey_writes r o.id List.mem_cons_self

theorem noteCreation_sets (s : Scope) (r : OrderRequest) (o : Order) :
    Keeps (Sets r.slot.result (toString o.id)) (noteCreation s r o) := by
  have hcount : Keeps (Sets r.slot.result (toString o.id)) (count "orders_created_total") :=
    fun _ => .inl rfl
  exact hcount.bind fun _ => Keeps.bind (fun _ => .inl rfl) fun _ => rememberKey_sets r o.id

theorem stored_turned {o : Order} (hr : r.Keyed) : Turned r (.stored o)
    ((Phase.stored o).turn s r d).1 d ((Phase.stored o).turn s r d).2 := by
  have hwrites : Writes [r.slot.result] d ((Phase.stored o).next s r d).2 :=
    ((noteCreation_writes s r o).bind fun _ => .pure _ : Keeps _ _) d
  have hsets : Sets r.slot.result (toString o.id) d ((Phase.stored o).next s r d).2 :=
    ((noteCreation_sets s r o).bind fun _ => .pure _ : Keeps _ _) d
  have hlock : r.slot.lock ∉ [r.slot.result] := by simpa using hr.lock_ne_result
  have hover : (Phase.ofOutcome ((Phase.stored o).next s r d).1).Over :=
    bind_over fun _ _ => trivial
  refine ⟨.quiet hover.quiet hwrites.store, fun _ => hover.formed, hwrites.terms,
    fun name hn _ => hwrites.entries name fun hmem => hn ?_, fun _ => hwrites.holds hlock, ?_⟩
  · rw [hr.names]
    exact List.mem_cons_of_mem _ hmem
  · exact hsets.imp id fun h => ⟨o, rfl, h⟩

theorem remembered_turned {o : Order} : Turned r (.remembered o)
    ((Phase.remembered o).turn s r d).1 d ((Phase.remembered o).turn s r d).2 := by
  have hwrites : Writes [OrderCache.key o.id] d ((Phase.remembered o).next s r d).2 :=
    ((announceCreation_writes s o).bind fun _ => .pure _ : Keeps _ _) d
  have hover : (Phase.ofOutcome ((Phase.remembered o).next s r d).1).Over :=
    bind_over fun _ _ => trivial
  refine .of_writes (fun name hmem => ⟨o.id, List.mem_singleton.mp hmem⟩)
    (.quiet hover.quiet hwrites.store) (fun _ => hover.formed) hwrites.rest

/-- **One step of a creation**, whatever phase it is in. -/
theorem turned (s : Scope) (hr : r.Keyed) (hs : d.store = .embedded db) (hready : Ready db)
    (hredis : d.redis.isSome) (hform : p.Formed r) :
    Turned r p (p.turn s r d).1 d (p.turn s r d).2 := by
  cases p with
  | begun => exact begun_turned
  | found raw => exact found_turned hs
  | unknown => exact unknown_turned hr hredis
  | locked => exact locked_turned hs hready hform
  | refused f => exact refused_turned hr
  | stored o => exact stored_turned hr
  | remembered o => exact remembered_turned
  | ended out => exact .of_nothing (.quiet trivial rfl) (fun _ => trivial) (refl_of (Writes []) d)

end

end OrderDesk.Desk
