import OrderDesk.Proofs.Desk.Steps
import OrderDesk.Proofs.Redis.Keyspace

/-!
# After a transaction

What follows a committed change (notes, the cache, the announcement) neither fails nor touches the
store, and it ends in a value unless a collaborator panics.

* `Unfailing`           ends in no failure;
* `Calm`                does not panic while the calls it makes do not;
* `afterwards`          what follows a committed order, with the answer;
* `Writes W`, `*_writes`      the store is as it was, and so is every entry but those under some
                        names.
-/

namespace OrderDesk.Desk

open OrderDesk.Action (Keeps Fixed)

/-! ## no failure -/

/-- Ends in no failure. -/
def Unfailing {α : Type} (x : Action Desk α) : Prop := ∀ d f d', x d ≠ (.failed f, d')

namespace Unfailing

variable {α β : Type}

theorem bind {x : Action Desk α} {k : α → Action Desk β} (hx : Unfailing x)
    (hk : ∀ a, Unfailing (k a)) : Unfailing (x >>= k) := by
  intro d f d' h
  rcases Action.bind_failed_iff.mp h with h | ⟨a, d₁, -, h⟩
  · exact hx d f d' h
  · exact hk a d₁ f d' h

theorem pure (a : α) : Unfailing (pure a : Action Desk α) := fun _ _ _ h => by cases h

theorem state : Unfailing Action.state := fun _ _ _ h => by cases h

theorem change (g : Desk → Desk) : Unfailing (Action.change g) := fun _ _ _ h => by cases h

theorem attempt (x : Action Desk α) : Unfailing x.attempt :=
  fun _ _ _ h => Action.attempt_failed_iff.mp h

end Unfailing

theorem warnOnFailure_ok (s : Scope) (m : String) (id : Int) {x : Action Desk Unit}
    {d d' : Desk} (h : x d = (.ok (), d')) : warnOnFailure s m id x d = (.ok (), d') := by
  unfold warnOnFailure
  rw [Action.attempt_bind_of_ok h]
  rfl

theorem warnOnFailure_unfailing (s : Scope) (m : String) (id : Int) (x : Action Desk Unit) :
    Unfailing (warnOnFailure s m id x) := by
  refine (Unfailing.attempt x).bind fun r => ?_
  cases r with
  | ok u => exact .pure ()
  | error f => exact .change _

theorem cacheOrder_unfailing (s : Scope) (o : Order) : Unfailing (cacheOrder s o) := by
  refine Unfailing.state.bind fun d => ?_
  split
  · exact warnOnFailure_unfailing _ _ _ _
  · exact .pure ()

theorem rememberKey_unfailing (r : OrderRequest) (id : Int) : Unfailing (rememberKey r id) :=
  Unfailing.state.bind fun _ => (Unfailing.attempt _).bind fun _ => .pure ()

theorem afterCreation_unfailing (s : Scope) (r : OrderRequest) (keyed : Bool) (o : Order) :
    Unfailing (afterCreation s r keyed o) := by
  refine (Unfailing.change _).bind fun _ => (Unfailing.change _).bind fun _ => ?_
  have hrest := (cacheOrder_unfailing s o).bind fun _ => Unfailing.state.bind fun d =>
    warnOnFailure_unfailing s "publish order.created failed" o.id
      (announced (Event.publishCreated d.policy.topology o.created))
  cases keyed with
  | true => exact (rememberKey_unfailing r o.id).bind fun _ => hrest
  | false => exact hrest

theorem afterMove_unfailing (s : Scope) (id : Int) (before after : Order) :
    Unfailing (afterMove s id before after) := by
  refine (Unfailing.change _).bind fun _ => (Unfailing.change _).bind fun _ => ?_
  refine (cacheOrder_unfailing s after).bind fun _ => Unfailing.state.bind fun d => ?_
  split
  · exact .pure ()
  · exact warnOnFailure_unfailing _ _ _ _

theorem evictOrder_unfailing (s : Scope) (id : Int) : Unfailing (evictOrder s id) :=
  Unfailing.state.bind fun _ => warnOnFailure_unfailing _ _ _ _

/-- what follows a committed order, and the answer -/
def afterwards (s : Scope) (r : OrderRequest) (keyed : Bool) (o : Order) : Action Desk Summary := do
  afterCreation s r keyed o
  return o.summary

theorem afterwards_unfailing (s : Scope) (r : OrderRequest) (keyed : Bool) (o : Order) :
    Unfailing (afterwards s r keyed o) :=
  (afterCreation_unfailing s r keyed o).bind fun _ => .pure _

/-! ## what is written beside the store -/

/-- the entry that is kept under a name -/
def entry (name : String) (d : Desk) : Option Redis.Entry := d.redis.bind (·.keys.get? name)

/-- What a desk works under: the policy, the clock, what is out of order, and whether there is a
keyspace that takes commands. -/
def terms (d : Desk) : Policy × Stamp × List (Call × Outage) × Option (Option String) :=
  (d.policy, d.clock, d.outages, d.redis.map Redis.refusal)

/-- The store is as it was, and so is every entry but those under the names in `W`. -/
structure Writes (W : List String) (d d' : Desk) : Prop where
  terms : terms d' = terms d
  store : d'.store = d.store
  entries : ∀ name, name ∉ W → entry name d' = entry name d

instance (W : List String) : IsPreorder Desk (Writes W) where
  refl _ := ⟨rfl, rfl, fun _ _ => rfl⟩
  trans _ _ _ h₁ h₂ := ⟨h₂.terms.trans h₁.terms, h₂.store.trans h₁.store, fun name hn =>
    (h₂.entries name hn).trans (h₁.entries name hn)⟩

section
variable {α : Type} {W W' : List String} {d d' : Desk}

theorem Writes.mono (h : Writes W d d') (hW : W ⊆ W') : Writes W' d d' :=
  ⟨h.terms, h.store, fun name hn => h.entries name fun hmem => hn (hW hmem)⟩

theorem Writes.policy (h : Writes W d d') : d'.policy = d.policy := congrArg Prod.fst h.terms

theorem isSome_of_terms (h : terms d' = terms d) : d'.redis.isSome = d.redis.isSome := by
  simp only [terms, Prod.mk.injEq] at h
  have hsome := congrArg Option.isSome h.2.2.2
  simpa only [Option.isSome_map] using hsome

theorem clock_of_terms (h : terms d' = terms d) : d'.clock = d.clock :=
  congrArg (fun t => t.2.1) h

/-- what happened beside the store stays as it was in a transaction -/
theorem writes_of_beside (h : beside d' = beside d) : Writes W { d with store := d'.store } d' := by
  simp only [beside, Prod.mk.injEq] at h
  obtain ⟨hpolicy, hredis, -, hclock, hout⟩ := h
  exact ⟨by simp [terms, hpolicy, hredis, hclock, hout], rfl, fun name _ => by simp [entry, hredis]⟩

theorem kept_writes (absent : α) {x : Action Redis α} (hx : Keeps (Redis.Touches W) x) :
    Keeps (Writes W) (kept absent x) := by
  intro d
  unfold kept
  cases hr : d.redis with
  | none => exact refl_of (Writes W) d
  | some k =>
    have hk : Redis.Touches W k (x k).2 := hx k
    refine ⟨?_, rfl, fun name hn => ?_⟩
    · simp [terms, hr, hk.refusal]
    · simp [entry, hr, hk.entries name hn]

theorem announced_writes (x : Action Event.Broker Unit) : Keeps (Writes W) (announced x) := by
  intro d
  unfold announced
  cases d.broker with
  | none => exact refl_of (Writes W) d
  | some b => exact ⟨rfl, rfl, fun _ _ => rfl⟩

theorem reach_writes (c : Call) : Keeps (Writes W) (reach c) := by
  intro d
  have h : (reach c d).2 = d := reach_fixed c d
  rw [h]
  exact refl_of (Writes W) d

theorem log_writes (s : Scope) (l : Log.Level) (m : String) (as : Log.Attrs) :
    Keeps (Writes W) (log s l m as) := fun _ => ⟨rfl, rfl, fun _ _ => rfl⟩

theorem count_writes (name : String) (labels : List (String × String)) :
    Keeps (Writes W) (count name labels) := fun _ => ⟨rfl, rfl, fun _ _ => rfl⟩

theorem warnOnFailure_writes (s : Scope) (m : String) (id : Int) {x : Action Desk Unit}
    (hx : Keeps (Writes W) x) : Keeps (Writes W) (warnOnFailure s m id x) := by
  refine hx.attempt.bind fun r => ?_
  cases r with
  | ok u => exact .pure ()
  | error f => exact log_writes _ _ _ _

/-- an order is cached under the name of its id -/
theorem cacheOrder_writes (s : Scope) (o : Order) (hW : OrderCache.key o.id ∈ W) :
    Keeps (Writes W) (cacheOrder s o) := by
  have hset : ∀ nanos, Keeps (Redis.Touches W) (OrderCache.set nanos o) := fun nanos =>
    (Keeps.ofExcept _).bind fun _ => Redis.put_touches hW
  refine Keeps.bind .state fun d => ?_
  split
  · exact warnOnFailure_writes _ _ _ ((reach_writes _).bind fun _ => kept_writes _ (hset _))
  · exact .pure ()

theorem rememberKey_writes (r : OrderRequest) (id : Int)
    (hW : Idempotency.resultKey r.client r.key ∈ W) : Keeps (Writes W) (rememberKey r id) :=
  Keeps.bind .state fun _ => (Keeps.attempt ((reach_writes _).bind fun _ =>
    kept_writes _ (Redis.put_touches hW))).bind fun _ => .pure ()

/-- what follows a committed order writes under the order, and under the result of a key -/
theorem afterCreation_writes (s : Scope) (r : OrderRequest) (keyed : Bool) (o : Order)
    (ho : OrderCache.key o.id ∈ W) (hr : keyed = true → Idempotency.resultKey r.client r.key ∈ W) :
    Keeps (Writes W) (afterCreation s r keyed o) := by
  refine (count_writes _ _).bind fun _ => (log_writes _ _ _ _).bind fun _ => ?_
  have hrest := (cacheOrder_writes s o ho).bind fun _ =>
    Keeps.bind (R := Writes W) .state fun d =>
      warnOnFailure_writes s "publish order.created failed" o.id
        (announced_writes (Event.publishCreated d.policy.topology o.created))
  cases keyed with
  | true => exact (rememberKey_writes r o.id (hr rfl)).bind fun _ => hrest
  | false => exact hrest

theorem afterwards_writes (s : Scope) (r : OrderRequest) (keyed : Bool) (o : Order)
    (ho : OrderCache.key o.id ∈ W) (hr : keyed = true → Idempotency.resultKey r.client r.key ∈ W) :
    Keeps (Writes W) (afterwards s r keyed o) :=
  (afterCreation_writes s r keyed o ho hr).bind fun _ => .pure _

theorem afterMove_writes (s : Scope) (id : Int) (before after : Order)
    (hW : OrderCache.key after.id ∈ W) : Keeps (Writes W) (afterMove s id before after) := by
  refine (count_writes _ _).bind fun _ => (log_writes _ _ _ _).bind fun _ => ?_
  refine (cacheOrder_writes s after hW).bind fun _ => Keeps.bind .state fun d => ?_
  split
  · exact .pure ()
  · exact warnOnFailure_writes _ _ _ (announced_writes _)

theorem evictOrder_writes (s : Scope) (id : Int) (hW : OrderCache.key id ∈ W) :
    Keeps (Writes W) (evictOrder s id) :=
  Keeps.bind .state fun _ => warnOnFailure_writes _ _ _ (kept_writes _ (Redis.put_touches hW))

/-! ## what is written before it -/

theorem lookBack_writes (r : OrderRequest) : Keeps (Writes W) (lookBack r) := by
  refine Keeps.bind ?_ fun found => ?_
  · exact ((reach_writes _).bind fun _ => kept_writes _ Redis.fetch_touches).attempt
  · split <;> exact .pure _

theorem lockKey_writes (r : OrderRequest) (hW : Idempotency.lockKey r.client r.key ∈ W) :
    Keeps (Writes W) (lockKey r) := by
  refine Keeps.bind .state fun d => Keeps.bind ?_ fun got => ?_
  · exact ((reach_writes _).bind fun _ => kept_writes _ (Redis.putNew_touches hW)).context
  · split
    · exact .pure _
    · exact .raise _

theorem releaseKey_writes (r : OrderRequest) (hW : Idempotency.lockKey r.client r.key ∈ W) :
    Keeps (Writes W) (releaseKey r) :=
  (kept_writes _ (Redis.remove_touches hW)).attempt.bind fun _ => .pure _

end

/-! ## no panic -/

/-- None of these calls panics. -/
def Steady (cs : List Call) (d : Desk) : Prop := ∀ c ∈ cs, ∀ t, d.outages.lookup c ≠ some (.panics t)

theorem steady_of_no_outage {cs : List Call} {d : Desk} (h : d.outages = []) : Steady cs d := by
  intro c _ t
  rw [h]
  exact nofun

theorem Steady.of_outages {cs : List Call} {d d' : Desk} (h : Steady cs d)
    (ho : d'.outages = d.outages) : Steady cs d' := by
  intro c hc t
  rw [ho]
  exact h c hc t

/-- Does not panic while none of these calls does. -/
def Calm {α : Type} (cs : List Call) (x : Action Desk α) : Prop :=
  ∀ d, Steady cs d → (∀ t, (x d).1 ≠ .panicked t) ∧ (x d).2.outages = d.outages

section
variable {cs : List Call}

namespace Calm

variable {α β : Type}

theorem bind {x : Action Desk α} {k : α → Action Desk β} (hx : Calm cs x)
    (hk : ∀ a, Calm cs (k a)) : Calm cs (x >>= k) := by
  intro d hd
  have h := hx d hd
  rcases hxd : x d with ⟨o, d₁⟩
  rw [hxd] at h
  cases o with
  | ok a =>
    rw [Action.bind_of_ok hxd]
    have hk₁ := hk a d₁ (hd.of_outages h.2)
    exact ⟨hk₁.1, hk₁.2.trans h.2⟩
  | failed f =>
    rw [Action.bind_of_failed hxd]
    exact ⟨fun t => nofun, h.2⟩
  | panicked t => exact absurd rfl (h.1 t)

theorem pure (a : α) : Calm cs (pure a : Action Desk α) := fun _ _ => ⟨fun _ => nofun, rfl⟩

theorem state : Calm cs Action.state := fun _ _ => ⟨fun _ => nofun, rfl⟩

theorem attempt {x : Action Desk α} (hx : Calm cs x) : Calm cs x.attempt := by
  intro d hd
  have h := hx d hd
  unfold Action.attempt
  rcases hxd : x d with ⟨o, d₁⟩
  rw [hxd] at h
  cases o with
  | ok a => exact ⟨fun t => nofun, h.2⟩
  | failed f => exact ⟨fun t => nofun, h.2⟩
  | panicked t => exact absurd rfl (h.1 t)

end Calm

theorem reach_calm {c : Call} (hc : c ∈ cs) : Calm cs (reach c) := by
  intro d hd
  have hno := hd c hc
  unfold reach
  rw [Action.bind_of_ok Action.state_apply]
  cases hout : d.outages.lookup c with
  | none => exact ⟨fun t => nofun, rfl⟩
  | some o =>
    cases o with
    | fails f => exact ⟨fun t => nofun, rfl⟩
    | panics t => exact absurd hout (hno t)

theorem log_calm (s : Scope) (l : Log.Level) (m : String) (as : Log.Attrs) :
    Calm cs (log s l m as) := fun _ _ => ⟨fun _ => nofun, rfl⟩

theorem count_calm (name : String) (labels : List (String × String)) :
    Calm cs (count name labels) := fun _ _ => ⟨fun _ => nofun, rfl⟩

theorem kept_calm {α : Type} (absent : α) {x : Action Redis α}
    (hx : ∀ k t, (x k).1 ≠ .panicked t) : Calm cs (kept absent x) := by
  intro d _
  unfold kept
  cases d.redis with
  | none => exact ⟨fun t => nofun, rfl⟩
  | some k => exact ⟨hx k, rfl⟩

theorem announced_calm {x : Action Event.Broker Unit} (hx : ∀ b t, (x b).1 ≠ .panicked t) :
    Calm cs (announced x) := by
  intro d _
  unfold announced
  cases d.broker with
  | none => exact ⟨fun t => nofun, rfl⟩
  | some b => exact ⟨hx b, rfl⟩

theorem warnOnFailure_calm (s : Scope) (m : String) (id : Int) {x : Action Desk Unit}
    (hx : Calm cs x) : Calm cs (warnOnFailure s m id x) := by
  refine hx.attempt.bind fun r => ?_
  cases r with
  | ok u => exact .pure ()
  | error f => exact log_calm _ _ _ _

theorem command_no_panic {α : Type} (g : Redis.Keyspace → α × Redis.Keyspace) (k : Redis)
    (t : String) : (Redis.command g k).1 ≠ .panicked t := by
  unfold Redis.command
  cases k.refusal <;> exact nofun

theorem cacheOrder_calm (s : Scope) (o : Order) (hc : Call.cacheSet ∈ cs) :
    Calm cs (cacheOrder s o) := by
  have hset : ∀ (nanos : Int) (k : Redis) (t : String),
      (OrderCache.set nanos o k).1 ≠ .panicked t := by
    intro nanos k t
    unfold OrderCache.set
    cases OrderCache.encode o with
    | error f => exact nofun
    | ok v =>
      rw [Action.bind_of_ok Action.ofExcept_ok]
      exact command_no_panic _ k t
  refine Calm.state.bind fun d => ?_
  split
  · exact warnOnFailure_calm _ _ _ ((reach_calm hc).bind fun _ => kept_calm _ (hset _))
  · exact .pure ()

theorem rememberKey_calm (r : OrderRequest) (id : Int) (hc : Call.remember ∈ cs) :
    Calm cs (rememberKey r id) := by
  refine Calm.state.bind fun d => (Calm.attempt ?_).bind fun _ => .pure ()
  exact (reach_calm hc).bind fun _ => kept_calm () (command_no_panic _)

theorem evictOrder_calm (s : Scope) (id : Int) : Calm cs (evictOrder s id) :=
  Calm.state.bind fun _ => warnOnFailure_calm _ _ _ (kept_calm () (command_no_panic _))

theorem publish_no_panic (p : Event.Topology) (key : String) (m : Json.Value) (b : Event.Broker)
    (t : String) : (Event.publish p key m b).1 ≠ .panicked t := by
  unfold Event.publish
  cases b.manner <;> exact nofun

theorem afterwards_calm (s : Scope) (r : OrderRequest) (keyed : Bool) (o : Order) :
    Calm [.cacheSet, .remember] (afterwards s r keyed o) := by
  refine Calm.bind ?_ fun _ => .pure _
  refine (count_calm _ _).bind fun _ => (log_calm _ _ _ _).bind fun _ => ?_
  have hset : Calm [.cacheSet, .remember] (cacheOrder s o) := cacheOrder_calm s o List.mem_cons_self
  have hrest := hset.bind fun _ => Calm.state.bind fun d =>
    warnOnFailure_calm s "publish order.created failed" o.id
      (announced_calm
        (publish_no_panic d.policy.topology d.policy.topology.createdKey o.created.value))
  cases keyed with
  | true =>
    have hremember : Calm [.cacheSet, .remember] (rememberKey r o.id) :=
      rememberKey_calm r o.id (List.mem_cons_of_mem _ List.mem_cons_self)
    exact hremember.bind fun _ => hrest
  | false => exact hrest

/-- while neither the cache nor the memory of keys panics, a committed order is answered -/
theorem afterwards_ok (s : Scope) (r : OrderRequest) (keyed : Bool) (o : Order) {d : Desk}
    (hd : Steady [.cacheSet, .remember] d) : ∃ d', afterwards s r keyed o d = (.ok o.summary, d') := by
  have hcalm := (afterwards_calm s r keyed o d hd).1
  rcases h : afterwards s r keyed o d with ⟨out, d'⟩
  rw [h] at hcalm
  cases out with
  | ok a =>
    obtain ⟨u, d₁, -, ha⟩ := Action.bind_ok_iff.mp h
    rw [← Outcome.ok.inj (Prod.mk.inj ha).1]
    exact ⟨d', rfl⟩
  | failed f => exact absurd h (afterwards_unfailing s r keyed o d f d')
  | panicked t => exact absurd rfl (hcalm t)

theorem afterMove_calm (s : Scope) (id : Int) (before after : Order) :
    Calm [.cacheSet] (afterMove s id before after) := by
  refine (count_calm _ _).bind fun _ => (log_calm _ _ _ _).bind fun _ => ?_
  refine (cacheOrder_calm s after List.mem_cons_self).bind fun _ => Calm.state.bind fun d => ?_
  split
  · exact .pure ()
  · refine warnOnFailure_calm _ _ _ (announced_calm ?_)
    exact publish_no_panic _ _ _

/-- while the cache does not panic, a committed move is one that went well -/
theorem afterMove_ok (s : Scope) (id : Int) (before after : Order) {d : Desk}
    (hd : Steady [.cacheSet] d) : ∃ d', afterMove s id before after d = (.ok (), d') := by
  have hcalm := (afterMove_calm s id before after d hd).1
  rcases h : afterMove s id before after d with ⟨out, d'⟩
  rw [h] at hcalm
  cases out with
  | ok u => exact ⟨d', rfl⟩
  | failed f => exact absurd h (afterMove_unfailing s id before after d f d')
  | panicked t => exact absurd rfl (hcalm t)

end

end OrderDesk.Desk
