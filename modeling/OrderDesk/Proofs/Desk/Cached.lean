import OrderDesk.Proofs.Desk.Atomicity

/-!
# What is left in the cache

While the keyspace answers, what is written to the cache after a committed change is there, whatever
else goes on.

* `Answering`           the keyspace is there and takes commands;
* `Passing`             ends in a value, and the keyspace goes on to answer;
* `Leaves name raw`     leaves a value under a name;
* `afterwards_leaves`, `afterMove_leaves`, `evictOrder_leaves`      what follows each change.
-/

namespace OrderDesk.Desk

open OrderDesk.Action (Keeps)

/-- The keyspace is there and takes commands, and no call on it is out of order. -/
def Answering (d : Desk) : Prop :=
  d.redis.map Redis.refusal = some none ∧
    ∀ c ∈ [Call.cacheGet, .cacheSet, .tryLock, .remember, .lookBack], d.outages.lookup c = none

/-! ## entries that are written -/

section
variable {W : List String} {d d' : Desk}

theorem Writes.rest (h : Writes W d d') : Writes W { d with store := d'.store } d' :=
  ⟨h.terms, rfl, h.entries⟩

theorem Answering.of_terms (h : Answering d) (ht : terms d' = terms d) : Answering d' := by
  simp only [terms, Prod.mk.injEq] at ht
  obtain ⟨-, -, hout, hredis⟩ := ht
  exact ⟨hredis.trans h.1, fun c hc => by rw [hout]; exact h.2 c hc⟩

theorem Answering.reach (h : Answering d) {c : Call}
    (hc : c ∈ [Call.cacheGet, .cacheSet, .tryLock, .remember, .lookBack]) :
    reach c d = (.ok (), d) := reach_ok_iff.mpr ⟨h.2 c hc, rfl⟩

theorem Answering.kept_put (h : Answering d) (name value : String) (nanos : Int) :
    ∃ d', kept () (Redis.put name value nanos) d = (.ok (), d') ∧
      ∃ left, entry name d' = some ⟨value, left⟩ := by
  obtain ⟨k, hk, hrefusal⟩ := Option.map_eq_some_iff.mp h.1
  have hput : Redis.put name value nanos k = _ := Redis.put_of_none hrefusal
  refine ⟨_, kept_eq_iff.mpr (.inr ⟨k, _, hk, hput, rfl⟩), Redis.timeFor k.keys name nanos, ?_⟩
  simp [entry]

end

/-- From a desk whose keyspace answers it ends in a value, and the keyspace goes on to answer. -/
def Passing {α : Type} (x : Action Desk α) : Prop :=
  ∀ d, Answering d → ∃ a d', x d = (.ok a, d') ∧ Answering d'

/-- From a desk whose keyspace answers it leaves a value under a name. -/
def Leaves {α : Type} (name raw : String) (x : Action Desk α) : Prop :=
  ∀ d, Answering d → ∃ left, entry name (x d).2 = some ⟨raw, left⟩

section
variable {α β : Type} {x : Action Desk α} {rest : α → Action Desk β} {name raw : String}

theorem Leaves.after (hx : Passing x) (hrest : ∀ a, Leaves name raw (rest a)) :
    Leaves name raw (x >>= rest) := by
  intro d hd
  obtain ⟨a, d₁, hrun, hd₁⟩ := hx d hd
  rw [Action.bind_of_ok hrun]
  exact hrest a d₁ hd₁

theorem Leaves.before (hx : Leaves name raw x) (hrest : ∀ a, Keeps (Writes []) (rest a)) :
    Leaves name raw (x >>= rest) := by
  intro d hd
  obtain ⟨left, hentry⟩ := hx d hd
  rcases Action.bind_ends x rest d with ⟨a, d₁, hrun, hend⟩ | ⟨-, -, hend⟩
  · have hsame : Writes [] d₁ (rest a d₁).2 := hrest a d₁
    rw [hrun] at hentry
    rw [hend]
    exact ⟨left, (hsame.entries name List.not_mem_nil).trans hentry⟩
  · rw [hend]
    exact ⟨left, hentry⟩

theorem count_passing (name : String) (labels : List (String × String)) :
    Passing (count name labels) := fun _ hd => ⟨_, _, count_apply, hd.of_terms rfl⟩

theorem log_passing (s : Scope) (l : Log.Level) (m : String) (as : Log.Attrs) :
    Passing (log s l m as) := fun _ hd => ⟨_, _, log_apply, hd.of_terms rfl⟩

theorem rememberKey_passing (r : OrderRequest) (id : Int) : Passing (rememberKey r id) := by
  intro d hd
  obtain ⟨d₁, hput, -⟩ := hd.kept_put (Idempotency.resultKey r.client r.key) (toString id)
    d.policy.idempotencyTime
  have hboth : (do
      reach .remember
      kept () (Idempotency.remember d.policy.idempotencyTime r.client r.key (toString id))
        : Action Desk Unit) d = (.ok (), d₁) := by
    rw [Action.bind_of_ok (hd.reach (by simp))]
    exact hput
  have hrun : rememberKey r id d = (.ok (), d₁) := by
    unfold rememberKey
    rw [Action.bind_of_ok Action.state_apply,
      Action.attempt_bind_of_ok hboth]
    rfl
  have hsame : Writes [Idempotency.resultKey r.client r.key] d d₁ :=
    (rememberKey_writes r id List.mem_cons_self).of_eq hrun
  exact ⟨(), d₁, hrun, hd.of_terms hsame.terms⟩

end

section
variable {o : Order} {raw : String}

theorem cacheOrder_leaves (s : Scope) (hraw : OrderCache.encode o = .ok raw) :
    Leaves (OrderCache.key o.id) raw (cacheOrder s o) := by
  intro d hd
  obtain ⟨d₁, hput, hentry⟩ := hd.kept_put (OrderCache.key o.id) raw d.policy.cacheTime
  have hset : (do
      reach .cacheSet
      kept () (OrderCache.set d.policy.cacheTime o) : Action Desk Unit) d = (.ok (), d₁) := by
    rw [Action.bind_of_ok (hd.reach (by simp))]
    show kept () (Action.ofExcept (OrderCache.encode o) >>= fun raw =>
      Redis.put (OrderCache.key o.id) raw d.policy.cacheTime) d = _
    rw [hraw]
    exact hput
  have hsome : d.redis.isSome = true := by
    obtain ⟨k, hk, -⟩ := Option.map_eq_some_iff.mp hd.1
    rw [hk]
    rfl
  unfold cacheOrder
  rw [Action.bind_of_ok Action.state_apply, if_pos hsome, warnOnFailure_ok s _ _ hset]
  exact hentry

theorem evictOrder_leaves (s : Scope) (id : Int) :
    Leaves (OrderCache.key id) OrderCache.tombstone (evictOrder s id) := by
  intro d hd
  obtain ⟨d₁, hput, hentry⟩ :=
    hd.kept_put (OrderCache.key id) OrderCache.tombstone d.policy.cacheTime
  have hrun : evictOrder s id d = (.ok (), d₁) := warnOnFailure_ok s _ _ hput
  rw [hrun]
  exact hentry

theorem afterCreation_leaves (s : Scope) (r : OrderRequest) (keyed : Bool)
    (hraw : OrderCache.encode o = .ok raw) :
    Leaves (OrderCache.key o.id) raw (afterCreation s r keyed o) := by
  refine .after (count_passing _ _) fun _ => .after (log_passing _ _ _ _) fun _ => ?_
  have hrest := (cacheOrder_leaves s hraw).before fun _ => Keeps.bind .state fun d =>
    warnOnFailure_writes s "publish order.created failed" o.id
      (announced_writes (Event.publishCreated d.policy.topology o.created))
  cases keyed with
  | true => exact .after (rememberKey_passing r o.id) fun _ => hrest
  | false => exact hrest

theorem afterwards_leaves (s : Scope) (r : OrderRequest) (keyed : Bool)
    (hraw : OrderCache.encode o = .ok raw) :
    Leaves (OrderCache.key o.id) raw (afterwards s r keyed o) :=
  (afterCreation_leaves s r keyed hraw).before fun _ => .pure _

theorem afterMove_leaves (s : Scope) (id : Int) (before : Order)
    (hraw : OrderCache.encode o = .ok raw) :
    Leaves (OrderCache.key o.id) raw (afterMove s id before o) := by
  refine .after (count_passing _ _) fun _ => .after (log_passing _ _ _ _) fun _ => ?_
  refine (cacheOrder_leaves s hraw).before fun _ => Keeps.bind .state fun d => ?_
  split
  · exact .pure ()
  · exact warnOnFailure_writes _ _ _ (announced_writes _)

end

end OrderDesk.Desk
