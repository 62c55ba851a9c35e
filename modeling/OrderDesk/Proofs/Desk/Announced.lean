import OrderDesk.Proofs.Desk.Requests

/-!
# What is announced

Two steps reach the broker, one after a committed order and one after a committed move. Every other
step leaves it as it was, however it ends.

* `Event.Notice`, `Event.Broker.noting`     the two announcements, and a broker that took them;
* `Hushed x`              leaves the broker as it was;
* `Says ns x`             ends in a value, and announces `ns`, while the broker accepts everything;
* `afterwards_announces`  what follows a committed order announces it;
* `afterMove_announces`   what follows a move announces it, unless it led nowhere else.
-/

namespace OrderDesk.Event

inductive Notice where
  | created (m : Created)
  | statusChanged (m : StatusChanged)
  deriving DecidableEq

def Notice.publication (t : Topology) : Notice → Publication
  | created m => ⟨t.exchange, t.createdKey, m.value.text⟩
  | statusChanged m => ⟨t.exchange, t.statusChangedKey, m.value.text⟩

def Notice.created? : Notice → Option Created
  | created m => some m
  | statusChanged _ => none

/-- the move of the order `id` that is announced, if it is one -/
def Notice.move? (id : Int) : Notice → Option StatusChanged
  | created _ => none
  | statusChanged m => if m.orderId = id then some m else none

/-- a broker that took some announcements -/
def Broker.noting (t : Topology) (b : Broker) (ns : List Notice) : Broker :=
  { b with published := b.published ++ ns.map (·.publication t) }

section
variable {t : Topology} {b : Broker} {ns ms : List Notice}

theorem Broker.noting_nil : b.noting t [] = b := by
  show { b with published := b.published ++ [] } = b
  rw [List.append_nil]

theorem Broker.noting_append : (b.noting t ns).noting t ms = b.noting t (ns ++ ms) := by
  show { b with published := (b.published ++ ns.map _) ++ ms.map _ } = { b with published := _ }
  rw [List.append_assoc, ← List.map_append]

theorem publish_accepted {key : String} {m : Json.Value} (h : b.manner = .confirms) :
    publish t key m b
      = (.ok (), { b with published := b.published ++ [⟨t.exchange, key, m.text⟩] }) := by
  unfold publish
  rw [h]

end

end OrderDesk.Event

namespace OrderDesk.Desk

open OrderDesk.Action (Keeps Fixed)
open Event (Notice Broker)
open Store (Backend)

/-! ## steps that announce nothing -/

/-- Leaves the broker as it was. -/
abbrev Hushed {α : Type} (x : Action Desk α) : Prop := Keeps (Fixed Desk.broker) x

section
variable {α : Type}

theorem reach_hushed (c : Call) : Hushed (reach c) :=
  (reach_fixed c).mono fun _ _ h => congrArg Desk.broker h

theorem log_hushed (s : Scope) (l : Log.Level) (m : String) (as : Log.Attrs) :
    Hushed (log s l m as) := fun _ => rfl

theorem count_hushed (name : String) (labels : List (String × String)) :
    Hushed (count name labels) := fun _ => rfl

theorem kept_hushed (absent : α) (x : Action Redis α) : Hushed (kept absent x) := by
  intro d
  unfold kept
  cases d.redis <;> rfl

theorem onStore_hushed (x : Action Backend α) : Hushed (Store.onStore x : Action Desk α) :=
  fun _ => rfl

theorem stored_hushed (c : Call) (x : Action Backend α) : Hushed (stored c x) :=
  (reach_hushed c).bind fun _ => onStore_hushed x

theorem transaction_hushed {x : Action Desk α} (hx : Works x) : Hushed (transaction x) := by
  refine (transaction_beside hx).mono fun d d' h => ?_
  simp only [Fixed, beside, Prod.mk.injEq] at h
  exact h.2.2.1

theorem warnOnFailure_hushed (s : Scope) (m : String) (id : Int) {x : Action Desk Unit}
    (hx : Hushed x) : Hushed (warnOnFailure s m id x) := by
  refine hx.attempt.bind fun r => ?_
  cases r with
  | ok u => exact .pure ()
  | error f => exact log_hushed _ _ _ _

theorem cacheOrder_hushed (s : Scope) (o : Order) : Hushed (cacheOrder s o) := by
  refine Keeps.bind .state fun d => ?_
  split
  · exact warnOnFailure_hushed _ _ _ ((reach_hushed _).bind fun _ => kept_hushed _ _)
  · exact .pure ()

theorem evictOrder_hushed (s : Scope) (id : Int) : Hushed (evictOrder s id) :=
  Keeps.bind .state fun _ => warnOnFailure_hushed _ _ _ (kept_hushed _ _)

theorem fillCache_hushed (s : Scope) (id : Int) (o : Order) : Hushed (fillCache s id o) :=
  Keeps.bind .state fun _ => warnOnFailure_hushed _ _ _ (kept_hushed _ _)

theorem cachedOrder_hushed (s : Scope) (id : Int) : Hushed (cachedOrder s id) := by
  refine Keeps.bind .state fun d => ?_
  split
  · refine Keeps.bind ((reach_hushed _).bind fun _ => kept_hushed _ _).attempt fun r => ?_
    split
    · exact .pure _
    · exact (log_hushed _ _ _ _).bind fun _ => .pure _
  · exact .pure _

/-! ### keys of clients -/

theorem lookBack_hushed (r : OrderRequest) : Hushed (lookBack r) := by
  refine Keeps.bind ((reach_hushed _).bind fun _ => kept_hushed _ _).attempt fun found => ?_
  split <;> exact .pure _

theorem lockKey_hushed (r : OrderRequest) : Hushed (lockKey r) := by
  refine Keeps.bind .state fun d => Keeps.bind ?_ fun got => ?_
  · exact ((reach_hushed _).bind fun _ => kept_hushed _ _).context
  · split
    · exact .pure _
    · exact .raise _

theorem releaseKey_hushed (r : OrderRequest) : Hushed (releaseKey r) :=
  (kept_hushed _ _).attempt.bind fun _ => .pure _

theorem rememberKey_hushed (r : OrderRequest) (id : Int) : Hushed (rememberKey r id) :=
  Keeps.bind .state fun _ =>
    (Keeps.attempt ((reach_hushed _).bind fun _ => kept_hushed _ _)).bind fun _ => .pure _

theorem replay_hushed (s : Scope) (raw : String) : Hushed (replay s raw) := by
  unfold replay
  split
  · exact .fail _
  · exact (stored_hushed _ _).bind fun o => (log_hushed _ _ _ _).bind fun _ => .pure _

theorem storeOrRelease_hushed (r : OrderRequest) (keyed : Bool) :
    Hushed (storeOrRelease r keyed) := by
  refine (transaction_hushed (placeOrder_works r.items)).orElse fun f => ?_
  cases keyed with
  | true => exact (releaseKey_hushed r).bind fun _ => .fail _
  | false => exact .fail _

/-! ### queries -/

theorem Query.hushed (q : Query) : Hushed q.perform := by
  have hquiet : ∀ {β : Type} {x : Action Desk β}, Hushed x → Hushed (quietly x) :=
    fun hx => hx.bind fun _ => .pure _
  cases q with
  | getOrder s id =>
    refine hquiet ((cachedOrder_hushed s id).bind fun found => ?_)
    cases found with
    | some o => exact .pure _
    | none =>
      exact (stored_hushed _ _).bind fun o => (fillCache_hushed _ _ _).bind fun _ => .pure _
  | listOrders status page => exact hquiet ((stored_hushed _ _).bind fun _ => .pure _)
  | getProduct id => exact hquiet (stored_hushed _ _)
  | listProducts fragment page => exact hquiet (onStore_hushed _)
  | getCategory id => exact hquiet (onStore_hushed _)
  | listCategories => exact hquiet (onStore_hushed _)

end

/-! ## steps that announce something -/

/-- A broker that accepts everything, at a desk where nothing panics after a change. -/
structure Heard (d : Desk) (b : Broker) : Prop where
  broker : d.broker = some b
  accepts : b.manner = .confirms
  steady : Steady [.cacheSet, .remember] d

/-- While the broker accepts everything, ends in a value and announces `ns`. -/
def Says {α : Type} (ns : List Notice) (x : Action Desk α) : Prop := ∀ d b, Heard d b →
  ∃ a d', x d = (.ok a, d') ∧ terms d' = terms d ∧ d'.broker = some (b.noting d.policy.topology ns)

section
variable {α β : Type} {ns ms : List Notice} {d d' : Desk} {b : Broker}

theorem policy_of_terms (h : terms d' = terms d) : d'.policy = d.policy := congrArg Prod.fst h

theorem Heard.of_terms (h : Heard d b) (ht : terms d' = terms d) {t : Event.Topology}
    (hb : d'.broker = some (b.noting t ns)) : Heard d' (b.noting t ns) :=
  ⟨hb, h.accepts, h.steady.of_outages (congrArg (fun t => t.2.2.1) ht)⟩

theorem Heard.carry (h : Heard d b) (ht : terms d' = terms d) (hb : d'.broker = d.broker) :
    Heard d' b := ⟨hb.trans h.broker, h.accepts, h.steady.of_outages (congrArg (fun t => t.2.2.1) ht)⟩

theorem Says.bind {x : Action Desk α} {k : α → Action Desk β} (hx : Says ns x)
    (hk : ∀ a, Says ms (k a)) : Says (ns ++ ms) (x >>= k) := by
  intro d b h
  obtain ⟨a, d₁, hrun, hterms, hb⟩ := hx d b h
  obtain ⟨c, d₂, hrest, hterms', hb'⟩ := hk a d₁ _ (h.of_terms hterms hb)
  refine ⟨c, d₂, (Action.bind_of_ok hrun).trans hrest, hterms'.trans hterms, ?_⟩
  rw [hb', policy_of_terms hterms, Event.Broker.noting_append]

theorem Says.of_state {k : Desk → Action Desk α} (hk : ∀ d b, Heard d b → ∃ a d',
    k d d = (.ok a, d') ∧ terms d' = terms d ∧ d'.broker = some (b.noting d.policy.topology ns)) :
    Says ns (Action.state >>= k) := fun d b h => hk d b h

/-- a step that neither fails nor panics, and announces nothing -/
theorem silent_of_hushed {W : List String} {x : Action Desk α} (hu : Unfailing x)
    (hc : Calm [.cacheSet, .remember] x) (hw : Keeps (Writes W) x) (hh : Hushed x) : Says [] x := by
  intro d b h
  have hcalm := (hc d h.steady).1
  have hterms : terms (x d).2 = terms d := (hw d).terms
  have hbroker : (x d).2.broker = d.broker := hh d
  rcases hrun : x d with ⟨out, d'⟩
  rw [hrun] at hcalm hterms hbroker
  cases out with
  | ok a =>
    refine ⟨a, d', rfl, hterms, ?_⟩
    rw [Event.Broker.noting_nil]
    exact hbroker.trans h.broker
  | failed f => exact absurd hrun (hu d f d')
  | panicked t => exact absurd rfl (hcalm t)

theorem Says.pure (a : α) : Says [] (pure a : Action Desk α) :=
  silent_of_hushed (W := []) (.pure a) (.pure a) (.pure a) (.pure a)

theorem log_silent (s : Scope) (l : Log.Level) (m : String) (as : Log.Attrs) :
    Says [] (log s l m as) :=
  silent_of_hushed (W := []) (.change _) (log_calm s l m as) (log_writes s l m as)
    (log_hushed s l m as)

theorem count_silent (name : String) (labels : List (String × String)) :
    Says [] (count name labels) :=
  silent_of_hushed (W := []) (.change _) (count_calm name labels) (count_writes name labels)
    (count_hushed name labels)

theorem cacheOrder_silent (s : Scope) (o : Order) : Says [] (cacheOrder s o) :=
  silent_of_hushed (cacheOrder_unfailing s o) (cacheOrder_calm s o List.mem_cons_self)
    (cacheOrder_writes s o (List.mem_singleton_self _)) (cacheOrder_hushed s o)

theorem rememberKey_silent (r : OrderRequest) (id : Int) : Says [] (rememberKey r id) :=
  silent_of_hushed (rememberKey_unfailing r id)
    (rememberKey_calm r id (List.mem_cons_of_mem _ List.mem_cons_self))
    (rememberKey_writes r id (List.mem_singleton_self _)) (rememberKey_hushed r id)

theorem evictOrder_silent (s : Scope) (id : Int) : Says [] (evictOrder s id) :=
  silent_of_hushed (evictOrder_unfailing s id) (evictOrder_calm s id)
    (evictOrder_writes s id (List.mem_singleton_self _)) (evictOrder_hushed s id)

/-- what is published with a warning when it fails is announced to a broker that accepts it -/
theorem publication_announced (s : Scope) (m : String) (id : Int) {d : Desk} {b : Broker} (h : Heard d b)
    (n : Notice) {key : String} {v : Json.Value}
    (hn : n.publication d.policy.topology = ⟨d.policy.topology.exchange, key, v.text⟩) :
    ∃ a d', warnOnFailure s m id (announced (Event.publish d.policy.topology key v)) d
        = (.ok a, d') ∧ terms d' = terms d ∧
      d'.broker = some (b.noting d.policy.topology [n]) := by
  have hpublish : Event.publish d.policy.topology key v b
      = (.ok (), b.noting d.policy.topology [n]) := by
    rw [Event.publish_accepted h.accepts, ← hn]
    rfl
  have hrun : announced (Event.publish d.policy.topology key v) d
      = (.ok (), { d with broker := some (b.noting d.policy.topology [n]) }) := by
    unfold announced
    rw [h.broker]
    simp only [hpublish]
  exact ⟨(), _, warnOnFailure_ok s m id hrun, rfl, rfl⟩

/-- **What follows a committed order announces it.** -/
theorem afterwards_announces (s : Scope) (r : OrderRequest) (keyed : Bool) (o : Order) :
    Says [.created o.created] (afterwards s r keyed o) := by
  have hannounce : Says [.created o.created] (do
      let d ← Action.state
      warnOnFailure s "publish order.created failed" o.id
        (announced (Event.publishCreated d.policy.topology o.created))) :=
    Says.of_state fun d b h => publication_announced s _ o.id h (.created o.created) rfl
  have hrest := (cacheOrder_silent s o).bind fun _ => hannounce
  have hafter : Says [.created o.created] (afterCreation s r keyed o) → Says [.created o.created]
      (afterwards s r keyed o) := fun h => h.bind fun _ => .pure _
  refine hafter ?_
  refine (count_silent _ _).bind fun _ => (log_silent _ _ _ _).bind fun _ => ?_
  cases keyed with
  | true => exact (rememberKey_silent r o.id).bind fun _ => hrest
  | false => exact hrest

/-- the announcement of a move, if it led to another status -/
def moveNotices (id : Int) (before after : Order) : List Notice :=
  if before.status.name = after.status.name then []
  else [.statusChanged ⟨id, before.status.name, after.status.name⟩]

/-- **What follows a committed move announces it**, unless it led nowhere else. -/
theorem afterMove_announces (s : Scope) (id : Int) (before after : Order) :
    Says (moveNotices id before after) (afterMove s id before after) := by
  have hannounce : Says (moveNotices id before after) (do
      let d ← Action.state
      if before.status.name = after.status.name then Pure.pure ()
      else warnOnFailure s "publish order.status_changed failed" id (announced
        (Event.publishStatusChanged d.policy.topology
          ⟨id, before.status.name, after.status.name⟩))) := by
    refine Says.of_state fun d b h => ?_
    unfold moveNotices
    by_cases hsame : before.status.name = after.status.name
    · rw [if_pos hsame, if_pos hsame]
      exact Says.pure () d b h
    · rw [if_neg hsame, if_neg hsame]
      exact publication_announced s _ id h (.statusChanged _) rfl
  refine (count_silent _ _).bind fun _ => (log_silent _ _ _ _).bind fun _ => ?_
  exact (cacheOrder_silent s after).bind fun _ => hannounce

end

end OrderDesk.Desk
