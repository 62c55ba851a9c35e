import OrderDesk.Proofs.Desk.Keyed

/-!
# One order for a key

Whatever creations go on side by side, at most one of those under a key stores an order, and whoever
finds the key remembered is answered with that order. The lock of a key is there from before the
order is stored; it is only given back by a creation that took it and stored nothing.

* `Hall.holders`, `Hall.count`      who holds the lock of a key, and how many orders it led to;
* `Guarded`                         together they are one at most, and the lock is there;
* `once_turned`                     what a step of a creation leaves of that;
* `Hall.Sound`                      what every step keeps true;
* `Step.sound`, `sound_of_steps`    that it does.
-/

namespace OrderDesk.Desk

open Idempotency (Slot)
open Store (Backend Database Tables)

/-! ## who holds a lock -/

/-- A creation has the lock, and has stored nothing. -/
def Phase.holding : Phase → Bool
  | .locked | .refused _ => true
  | _ => false

/-- The creation has the lock of a slot, and has stored nothing. -/
def Job.holds (p : Slot) (j : Job) : Bool := decide (j.request.slot = p) && j.phase.holding

def Hall.holders (h : Hall) (p : Slot) : Nat := h.jobs.countP (Job.holds p)

/-- how many orders a slot led to -/
def Hall.count (h : Hall) (p : Slot) : Nat := h.commits.countP fun c => decide (c.1 = p)

/-- One creation at most has the lock or has stored an order; then the lock is there. What is
remembered under the key is the order that was stored. -/
structure Guarded (h : Hall) (p : Slot) : Prop where
  once : h.holders p + h.count p ≤ 1
  locked : 0 < h.holders p + h.count p → (entry p.lock h.desk).isSome
  known : ∀ e, entry p.result h.desk = some e → ∃ o, (p, o) ∈ h.commits ∧ e.value = toString o.id

/-- What a creation has found or stored is what its key led to. -/
def Job.Backed (commits : List (Slot × Order)) (j : Job) : Prop :=
  match j.phase with
  | .found raw => ∃ o, (j.request.slot, o) ∈ commits ∧ raw = toString o.id
  | .stored o => (j.request.slot, o) ∈ commits
  | _ => True

/-- What every step keeps true of the creations under a slot. -/
structure Hall.Sound (C : Stamp → Prop) (p : Slot) (h : Hall) : Prop where
  ready : ∃ db, h.desk.store = .embedded db ∧ Ready db ∧
    ((∀ t, C t → t.InCalendar) → ∀ c ∈ h.commits, Lasts db.tables c.2)
  redis : h.desk.redis.isSome
  clock : C h.desk.clock.utc
  jobs : ∀ j ∈ h.jobs, j.request.Keyed ∧ j.phase.Formed j.request ∧
    (j.request.slot = p → j.Backed h.commits)
  guarded : Guarded h p
  ids : ∀ c ∈ h.commits, Word.InRange c.2.id

section
variable {h : Hall} {j : Job} {p : Slot} {commits commits' : List (Slot × Order)}

theorem Job.Backed.mono (hj : j.Backed commits) (hsub : commits ⊆ commits') : j.Backed commits' := by
  unfold Job.Backed at hj ⊢
  split at hj
  · obtain ⟨o, hmem, hraw⟩ := hj
    exact ⟨o, hsub hmem, hraw⟩
  · exact hsub hj
  · trivial

theorem Job.backed_of_quiet (hq : j.phase.Quiet) : j.Backed commits := by
  unfold Job.Backed
  split
  · next h => rw [h] at hq; exact hq.elim
  · next h => rw [h] at hq; exact hq.elim
  · trivial

theorem holding_of_quiet {q : Phase} (hq : q.Quiet) : q.holding = false := by
  cases q <;> first | exact hq.elim | rfl

theorem committed?_of_quiet {q q' : Phase} (hq : q'.Quiet) : q.committed? q' = none := by
  cases q' <;> first | exact hq.elim | (cases q <;> rfl)

theorem Job.holds_of_ne (hne : j.request.slot ≠ p) : j.holds p = false := by
  simp [Job.holds, hne]

theorem Job.holds_self : j.holds j.request.slot = j.phase.holding := by
  simp [Job.holds]

theorem Guarded.congr {h' : Hall} (hg : Guarded h p) (hjobs : h'.holders p = h.holders p)
    (hcount : h'.count p = h.count p) (hsub : h.commits ⊆ h'.commits)
    (hlock : entry p.lock h'.desk = entry p.lock h.desk)
    (hresult : entry p.result h'.desk = entry p.result h.desk) : Guarded h' p where
  once := by
    rw [hjobs, hcount]
    exact hg.once
  locked := by
    rw [hjobs, hcount, hlock]
    exact hg.locked
  known e he := by
    rw [hresult] at he
    obtain ⟨o, hmem, hval⟩ := hg.known e he
    exact ⟨o, hsub hmem, hval⟩

end

/-! ## steps -/

section
variable {C : Stamp → Prop} {p : Slot} {h : Hall}

theorem Hall.Sound.begin (hh : h.Sound C p) (s : Scope) {r : OrderRequest} (hr : r.Keyed) :
    Hall.Sound C p { h with jobs := ⟨s, r, .begun⟩ :: h.jobs } := by
  have hholders : Hall.holders { h with jobs := ⟨s, r, .begun⟩ :: h.jobs } p = h.holders p := by
    have hno : ¬ (Job.holds p ⟨s, r, .begun⟩ = true) := by simp [Job.holds, Phase.holding]
    exact List.countP_cons_of_neg hno
  refine ⟨hh.ready, hh.redis, hh.clock, fun j hj => ?_, ?_, hh.ids⟩
  · rcases List.mem_cons.mp hj with rfl | hj
    · exact ⟨hr, trivial, fun _ => trivial⟩
    · exact hh.jobs j hj
  · exact hh.guarded.congr hholders rfl (List.Subset.refl _) rfl rfl

theorem Drift.entry {d d' : Desk} (hd : Drift C d d') (name : String) :
    entry name d' = entry name d := by
  have hkeys : ∀ d : Desk, Desk.entry name d = (d.redis.map Redis.keys).bind (·.get? name) := by
    intro d
    unfold Desk.entry
    rw [Option.bind_map]
    rfl
  rw [hkeys, hkeys, hd.keys]

theorem Hall.Sound.drift (hh : h.Sound C p) {d : Desk} (hd : Drift C h.desk d) :
    Hall.Sound C p { h with desk := d } := by
  have hsome := congrArg Option.isSome hd.keys
  simp only [Option.isSome_map] at hsome
  refine ⟨?_, hsome.trans hh.redis, hd.clock, hh.jobs, ?_, hh.ids⟩
  · obtain ⟨db, hs, hrest⟩ := hh.ready
    exact ⟨db, hd.store.trans hs, hrest⟩
  · exact hh.guarded.congr rfl rfl (List.Subset.refl _) (hd.entry _) (hd.entry _)

/-- a call that is no creation under a key writes entries of orders only -/
theorem Request.Unkeyed.names {r : Request} (hr : r.Unkeyed) (c : Change) :
    ∀ name ∈ c.names ++ r.names, ∃ id, name = OrderCache.key id := by
  intro name hmem
  rcases List.mem_append.mp hmem with hmem | hmem
  · cases c with
    | placed o | moved o => exact ⟨o.id, List.mem_singleton.mp hmem⟩
    | erased id => exact ⟨id, List.mem_singleton.mp hmem⟩
    | idle | catalog => cases hmem
  · cases r with
    | look q =>
      cases q with
      | getOrder s id => exact ⟨id, List.mem_singleton.mp hmem⟩
      | _ => cases hmem
    | change op =>
      cases op with
      | createOrder s r =>
        have hnone : r.names = [] := if_pos hr
        rw [show Request.names _ = r.names from rfl, hnone] at hmem
        cases hmem
      | _ => cases hmem

theorem Hall.Sound.call (hh : h.Sound C p) {r : Request} (hr : r.Unkeyed) :
    Hall.Sound C p { h with desk := (r.perform h.desk).2 } := by
  obtain ⟨db, hs, hready, hlasts⟩ := hh.ready
  obtain ⟨c, limit, ts, hdeed, hsound, hdoes, hs', hready'⟩ := hready.deed hs r
  have hentry : ∀ name, (∀ id, name ≠ OrderCache.key id) →
      entry name (r.perform h.desk).2 = entry name h.desk := by
    intro name hne
    refine hdeed.writes.entries name fun hmem => ?_
    obtain ⟨id, hid⟩ := hr.names c name hmem
    exact hne id hid
  refine ⟨⟨_, hs', hready', fun hC c' hc' => ?_⟩, ?_, ?_, hh.jobs, ?_, hh.ids⟩
  · have hnow := Store.time?_stored (show h.desk.clock.utc.InCalendar from hC _ hh.clock)
    exact hdoes.lasts hsound.kept hready.counted hnow (hlasts hC c' hc')
  · exact (isSome_of_terms hdeed.writes.terms).trans hh.redis
  · show C (r.perform h.desk).2.clock.utc
    rw [show (r.perform h.desk).2.clock = h.desk.clock from clock_of_terms hdeed.writes.terms]
    exact hh.clock
  · exact hh.guarded.congr rfl rfl (List.Subset.refl _)
      (hentry _ fun id he => OrderCache.key_ne_lock p he.symm)
      (hentry _ fun id he => OrderCache.key_ne_result p he.symm)

/-! ## steps of a creation -/

theorem Hall.turn_of_none {i : Nat} (hi : h.jobs[i]? = none) : h.turn i = h := by
  unfold Hall.turn
  rw [hi]

/-- a step of a creation, with the creations before it and after it -/
theorem Hall.turn_of_some {i : Nat} {j : Job} (hi : h.jobs[i]? = some j) :
    ∃ pre post, h.jobs = pre ++ j :: post ∧
      h.turn i = h.moved j (j.phase.turn j.scope j.request h.desk).1
        (j.phase.turn j.scope j.request h.desk).2
        (pre ++ { j with phase := (j.phase.turn j.scope j.request h.desk).1 } :: post) := by
  obtain ⟨hlt, rfl⟩ := List.getElem?_eq_some_iff.mp hi
  obtain ⟨pre, post, hjobs, -, hset⟩ := @List.exists_of_set _ i { h.jobs[i] with
    phase := (h.jobs[i].phase.turn h.jobs[i].scope h.jobs[i].request h.desk).1 } _ hlt
  refine ⟨pre, post, hjobs, ?_⟩
  unfold Hall.turn
  rw [hi]
  simp only [hset]

section
variable {pre post : List Job} {j : Job} {p' : Phase} {d' : Desk}

/-- the holders of a slot before and after a step of one creation -/
theorem holders_moved (p : Slot) (d' : Desk) (p' : Phase) (hjobs : h.jobs = pre ++ j :: post) :
    (h.moved j p' d' (pre ++ { j with phase := p' } :: post)).holders p
        + (if j.holds p then 1 else 0)
      = h.holders p + if Job.holds p { j with phase := p' } then 1 else 0 := by
  unfold Hall.holders Hall.moved
  rw [hjobs, List.countP_append, List.countP_append, List.countP_cons, List.countP_cons]
  omega

theorem Guarded.moved_ne (hg : Guarded h p) (hp : p.Plain) (hj : j.request.Keyed)
    (hjobs : h.jobs = pre ++ j :: post) (ht : Turned j.request j.phase p' h.desk d')
    (hne : j.request.slot ≠ p) :
    Guarded (h.moved j p' d' (pre ++ { j with phase := p' } :: post)) p := by
  have hlock : p.lock ∉ j.request.names := by
    rw [hj.names]
    simp only [List.mem_cons, List.not_mem_nil, or_false, not_or]
    exact ⟨fun he => hne ((hj.1.lock_eq_iff hp).mp he.symm), hp.lock_ne_result⟩
  have hresult : p.result ∉ j.request.names := by
    rw [hj.names]
    simp only [List.mem_cons, List.not_mem_nil, or_false, not_or]
    exact ⟨hj.1.lock_ne_result.symm, fun he => hne ((hj.1.result_eq_iff hp).mp he.symm)⟩
  have hholders := holders_moved p d' p' hjobs
  have hother : Job.holds p { j with phase := p' } = false := Job.holds_of_ne hne
  rw [Job.holds_of_ne hne, hother] at hholders
  have hcount : (h.moved j p' d' (pre ++ { j with phase := p' } :: post)).count p = h.count p := by
    unfold Hall.count Hall.moved
    rw [List.countP_append]
    cases j.phase.committed? p' with
    | none => exact Nat.zero_add _
    | some o => simp [hne]
  exact hg.congr (by simpa using hholders) hcount (List.subset_append_right _ _)
    (ht.others _ hlock fun id he => OrderCache.key_ne_lock p he.symm)
    (ht.others _ hresult fun id he => OrderCache.key_ne_result p he.symm)

/-- what a step of a creation leaves remembered is an order that was committed -/
theorem known_moved (hg : Guarded h j.request.slot) (ht : Turned j.request j.phase p' h.desk d')
    (hbacked : j.Backed h.commits) : ∀ e, entry j.request.slot.result d' = some e →
      ∃ o, (j.request.slot, o) ∈ h.commits ∧ e.value = toString o.id := by
  intro e he
  rcases ht.result with hsame | ⟨o, hp, hval⟩
  · exact hg.known e (hsame ▸ he)
  · rw [he] at hval
    have hmem : (j.request.slot, o) ∈ h.commits := by
      unfold Job.Backed at hbacked
      rw [hp] at hbacked
      exact hbacked
    exact ⟨o, hmem, Option.some.inj hval⟩

/-- **Whoever takes the lock finds it free, and whoever stores an order has the lock**: a step of a
creation leaves at most one holder or committed order, and with one of them the lock is there. -/
theorem once_turned {r : OrderRequest} {q q' : Phase} {d d' : Desk} {n n' c : ℕ}
    (ht : Turned r q q' d d')
    (hmoved : n' + (if q.holding then 1 else 0) = n + if q'.holding then 1 else 0)
    (honce : n + c ≤ 1) (hlocked : 0 < n + c → (entry r.slot.lock d).isSome) :
    n' + ((if (q.committed? q').isSome then 1 else 0) + c) ≤ 1 ∧
      (0 < n' + ((if (q.committed? q').isSome then 1 else 0) + c) →
        (entry r.slot.lock d').isSome) := by
  have hstays := ht.lock
  cases ht.entered with
  | quiet hquiet hs =>
    rw [holding_of_quiet hquiet] at hmoved
    rw [committed?_of_quiet hquiet]
    refine ⟨by simp at hmoved ⊢; omega, fun hpos => ?_⟩
    -- a creation that gave its lock back was the only one that had it
    cases q with
    | refused f =>
      simp [Phase.holding] at hmoved hpos
      omega
    | _ => exact hstays (fun _ => nofun) (hlocked (by simp [Phase.holding] at hmoved hpos ⊢; omega))
  | found he hraw hs =>
    simp [Phase.holding, Phase.committed?] at hmoved ⊢
    exact ⟨by omega, fun hpos => hstays (fun _ => nofun) (hlocked (by omega))⟩
  | locked hfree hheld hs =>
    have hzero : n + c = 0 := by
      by_contra hne
      have hthere := hlocked (by omega)
      rw [hfree] at hthere
      cases hthere
    simp [Phase.holding, Phase.committed?] at hmoved ⊢
    exact ⟨by omega, fun _ => hheld⟩
  | refused hs =>
    simp [Phase.holding, Phase.committed?] at hmoved ⊢
    exact ⟨by omega, fun hpos => hstays (fun _ => nofun) (hlocked (by omega))⟩
  | stored hs hs' hdoes =>
    simp [Phase.holding, Phase.committed?] at hmoved ⊢
    exact ⟨by omega, hstays (fun _ => nofun) (hlocked (by omega))⟩

/-- a step of a creation under its own slot -/
theorem Guarded.moved_self (hg : Guarded h j.request.slot)
    (hjobs : h.jobs = pre ++ j :: post) (ht : Turned j.request j.phase p' h.desk d')
    (hbacked : j.Backed h.commits) :
    Guarded (h.moved j p' d' (pre ++ { j with phase := p' } :: post)) j.request.slot := by
  have hholders := holders_moved j.request.slot d' p' hjobs
  have hself : Job.holds j.request.slot { j with phase := p' } = p'.holding := Job.holds_self
  rw [Job.holds_self, hself] at hholders
  have hcount : (h.moved j p' d' (pre ++ { j with phase := p' } :: post)).count j.request.slot
      = (if (j.phase.committed? p').isSome then 1 else 0) + h.count j.request.slot := by
    unfold Hall.count Hall.moved
    rw [List.countP_append]
    cases j.phase.committed? p' <;> simp
  obtain ⟨honce, hlocked⟩ := once_turned ht hholders hg.once hg.locked
  rw [← hcount] at honce hlocked
  refine ⟨honce, hlocked, fun e he => ?_⟩
  obtain ⟨o, hmem, hval⟩ := known_moved hg ht hbacked e he
  exact ⟨o, List.mem_append_right _ hmem, hval⟩

theorem backed_moved (hg : Guarded h j.request.slot)
    (ht : Turned j.request j.phase p' h.desk d') (jobs : List Job) :
    Job.Backed (h.moved j p' d' jobs).commits { j with phase := p' } := by
  have hentered := ht.entered
  have hknown := hg.known
  clear ht hg
  unfold Hall.moved
  generalize j.phase = q at *
  cases hentered with
  | quiet hquiet hs => exact Job.backed_of_quiet hquiet
  | found he hraw hs =>
    obtain ⟨o, hmem, hval⟩ := hknown _ he
    exact ⟨o, hmem, hraw.symm.trans hval⟩
  | locked hfree hheld hs => trivial
  | refused hs => trivial
  | stored hs hs' hdoes => exact List.mem_cons_self

/-- **What a step of a creation does to the store**: nothing, or it stores the order that it
commits. -/
theorem commits_moved (ht : Turned j.request j.phase p' h.desk d') (jobs : List Job) :
    ((h.moved j p' d' jobs).commits = h.commits ∧ d'.store = h.desk.store) ∨
      ∃ o db ts, (h.moved j p' d' jobs).commits = (j.request.slot, o) :: h.commits ∧
        h.desk.store = .embedded db ∧ d'.store = .embedded { db with tables := ts } ∧
        Does h.desk.policy.maxOrderValue h.desk.clock.utc db.tables
          (.change (.createOrder Desk.scope j.request)) (.placed o) ts := by
  have hentered := ht.entered
  clear ht
  unfold Hall.moved
  generalize j.phase = q at *
  cases hentered with
  | quiet hquiet hs =>
    rw [committed?_of_quiet hquiet]
    exact .inl ⟨rfl, hs⟩
  | found he hraw hs => exact .inl ⟨rfl, hs⟩
  | locked hfree hheld hs => exact .inl ⟨rfl, hs⟩
  | refused hs => exact .inl ⟨rfl, hs⟩
  | stored hs hs' hdoes => exact .inr ⟨_, _, _, rfl, hs, hs', hdoes⟩

/-- the store and the orders that were committed, after a step of a creation -/
theorem ready_moved (hh : h.Sound C p) (ht : Turned j.request j.phase p' h.desk d')
    (jobs : List Job) :
    (∃ db, d'.store = .embedded db ∧ Ready db ∧ ((∀ t, C t → t.InCalendar) →
      ∀ c ∈ (h.moved j p' d' jobs).commits, Lasts db.tables c.2)) ∧
    ∀ c ∈ (h.moved j p' d' jobs).commits, Word.InRange c.2.id := by
  obtain ⟨db, hs, hready, hlasts⟩ := hh.ready
  rcases commits_moved ht jobs with ⟨hsame, hstore⟩ | ⟨o, db₁, ts, hnew, hs₁, hs', hdoes⟩
  · rw [hsame]
    exact ⟨⟨db, hstore.trans hs, hready, hlasts⟩, hh.ids⟩
  · obtain rfl : db = db₁ := Backend.embedded.inj (hs.symm.trans hs₁)
    obtain ⟨limit, hsound⟩ := hready.sound
    obtain ⟨limit', hle, hdoes'⟩ := hdoes.limited limit
    have hkept : db.tables.Kept limit' := hsound.kept.mono hle
    rw [hnew]
    refine ⟨⟨_, hs', hready.does hdoes, fun hC c hc => ?_⟩, fun c hc => ?_⟩
    · have hnow := Store.time?_stored (show h.desk.clock.utc.InCalendar from hC _ hh.clock)
      rcases List.mem_cons.mp hc with rfl | hc
      · exact hdoes'.lasts_placed hkept hnow
      · exact hdoes'.lasts hkept hready.counted hnow (hlasts hC c hc)
    · rcases List.mem_cons.mp hc with rfl | hc
      · exact hdoes'.inRange hkept
      · exact hh.ids c hc

theorem Hall.Sound.turn (hp : p.Plain) (hh : h.Sound C p) (i : Nat) : (h.turn i).Sound C p := by
  cases hi : h.jobs[i]? with
  | none =>
    rw [Hall.turn_of_none hi]
    exact hh
  | some j =>
    obtain ⟨pre, post, hjobs, hturn⟩ := Hall.turn_of_some hi
    obtain ⟨db, hs, hready, -⟩ := hh.ready
    have hmem : j ∈ h.jobs := List.mem_of_getElem? hi
    obtain ⟨hkeyed, hformed, hbacked⟩ := hh.jobs j hmem
    have ht := turned j.scope hkeyed hs hready hh.redis hformed
    rw [hturn]
    generalize (j.phase.turn j.scope j.request h.desk).1 = p' at *
    generalize (j.phase.turn j.scope j.request h.desk).2 = d' at *
    have hsub : h.commits ⊆ (h.moved j p' d' (pre ++ { j with phase := p' } :: post)).commits :=
      List.subset_append_right _ _
    have hjob : ∀ x ∈ h.jobs, x.request.Keyed ∧ x.phase.Formed x.request ∧ (x.request.slot = p →
        x.Backed (h.moved j p' d' (pre ++ { j with phase := p' } :: post)).commits) := by
      intro x hx
      obtain ⟨hk, hf, hb⟩ := hh.jobs x hx
      exact ⟨hk, hf, fun he => (hb he).mono hsub⟩
    obtain ⟨hready', hids⟩ := ready_moved hh ht (pre ++ { j with phase := p' } :: post)
    refine ⟨hready', (isSome_of_terms ht.terms).trans hh.redis, ?_, fun x hx => ?_, ?_, hids⟩
    · show C d'.clock.utc
      rw [clock_of_terms ht.terms]
      exact hh.clock
    · rcases List.mem_append.mp hx with hx | hx
      · exact hjob x (hjobs ▸ List.mem_append_left _ hx)
      · rcases List.mem_cons.mp hx with rfl | hx
        · refine ⟨hkeyed, ht.formed hformed, fun he => ?_⟩
          have hg : Guarded h j.request.slot := (show j.request.slot = p from he) ▸ hh.guarded
          exact backed_moved hg ht _
        · exact hjob x (hjobs ▸ List.mem_append_right _ (List.mem_cons_of_mem _ hx))
    · by_cases he : j.request.slot = p
      · subst he
        exact hh.guarded.moved_self hjobs ht (hbacked rfl)
      · exact hh.guarded.moved_ne hp hkeyed hjobs ht he

end

/-- **Every step keeps at most one order for a key.** -/
theorem Step.sound {h' : Hall} (hp : p.Plain) (hh : h.Sound C p) (hstep : Step C h h') :
    h'.Sound C p := by
  cases hstep with
  | begin s hr => exact hh.begin s hr
  | turn i => exact hh.turn hp i
  | call hr => exact hh.call hr
  | drift hd => exact hh.drift hd

theorem sound_of_steps {h' : Hall} (hp : p.Plain) (hh : h.Sound C p)
    (hrun : Relation.ReflTransGen (Step C) h h') : h'.Sound C p := by
  induction hrun with
  | refl => exact hh
  | tail _ hstep ih => exact hstep.sound hp ih

end

end OrderDesk.Desk
