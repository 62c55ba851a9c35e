import OrderDesk.Proofs.Desk.OncePerKey

/-!
# Creations that are made again

* `replay_lasting`         a replay is answered with the order its key led to, or that it is gone;
* `createOrder_steps`      a whole creation is made of the steps of one;
* `key_creates_once`       whatever goes on side by side, a key leads to one order at most.
-/

namespace OrderDesk.Desk

open Idempotency (Slot)
open Store (Backend Database Tables)

/-! ## replays -/

section
variable {s : Scope} {d : Desk} {db : Database} {o : Order}

/-- **A replay** is answered with the order that was stored, as it is now, or that it is gone. -/
theorem replay_lasting (hs : d.store = .embedded db) (hclosed : db.closed = false)
    (hout : d.outages.lookup .getOrder = none) (hid : Word.InRange o.id) (hl : Lasts db.tables o) :
    (∃ o', db.tables.Reads o.id o' ∧ o'.summary.lasting = o.summary.lasting ∧
      (replay s (toString o.id) d).1 = .ok o'.summary) ∨
    db.tables.Gone o.id ∧
      (replay s (toString o.id) d).1 = .failed (.cause (Store.Orders.missing o.id)) := by
  have hreplay : replay s (toString o.id) d = (stored .getOrder (Store.Orders.get o.id) >>= fun o' =>
      (log s .info "idempotent replay" [("order_id", .int o.id)] >>= fun _ =>
        pure o'.summary : Action Desk Summary)) d := by
    unfold replay
    rw [Word.parseInt?_toString hid]
  rw [hreplay]
  rcases hl with ⟨o', hread, hsame⟩ | hgone
  · refine .inl ⟨o', hread, hsame, ?_⟩
    rw [Action.bind_of_ok (stored_get_reads hs hclosed hout hread)]
    rfl
  · refine .inr ⟨hgone, ?_⟩
    rw [Action.bind_of_failed (stored_get_lacks hs hclosed hout hgone.lacks)]

end

/-! ## whole creations -/

def Phase.run (s : Scope) (r : OrderRequest) : Nat → Phase → Desk → Phase × Desk
  | 0, p, d => (p, d)
  | n + 1, p, d => Phase.run s r n (p.turn s r d).1 (p.turn s r d).2

/-- the end of a creation that ends like an action -/
def endOf (x : Action Desk Summary) (d : Desk) : Phase × Desk := (.ended (x d).1, (x d).2)

section
variable {α : Type} {s : Scope} {r : OrderRequest} {d : Desk} {n : Nat}

theorem run_ended (n : Nat) (out : Outcome Summary) (d : Desk) :
    Phase.run s r n (.ended out) d = (.ended out, d) := by
  induction n with
  | zero => rfl
  | succ n ih => exact ih

theorem run_succ {p : Phase} {x : Action Desk α} {k : α → Phase} {rest : α → Action Desk Summary}
    (hp : p.next s r d = (x >>= fun a => pure (k a)) d)
    (hk : ∀ a d, Phase.run s r n (k a) d = endOf (rest a) d) :
    Phase.run s r (n + 1) p d = endOf (x >>= rest) d := by
  unfold Phase.run Phase.turn
  rw [hp]
  rcases hx : x d with ⟨out, d₁⟩
  cases out with
  | ok a =>
    rw [Action.bind_of_ok hx]
    unfold endOf
    rw [Action.bind_of_ok hx]
    exact hk a d₁
  | failed f =>
    rw [Action.bind_of_failed hx]
    unfold endOf
    rw [Action.bind_of_failed hx]
    exact run_ended n _ d₁
  | panicked t =>
    rw [Action.bind_of_panicked hx]
    unfold endOf
    rw [Action.bind_of_panicked hx]
    exact run_ended n _ d₁

theorem run_stored (o : Order) (d : Desk) :
    Phase.run s r 2 (.stored o) d = endOf (afterwards s r true o) d := by
  have hrest : ∀ _ : Unit, ∀ d, Phase.run s r 1 (.remembered o) d
      = endOf (announceCreation s o >>= fun _ => pure o.summary) d := fun _ d => by
    refine run_succ (k := fun _ => .ended (.ok o.summary)) rfl fun _ d => ?_
    rfl
  have hafter : afterwards s r true o
      = noteCreation s r o >>= fun _ => announceCreation s o >>= fun _ => pure o.summary := by
    unfold afterwards afterCreation noteCreation announceCreation
    simp only [Action.bind_assoc, if_true]
  rw [hafter]
  exact run_succ rfl hrest

theorem run_refused (n : Nat) (f : Failure) (d : Desk) :
    Phase.run s r (n + 1) (.refused f) d = endOf (releaseKey r >>= fun _ => Action.fail f) d := by
  have hnext : (Phase.refused f).next s r d = (releaseKey r >>= fun _ => Action.fail f) d := rfl
  unfold Phase.run Phase.turn endOf
  rw [hnext]
  rcases hrel : releaseKey r d with ⟨out, d₁⟩
  cases out with
  | ok u =>
    rw [Action.bind_of_ok hrel, Action.bind_of_ok hrel]
    exact run_ended n _ d₁
  | failed g =>
    rw [Action.bind_of_failed hrel, Action.bind_of_failed hrel]
    exact run_ended n _ d₁
  | panicked t =>
    rw [Action.bind_of_panicked hrel, Action.bind_of_panicked hrel]
    exact run_ended n _ d₁

theorem run_locked (d : Desk) :
    Phase.run s r 3 .locked d = endOf (storeOrRelease r true >>= afterwards s r true) d := by
  have hturn : Phase.run s r 3 .locked d = Phase.run s r 2 (Phase.locked.turn s r d).1
      (Phase.locked.turn s r d).2 := rfl
  rw [hturn]
  unfold Phase.turn
  rw [Phase.next]
  rcases hrun : reserveAndStore r.items d with ⟨out, d₁⟩
  cases out with
  | ok o =>
    have hstore : storeOrRelease r true d = (.ok o, d₁) := storeOrRelease_ok_iff.mpr hrun
    rw [Action.attempt_bind_of_ok hrun]
    unfold endOf
    rw [Action.bind_of_ok hstore]
    exact run_stored o d₁
  | failed f =>
    have hstore : storeOrRelease r true d = (releaseKey r >>= fun _ => Action.fail f) d₁ := by
      unfold storeOrRelease
      rw [Action.orElse_of_failed hrun]
      rfl
    have hrest : (storeOrRelease r true >>= afterwards s r true) d
        = (releaseKey r >>= fun _ => Action.fail f) d₁ := by
      rw [Action.bind_of_eq hstore, Action.bind_assoc]
      simp only [Action.fail_bind]
    rw [Action.attempt_bind_of_failed hrun]
    unfold endOf
    rw [hrest]
    exact run_refused 1 f d₁
  | panicked t =>
    have hattempt : (reserveAndStore r.items).attempt d = (.panicked t, d₁) := by
      unfold Action.attempt
      rw [hrun]
    have hstore : storeOrRelease r true d = (.panicked t, d₁) := by
      unfold storeOrRelease Action.orElse
      rw [hrun]
    rw [Action.bind_of_panicked hattempt]
    unfold endOf
    rw [Action.bind_of_panicked hstore]
    exact run_ended 2 _ d₁

theorem run_unknown (d : Desk) : Phase.run s r 4 .unknown d = endOf (createLocked s r) d :=
  run_succ rfl fun _ d => run_locked d

theorem run_found (n : Nat) (raw : String) (d : Desk) :
    Phase.run s r (n + 1) (.found raw) d = endOf (replay s raw) d := by
  have hnext : (Phase.found raw).next s r d
      = (replay s raw >>= fun a => pure (Phase.ended (.ok a))) d := rfl
  unfold Phase.run Phase.turn endOf
  rw [hnext]
  rcases hreplay : replay s raw d with ⟨out, d₁⟩
  cases out with
  | ok a =>
    rw [Action.bind_of_ok hreplay]
    exact run_ended n _ d₁
  | failed f =>
    rw [Action.bind_of_failed hreplay]
    exact run_ended n _ d₁
  | panicked t =>
    rw [Action.bind_of_panicked hreplay]
    exact run_ended n _ d₁

/-- **A creation under a key is five steps**, or fewer. -/
theorem run_begun (hk : usesKey d r = true) :
    Phase.run s r 5 .begun d = endOf (createUnmeasured s r) d := by
  have hturn : Phase.run s r 5 .begun d = Phase.run s r 4 (Phase.begun.turn s r d).1
      (Phase.begun.turn s r d).2 := rfl
  rw [hturn]
  unfold Phase.turn endOf
  rw [Phase.next, createUnmeasured_keyed hk]
  cases checkItems r.items with
  | error f => exact run_ended 4 _ d
  | ok u =>
    rw [Action.bind_of_ok Action.ofExcept_ok, Action.bind_of_ok Action.ofExcept_ok]
    rcases hback : lookBack r d with ⟨out, d₁⟩
    cases out with
    | ok found =>
      rw [Action.bind_of_ok hback, Action.bind_of_ok hback]
      cases found with
      | none => exact run_unknown d₁
      | some raw => exact run_found 3 raw d₁
    | failed f =>
      rw [Action.bind_of_failed hback, Action.bind_of_failed hback]
      exact run_ended 4 _ d₁
    | panicked t =>
      rw [Action.bind_of_panicked hback, Action.bind_of_panicked hback]
      exact run_ended 4 _ d₁

end

/-! ## whole creations among others -/

section
variable {C : Stamp → Prop} {p : Slot} {h : Hall} {s : Scope} {r : OrderRequest}

theorem steps_of_run {n : Nat} {ph ph' : Phase} {d' : Desk} {jobs : List Job}
    (hjobs : h.jobs = ⟨s, r, ph⟩ :: jobs) (hrun : Phase.run s r n ph h.desk = (ph', d')) :
    ∃ h', Relation.ReflTransGen (Step C) h h' ∧ h'.desk = d' ∧ h'.jobs = ⟨s, r, ph'⟩ :: jobs := by
  induction n generalizing h ph with
  | zero =>
    obtain ⟨rfl, rfl⟩ := Prod.mk.inj hrun
    exact ⟨h, .refl, rfl, hjobs⟩
  | succ n ih =>
    have hturn : h.turn 0 = h.moved ⟨s, r, ph⟩ (ph.turn s r h.desk).1 (ph.turn s r h.desk).2
        (⟨s, r, (ph.turn s r h.desk).1⟩ :: jobs) := by
      unfold Hall.turn
      rw [hjobs]
      rfl
    obtain ⟨h', hsteps, hdesk, hjobs'⟩ := ih (h := h.turn 0) (by rw [hturn]; rfl)
      (by rw [hturn]; exact hrun)
    exact ⟨h', .head (.turn 0) hsteps, hdesk, hjobs'⟩

/-- **A whole creation** is made of the steps of one, with nothing else between them. -/
theorem createOrder_steps (hp : p.Plain) (hh : h.Sound C p) (s : Scope) (hr : r.Keyed) :
    ∃ h' s', Relation.ReflTransGen (Step C) h h' ∧ h'.desk = (createOrder s r h.desk).2 ∧
      h'.jobs = ⟨s', r, .ended (createOrder s r h.desk).1⟩ :: h.jobs := by
  rcases hcreate : createOrder s r h.desk with ⟨out, d'⟩
  obtain ⟨s', t, t', m, d₁, hsteps, rfl⟩ := createOrder_end hcreate
  -- a span is noted, the creation is begun, and it takes its steps
  have hspan : Step C h { h with desk := { h.desk with tracer := t } } :=
    .drift ⟨rfl, rfl, hh.clock⟩
  have hbegin := Step.begin (C := C) (h := { h with desk := { h.desk with tracer := t } }) s' hr
  have hkeyed : usesKey { h.desk with tracer := t } r = true := by
    unfold usesKey
    rw [Bool.and_eq_true]
    exact ⟨hh.redis, by simpa using hr.2⟩
  have hwhole : Phase.run s' r 5 .begun { h.desk with tracer := t } = (.ended out, d₁) := by
    rw [run_begun hkeyed, endOf, hsteps]
  obtain ⟨h₁, hrun, hdesk, hjobs⟩ := steps_of_run (C := C) (h := { h with
    desk := { h.desk with tracer := t }, jobs := ⟨s', r, .begun⟩ :: h.jobs }) rfl hwhole
  have hall := Relation.ReflTransGen.head hspan (.head hbegin hrun)
  have hclock : C h₁.desk.clock.utc := (sound_of_steps hp hh hall).clock
  -- a failure is counted, and the span is closed
  have hend : Step C h₁ { h₁ with desk := { d₁ with tracer := t', meter := m } } := by
    rw [hdesk] at hclock
    refine .drift ⟨?_, ?_, hclock⟩ <;> rw [hdesk]
  exact ⟨_, s', hall.tail hend, rfl, hjobs⟩

end

/-! ## what holds of every run -/

/-- Where a run begins: a store that can be read, a keyspace, and a slot that was not used. -/
structure Hall.Opening (C : Stamp → Prop) (p : Slot) (h : Hall) : Prop where
  ready : ∃ db, h.desk.store = .embedded db ∧ Ready db
  redis : h.desk.redis.isSome
  clock : C h.desk.clock.utc
  jobs : h.jobs = []
  commits : h.commits = []
  free : entry p.lock h.desk = none ∧ entry p.result h.desk = none

section
variable {C : Stamp → Prop} {p : Slot} {h₀ h : Hall}

theorem Hall.Opening.sound (ho : h₀.Opening C p) : h₀.Sound C p where
  ready := by
    obtain ⟨db, hs, hready⟩ := ho.ready
    refine ⟨db, hs, hready, fun _ c hc => ?_⟩
    rw [ho.commits] at hc
    cases hc
  redis := ho.redis
  clock := ho.clock
  jobs j hj := by
    rw [ho.jobs] at hj
    cases hj
  guarded := by
    have hnone : h₀.holders p + h₀.count p = 0 := by
      unfold Hall.holders Hall.count
      rw [ho.jobs, ho.commits]
      rfl
    refine ⟨by omega, fun hpos => by omega, fun e he => ?_⟩
    rw [ho.free.2] at he
    cases he
  ids c hc := by
    rw [ho.commits] at hc
    cases hc

/-- **A key creates once.** Take any creations under keys, each in its steps and side by side with
all others and with any other calls; each may stop for ever after any step, and the calls on the
keyspace may fail. Then, from a slot that was not used, at most one of the creations under it
commits, and no step but the committing one changes the store. While the clock shows years that can
be read back, whoever found the key remembered is answered with that order as it is now, or that it
is gone. Whole creations are made of such steps. -/
theorem key_creates_once (hp : p.Plain) (hopen : h₀.Opening C p)
    (hrun : Relation.ReflTransGen (Step C) h₀ h) :
    h.count p ≤ 1 ∧
    (∀ i, ((h.turn i).commits = h.commits ∧ (h.turn i).desk.store = h.desk.store) ∨
      ∃ j o db ts, h.jobs[i]? = some j ∧ (h.turn i).commits = (j.request.slot, o) :: h.commits ∧
        h.desk.store = .embedded db ∧ (h.turn i).desk.store = .embedded { db with tables := ts } ∧
        Does h.desk.policy.maxOrderValue h.desk.clock.utc db.tables
          (.change (.createOrder Desk.scope j.request)) (.placed o) ts) ∧
    ((∀ t, C t → t.InCalendar) → h.desk.outages.lookup .getOrder = none →
      ∀ j ∈ h.jobs, j.request.slot = p → ∀ raw, j.phase = .found raw →
      ∃ o db, (p, o) ∈ h.commits ∧ raw = toString o.id ∧ h.desk.store = .embedded db ∧
        ((∃ o', db.tables.Reads o.id o' ∧ o'.summary.lasting = o.summary.lasting ∧
          (replay j.scope raw h.desk).1 = .ok o'.summary) ∨
        db.tables.Gone o.id ∧
          (replay j.scope raw h.desk).1 = .failed (.cause (Store.Orders.missing o.id)))) ∧
    ∀ s r, r.Keyed → ∃ h' s', Relation.ReflTransGen (Step C) h h' ∧
      h'.desk = (createOrder s r h.desk).2 ∧
      h'.jobs = ⟨s', r, .ended (createOrder s r h.desk).1⟩ :: h.jobs := by
  have hsound : h.Sound C p := sound_of_steps hp hopen.sound hrun
  refine ⟨?_, fun i => ?_, fun hC hout j hj hslot raw hraw => ?_,
    fun s r hr => createOrder_steps hp hsound s hr⟩
  · have honce := hsound.guarded.once
    omega
  · cases hi : h.jobs[i]? with
    | none =>
      rw [Hall.turn_of_none hi]
      exact .inl ⟨rfl, rfl⟩
    | some j =>
      obtain ⟨pre, post, -, hturn⟩ := Hall.turn_of_some hi
      obtain ⟨db, hs, hready, -⟩ := hsound.ready
      obtain ⟨hkeyed, hformed, -⟩ := hsound.jobs j (List.mem_of_getElem? hi)
      have ht := turned j.scope hkeyed hs hready hsound.redis hformed
      rw [hturn]
      rcases commits_moved ht _ with hsame | ⟨o, db, ts, hrest⟩
      · exact .inl hsame
      · exact .inr ⟨j, o, db, ts, rfl, hrest⟩
  · obtain ⟨-, -, hbacked⟩ := hsound.jobs j hj
    obtain ⟨db, hs, hready, hlasts⟩ := hsound.ready
    have hfound := hbacked hslot
    unfold Job.Backed at hfound
    rw [hraw] at hfound
    obtain ⟨o, hmem, rfl⟩ := hfound
    rw [hslot] at hmem
    exact ⟨o, db, hmem, rfl, hs, replay_lasting hs hready.isOpen hout (hsound.ids _ hmem)
      (hlasts hC _ hmem)⟩

/-- a shop with five units, and a request for three of them under a key -/
def fiveUp : Desk := { shopWith {} {} with store := after Store.fresh putUp }

def threeKeyed : OrderRequest := ⟨"c", "k", [⟨1, 3⟩]⟩

theorem ready_fiveUp : ∃ db, fiveUp.store = .embedded db ∧ Ready db := by
  simp only [fiveUp]
  exact ready_after putUp

theorem threeKeyed_keyed : threeKeyed.Keyed :=
  ⟨⟨by simp [threeKeyed, OrderRequest.slot], by simp [threeKeyed, OrderRequest.slot]⟩,
    by simp [threeKeyed]⟩

/-- what a creation found remembered -/
def Phase.raw? : Phase → Option String
  | .found raw => some raw
  | _ => none

theorem Phase.raw?_eq_some_iff {ph : Phase} {raw : String} :
    ph.raw? = some raw ↔ ph = .found raw := by
  cases ph <;> simp [Phase.raw?]

/-- two creations are begun under the key; the first stores its order, which the second finds -/
def madeTwice : Hall :=
  let begun : Hall := ⟨fiveUp, [⟨scope, threeKeyed, .begun⟩, ⟨scope, threeKeyed, .begun⟩], []⟩
  ((((begun.turn 0).turn 0).turn 0).turn 0).turn 1

/-- one order is stored, and the second creation is answered with it -/
theorem madeTwice_creates_once :
    Relation.ReflTransGen (Step Stamp.InCalendar) ⟨fiveUp, [], []⟩ madeTwice ∧
      madeTwice.count threeKeyed.slot = 1 ∧
      ∃ (j : Job) (o o' : Order), j ∈ madeTwice.jobs ∧ j.phase = .found "1" ∧
        (threeKeyed.slot, o) ∈ madeTwice.commits ∧ o'.summary.lasting = o.summary.lasting ∧
        (replay j.scope "1" madeTwice.desk).1 = .ok o'.summary := by
  have hclock : Stamp.InCalendar fiveUp.clock.utc := by
    show Stamp.InCalendar Stamp.zero.utc
    decide
  have hopen : Hall.Opening Stamp.InCalendar threeKeyed.slot ⟨fiveUp, [], []⟩ :=
    ⟨ready_fiveUp, rfl, hclock, rfl, rfl, rfl, rfl⟩
  have hrun : Relation.ReflTransGen (Step Stamp.InCalendar) ⟨fiveUp, [], []⟩ madeTwice :=
    .head (.begin scope threeKeyed_keyed) (.head (.begin scope threeKeyed_keyed) (.head (.turn 0)
      (.head (.turn 0) (.head (.turn 0) (.head (.turn 0) (.head (.turn 1) .refl))))))
  obtain ⟨honce, -, hreplay, -⟩ := key_creates_once threeKeyed_keyed.1 hopen hrun
  have hcount : 0 < madeTwice.count threeKeyed.slot := by decide +kernel
  have hfound : (madeTwice.jobs[1]?.bind fun j => j.phase.raw?) = some "1" := by decide +kernel
  have hslots : (madeTwice.jobs.all fun j => j.request = threeKeyed) = true := by decide +kernel
  have hout : madeTwice.desk.outages.isEmpty = true := by decide +kernel
  have hthere : (((tablesOf madeTwice.desk.store).orders.bind fun b => b.get? 1).isSome) = true := by
    decide +kernel
  obtain ⟨j, hj, hraw⟩ := Option.bind_eq_some_iff.mp hfound
  have hmem : j ∈ madeTwice.jobs := List.mem_of_getElem? hj
  have hslot : j.request.slot = threeKeyed.slot := by
    rw [of_decide_eq_true (List.all_eq_true.mp hslots j hmem)]
  have hphase : j.phase = .found "1" := Phase.raw?_eq_some_iff.mp hraw
  obtain ⟨o, db, hcommit, hid, hs, hanswer⟩ := hreplay (fun _ h => h)
    (by rw [List.isEmpty_iff.mp hout]; rfl) j hmem hslot "1" hphase
  have hone : (1 : Int) = o.id := Word.toString_inj.mp hid
  rcases hanswer with ⟨o', -, hsame, hok⟩ | ⟨⟨book, hbook, hnone, -⟩, -⟩
  · exact ⟨hrun, by omega, j, o, o', hmem, hphase, hcommit, hsame, hok⟩
  · rw [hs] at hthere
    have hbook : (tablesOf (.embedded db)).orders = some book := hbook
    rw [hbook, Option.bind_some, hone, hnone] at hthere
    cases hthere

/-- a small shop in the year 10000 -/
def lateShop : Desk := { shopWith {} {} with clock := ⟨253402300800, 0, 0⟩ }

/-- In that year the order of a key is stored and cannot be read back: whoever asks again is answered
neither with it nor that it is gone. -/
theorem late_replay_fails : ∃ a d₁ f d₂, createOrder scope threeKeyed lateShop = (.ok a, d₁) ∧
    createOrder scope threeKeyed d₁ = (.failed f, d₂) ∧ f ≠ .cause (Store.Orders.missing a.id) ∧
      (((tablesOf d₁.store).orders.bind fun b => b.get? a.id).isSome) = true := by
  have hfirst : ((createOrder scope threeKeyed).value? lateShop).map Summary.id = some 1 := by
    decide +kernel
  obtain ⟨a, ha, hid⟩ := Option.map_eq_some_iff.mp hfirst
  have hsecond : (createOrder scope threeKeyed (createOrder scope threeKeyed lateShop).2).1
      = .failed (.within "get order 1" (.cause (.plain "sql: Scan error"))) := by
    rfl
  refine ⟨a, _, _, _, Action.ok_of_value? ha, Prod.ext hsecond rfl, nofun, ?_⟩
  rw [hid]
  decide +kernel

end

end OrderDesk.Desk
