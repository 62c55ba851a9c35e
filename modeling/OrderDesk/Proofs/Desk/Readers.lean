import OrderDesk.Proofs.Desk.Agreement
import Mathlib.Logic.Relation

/-!
# Readers side by side

The reading of an order through the cache has three steps: it looks into the cache, it loads the
order from the store, and it fills the cache with it. Between these steps other readers take theirs,
and other calls are made as a whole, each with its own write to the cache. Keys may expire while no
reader has an order in its hands.

* `Stage`, `Stage.next`     where a reader stands, and its next step;
* `Lobby`, `Visit`          readers side by side, with everything else that may happen;
* `Answers`                 what the reading of an order ends in without a cache;
* `Backed`, `Lobby.Sound`   what is kept by every step;
* `getOrder_steps`          a whole reading is made of the steps of one;
* `cache_agrees`            what holds of every run.
-/

namespace OrderDesk.Desk

open OrderDesk.Action (Keeps)
open Store (Backend Database Tables)

/-! ## readings in steps -/

/-- Where a reader stands. -/
inductive Stage where
  | asked
  | missed
  | loaded (o : Order)
  | answered (out : Outcome Summary)

def Stage.ofOutcome : Outcome Stage → Stage
  | .ok st => st
  | .failed f => .answered (.failed f)
  | .panicked t => .answered (.panicked t)

def Stage.next (s : Scope) (id : Int) : Stage → Action Desk Stage
  | .asked => do
    match ← cachedOrder s id with
    | some o => return .answered (.ok o.summary)
    | none => return .missed
  | .missed => do return .loaded (← stored .getOrder (Store.Orders.get id))
  | .loaded o => do
    fillCache s id o
    return .answered (.ok o.summary)
  | .answered out => return .answered out

/-- A reader of an order. `since` is how many writing calls had been made when it came. -/
structure Reader where
  scope : Scope
  id : Int
  stage : Stage
  since : Nat

/-- a call that may store, move or remove an order -/
def Request.writes : Request → Bool
  | .change (.createOrder ..) | .change (.changeStatus ..) | .change (.deleteOrder ..)
  | .change (.payment ..) => true
  | _ => false

/-- The service with its readers, and the number of writing calls that were made. -/
structure Lobby where
  desk : Desk
  readers : List Reader := []
  writers : Nat := 0

def Lobby.turn (l : Lobby) (i : Nat) : Lobby :=
  match l.readers[i]? with
  | none => l
  | some j =>
    let (out, d) := j.stage.next j.scope j.id l.desk
    { l with desk := d, readers := l.readers.set i { j with stage := .ofOutcome out } }

def Lobby.call (l : Lobby) (r : Request) : Lobby :=
  { l with desk := (r.perform l.desk).2, writers := l.writers + if r.writes then 1 else 0 }

/-- The service runs: the keyspace answers, orders can be asked for, and the clock shows a time that
can be written. -/
structure Running (d : Desk) : Prop where
  answering : Answering d
  reachable : d.outages.lookup .getOrder = none
  clock : d.clock.utc.Regular

/-- no reader has an order that it is about to put into the cache -/
def Lobby.EmptyHanded (l : Lobby) : Prop := ∀ j ∈ l.readers, ∀ o, j.stage ≠ .loaded o

/-- The store is as it was, and so is what is cached, but for entries that expired while nobody had
an order in its hands; anything else may have changed. -/
structure Lull (l : Lobby) (d : Desk) : Prop where
  store : d.store = l.desk.store
  running : Running d
  cached : ∀ id, cachedFor id d = cachedFor id l.desk ∨ l.EmptyHanded ∧ cachedFor id d = none

/-- What may happen next: a reader comes or goes on, another call is made, or some time passes. -/
inductive Visit (l : Lobby) : Lobby → Prop where
  | come (s : Scope) (id : Int) :
      Visit l { l with readers := ⟨s, id, .asked, l.writers⟩ :: l.readers }
  | turn (i : Nat) : Visit l (l.turn i)
  | call {r : Request} (hr : r.Whole) : Visit l (l.call r)
  | lull {d : Desk} (hd : Lull l d) : Visit l { l with desk := d }

/-! ## answers -/

/-- What the reading of an order ends in, by the store alone. -/
inductive Answers (ts : Tables) (id : Int) : Outcome Summary → Prop where
  | found {o : Order} (h : ts.Reads id o) : Answers ts id (.ok o.summary)
  | missing (h : ts.Lacks id) : Answers ts id (.failed (.cause (Store.Orders.missing id)))

section
variable {ts ts' : Tables} {id : Int} {out out' : Outcome Summary} {d : Desk} {db : Database}

theorem Answers.unique (h : Answers ts id out) (h' : Answers ts id out') : out = out' := by
  cases h with
  | found hread =>
    cases h' with
    | found hread' => rw [hread.unique hread']
    | missing hlacks => exact absurd hread hlacks.not_reads
  | missing hlacks =>
    cases h' with
    | found hread => exact absurd hread hlacks.not_reads
    | missing => rfl

theorem Does.answers_ne {limit : Decimal} {now : Stamp} {r : Request} {c : Change}
    (h : Does limit now ts r c ts') (hne : c.order? ≠ some id) (ha : Answers ts id out) :
    Answers ts' id out := by
  cases ha with
  | found hread => exact .found ((h.reads_ne hne).mpr hread)
  | missing hlacks => exact .missing (h.lacks_ne hne hlacks)

theorem getOrder_of_miss {s : Scope} (hlook : cachedOrder s id d = (.ok none, d)) :
    getOrder s id d = (stored .getOrder (Store.Orders.get id) >>= fun o =>
      (fillCache s id o >>= fun _ => pure o.summary : Action Desk Summary)) d := by
  unfold getOrder
  rw [Action.bind_of_ok hlook]

/-- without a cache, the reading of an order ends in what the store says -/
theorem getOrder_uncached (s : Scope) (hs : d.store = .embedded db) (hclosed : db.closed = false)
    (hout : d.outages.lookup .getOrder = none) (hserv : Servable db.tables) :
    Answers db.tables id (getOrder s id { d with redis := none }).1 := by
  have hcache : cachedOrder s id { d with redis := none } = (.ok none, { d with redis := none }) :=
    rfl
  rw [getOrder_of_miss hcache]
  rcases hserv id with ⟨o, hread, -⟩ | hlacks
  · have hget := stored_get_reads (d := { d with redis := none }) hs hclosed hout hread
    rw [Action.bind_of_ok hget]
    exact .found hread
  · have hget := stored_get_lacks (d := { d with redis := none }) hs hclosed hout hlacks
    rw [Action.bind_of_failed hget]
    exact .missing hlacks

end

/-! ## what is kept -/

/-- What a reader has in its hands: the order as it is, if nothing is cached or no writing call was
made since it came, and then its answer is the one of the store. -/
structure Reader.Backed (ts : Tables) (d : Desk) (writers : Nat) (j : Reader) : Prop where
  since : j.since ≤ writers
  loaded : ∀ o, j.stage = .loaded o → o.id = j.id ∧ o.Cacheable ∧
    (cachedFor j.id d = none ∨ j.since = writers →
      ∃ o', ts.Reads j.id o' ∧ o'.summary = o.summary)
  answered : ∀ out, j.stage = .answered out → j.since = writers → Answers ts j.id out

/-- Everything that is kept while readers and calls go on side by side. -/
structure Lobby.Sound (l : Lobby) (db : Database) : Prop where
  running : Running l.desk
  store : l.desk.store = .embedded db
  isOpen : db.closed = false
  atRest : db.saved = none
  kept : ∃ limit, db.tables.Kept limit
  servable : Servable db.tables
  agrees : ∀ id, Agrees db.tables id (cachedFor id l.desk)
  readers : ∀ j ∈ l.readers, j.Backed db.tables l.desk l.writers

section
variable {ts : Tables} {d d' : Desk} {w : Nat} {j : Reader} {l : Lobby} {db : Database}

theorem Running.of_terms (h : Running d) (ht : terms d' = terms d) : Running d' := by
  have hsame := ht
  simp only [terms, Prod.mk.injEq] at hsame
  obtain ⟨-, hclock, hout, -⟩ := hsame
  refine ⟨h.answering.of_terms ht, ?_, ?_⟩
  · rw [hout]
    exact h.reachable
  · rw [hclock]
    exact h.clock

/-- a reader is backed as before while no entry that it looks at is gone -/
theorem Reader.Backed.congr (h : j.Backed ts d w)
    (hc : cachedFor j.id d' = none → cachedFor j.id d = none) : j.Backed ts d' w where
  since := h.since
  loaded o ho := by
    obtain ⟨hid, hcache, hthere⟩ := h.loaded o ho
    exact ⟨hid, hcache, fun hn => hthere (hn.imp_left hc)⟩
  answered := h.answered

theorem Reader.Backed.of_not_loaded (h : j.Backed ts d w) (hn : ∀ o, j.stage ≠ .loaded o) :
    j.Backed ts d' w where
  since := h.since
  loaded o ho := absurd ho (hn o)
  answered := h.answered

/-! ## one step of a reader -/

/-- What one step of a reader leaves: the store as it was, and a cache that agrees with it and that
nothing is gone from. -/
structure Stepped (ts : Tables) (d d' : Desk) : Prop where
  terms : terms d' = terms d
  store : d'.store = d.store
  agrees : ∀ id, Agrees ts id (cachedFor id d')
  stays : ∀ id, cachedFor id d' = none → cachedFor id d = none

theorem Stepped.refl (ha : ∀ id, Agrees ts id (cachedFor id d)) : Stepped ts d d :=
  ⟨rfl, rfl, ha, fun _ h => h⟩

def Reader.after (j : Reader) (d : Desk) : Reader :=
  { j with stage := .ofOutcome (j.stage.next j.scope j.id d).1 }

/-- a reader that is to load its order, or has its answer -/
theorem Reader.Backed.answers {st : Stage} (hj : j.Backed ts d w) (hst : st = .missed ∨
    ∃ out, st = .answered out ∧ (j.since = w → Answers ts j.id out)) :
    ({ j with stage := st } : Reader).Backed ts d w := by
  refine ⟨hj.since, fun o ho => ?_, fun out hout hs => ?_⟩
  · rcases hst with rfl | ⟨_, rfl, -⟩
    · cases ho
    · cases ho
  · rcases hst with rfl | ⟨_, rfl, ha⟩
    · cases hout
    · cases hout
      exact ha hs

theorem asked_step (hl : l.Sound db) (hj : j.Backed db.tables l.desk l.writers)
    (hst : j.stage = .asked) :
    Stepped db.tables l.desk (j.stage.next j.scope j.id l.desk).2 ∧
      (j.after l.desk).Backed db.tables (j.stage.next j.scope j.id l.desk).2 l.writers := by
  unfold Reader.after
  rw [hst]
  rcases cachedOrder_agrees j.scope hl.running.answering (hl.agrees j.id) with
    hlook | ⟨o, o', hlook, hread, hsame⟩
  · have hnext : Stage.asked.next j.scope j.id l.desk = (.ok .missed, l.desk) :=
      Action.bind_of_ok hlook
    rw [hnext]
    exact ⟨.refl hl.agrees, hj.answers (.inl rfl)⟩
  · have hnext : Stage.asked.next j.scope j.id l.desk = (.ok (.answered (.ok o.summary)), l.desk) :=
      Action.bind_of_ok hlook
    rw [hnext]
    refine ⟨.refl hl.agrees, hj.answers (.inr ⟨_, rfl, fun _ => ?_⟩)⟩
    rw [hsame]
    exact .found hread

theorem missed_step (hl : l.Sound db) (hj : j.Backed db.tables l.desk l.writers)
    (hst : j.stage = .missed) :
    Stepped db.tables l.desk (j.stage.next j.scope j.id l.desk).2 ∧
      (j.after l.desk).Backed db.tables (j.stage.next j.scope j.id l.desk).2 l.writers := by
  unfold Reader.after
  rw [hst]
  rcases hl.servable j.id with ⟨o, hread, hcache⟩ | hlacks
  · have hnext : Stage.missed.next j.scope j.id l.desk = (.ok (.loaded o), l.desk) :=
      Action.bind_of_ok (stored_get_reads hl.store hl.isOpen hl.running.reachable hread)
    rw [hnext]
    refine ⟨.refl hl.agrees, hj.since, fun o' ho' => ?_, nofun⟩
    obtain rfl : o = o' := Stage.loaded.inj ho'
    exact ⟨hread.id_eq, hcache, fun _ => ⟨o, hread, rfl⟩⟩
  · have hnext : Stage.missed.next j.scope j.id l.desk
        = (.failed (.cause (Store.Orders.missing j.id)), l.desk) :=
      Action.bind_of_failed (stored_get_lacks hl.store hl.isOpen hl.running.reachable hlacks)
    rw [hnext]
    exact ⟨.refl hl.agrees, hj.answers (.inr ⟨_, rfl, fun _ => .missing hlacks⟩)⟩

/-- the reader fills the cache: what it has in its hands is the order as it is, if nothing is
cached -/
theorem loaded_step {o : Order} (hl : l.Sound db) (hj : j.Backed db.tables l.desk l.writers)
    (hst : j.stage = .loaded o) :
    Stepped db.tables l.desk (j.stage.next j.scope j.id l.desk).2 ∧
      (j.after l.desk).Backed db.tables (j.stage.next j.scope j.id l.desk).2 l.writers := by
  obtain ⟨hid, hcache, hthere⟩ := hj.loaded o hst
  obtain ⟨raw, o₁, hraw, hdecode, hsame⟩ := OrderCache.decode?_encode hcache
  obtain ⟨d', hfill, hends⟩ := fillCache_ends j.scope j.id hl.running.answering hraw
  have hwrites : Writes [OrderCache.key o.id] l.desk d' :=
    (fillCache_writes j.scope j.id o List.mem_cons_self).of_eq hfill
  have hnext : (Stage.loaded o).next j.scope j.id l.desk
      = (.ok (.answered (.ok o.summary)), d') := Action.bind_of_ok hfill
  have hother : ∀ id, id ≠ j.id → cachedFor id d' = cachedFor id l.desk := by
    intro id hne
    refine hwrites.cachedFor_eq fun hmem => hne ?_
    rw [← hid]
    exact OrderCache.key_inj.mp (List.mem_singleton.mp hmem)
  have hself : (cachedFor j.id d' = cachedFor j.id l.desk) ∨
      cachedFor j.id l.desk = none ∧ cachedFor j.id d' = some raw := by
    rw [← hid]
    exact hends
  unfold Reader.after
  rw [hst, hnext]
  refine ⟨⟨hwrites.terms, hwrites.store, fun id => ?_, fun id hn => ?_⟩, hj.since, nofun,
    fun out hout hs => ?_⟩
  · by_cases hne : id = j.id
    · subst hne
      rcases hself with hsame' | ⟨hnone, hput⟩
      · rw [hsame']
        exact hl.agrees j.id
      · obtain ⟨o', hread, hsame'⟩ := hthere (.inl hnone)
        rw [hput]
        exact .copy hdecode hread (hsame.trans hsame'.symm)
    · rw [hother id hne]
      exact hl.agrees id
  · by_cases hne : id = j.id
    · subst hne
      rcases hself with hsame' | ⟨hnone, -⟩
      · rw [← hsame', hn]
      · exact hnone
    · rw [← hother id hne, hn]
  · obtain ⟨o', hread, hsame'⟩ := hthere (.inr hs)
    have hout : Outcome.ok o.summary = out := Stage.answered.inj hout
    rw [← hout, ← hsame']
    exact .found hread

/-- **One step of a reader** keeps the agreement, and the reader is backed after it. -/
theorem Reader.step (hl : l.Sound db) (hj : j.Backed db.tables l.desk l.writers) :
    Stepped db.tables l.desk (j.stage.next j.scope j.id l.desk).2 ∧
      (j.after l.desk).Backed db.tables (j.stage.next j.scope j.id l.desk).2 l.writers := by
  cases hst : j.stage with
  | asked => exact hst ▸ asked_step hl hj hst
  | missed => exact hst ▸ missed_step hl hj hst
  | loaded o => exact hst ▸ loaded_step hl hj hst
  | answered out =>
    refine ⟨.refl hl.agrees, ?_⟩
    unfold Reader.after
    rw [hst]
    exact hj.answers (.inr ⟨out, rfl, hj.answered out hst⟩)

/-! ## every step -/

theorem Lobby.Sound.come (hl : l.Sound db) (s : Scope) (id : Int) :
    ({ l with readers := ⟨s, id, .asked, l.writers⟩ :: l.readers } : Lobby).Sound db where
  running := hl.running
  store := hl.store
  isOpen := hl.isOpen
  atRest := hl.atRest
  kept := hl.kept
  servable := hl.servable
  agrees := hl.agrees
  readers j hj := by
    rcases List.mem_cons.mp hj with rfl | hj
    · exact ⟨Nat.le_refl _, nofun, nofun⟩
    · exact hl.readers j hj

theorem Lobby.turn_of_some {i : Nat} (hi : l.readers[i]? = some j) : l.turn i = { l with
    desk := (j.stage.next j.scope j.id l.desk).2
    readers := l.readers.set i (j.after l.desk) } := by
  unfold Lobby.turn
  rw [hi]
  rfl

theorem Lobby.Sound.turn (hl : l.Sound db) (i : Nat) : (l.turn i).Sound db := by
  cases hi : l.readers[i]? with
  | none =>
    have hsame : l.turn i = l := by
      unfold Lobby.turn
      rw [hi]
    rw [hsame]
    exact hl
  | some j =>
    obtain ⟨hstep, hself⟩ := Reader.step hl (hl.readers j (List.mem_of_getElem? hi))
    rw [Lobby.turn_of_some hi]
    refine ⟨hl.running.of_terms hstep.terms, hstep.store.trans hl.store, hl.isOpen, hl.atRest,
      hl.kept, hl.servable, hstep.agrees, fun x hx => ?_⟩
    rcases List.mem_or_eq_of_mem_set hx with hx | rfl
    · exact (hl.readers x hx).congr (hstep.stays x.id)
    · exact hself

theorem Request.writes_of_move {r : Request} {m : Int × Status} (h : r.move? = some m) :
    r.writes = true := by
  cases r with
  | look q => cases h
  | change op => cases op <;> first | rfl | cases h

theorem Does.order?_of_reads {limit : Decimal} {now : Stamp} {ts' : Tables} {r : Request}
    {c : Change} (h : Does limit now ts r c ts') (hr : r.writes = false) : c.order? = none := by
  cases h with
  | placed | erased => cases hr
  | moved hmove =>
    rw [Request.writes_of_move hmove] at hr
    cases hr
  | idle | stocked | restocked | unstocked | filed => rfl

section
variable {limit : Decimal} {now : Stamp} {ts' : Tables} {r : Request} {c : Change}

/-- A call that is about no order of a reader leaves the reader backed. -/
theorem Reader.Backed.beside (h : j.Backed ts d w) (hr : r.Whole) (hdeed : Deed r c d d')
    (hdoes : Does limit now ts r c ts') (hne : c.order? ≠ some j.id) : j.Backed ts' d' w where
  since := h.since
  loaded o ho := by
    obtain ⟨hid, hcache, hthere⟩ := h.loaded o ho
    refine ⟨hid, hcache, fun hn => ?_⟩
    rw [hdeed.cached_ne hr hne] at hn
    obtain ⟨o', hread, hsame⟩ := hthere hn
    exact ⟨o', (hdoes.reads_ne hne).mpr hread, hsame⟩
  answered out hout hs := hdoes.answers_ne hne (h.answered out hout hs)

/-- A writing call counts as one made since the reader came. So only the cache can tell the reader to
keep its order, and there the call leaves something of its own, if it is about that order. -/
theorem Reader.Backed.written (h : j.Backed ts d w) (hr : r.Whole) (hdeed : Deed r c d d')
    (hdoes : Does limit now ts r c ts') (hown : c.order? = some j.id → cachedFor j.id d' ≠ none) :
    j.Backed ts' d' (w + 1) where
  since := Nat.le_succ_of_le h.since
  loaded o ho := by
    have hsince := h.since
    obtain ⟨hid, hcache, -⟩ := h.loaded o ho
    refine ⟨hid, hcache, fun hn => ?_⟩
    have hn : cachedFor j.id d' = none := hn.resolve_right (by omega)
    have hne : c.order? ≠ some j.id := fun he => hown he hn
    obtain ⟨-, -, hthere⟩ := (h.beside hr hdeed hdoes hne).loaded o ho
    exact hthere (.inl hn)
  answered out _ hs := by
    have hsince := h.since
    omega

end

theorem Lobby.Sound.call {r : Request} (hl : l.Sound db) (hr : r.Whole) :
    ∃ db', (l.call r).Sound db' := by
  obtain ⟨limit₀, hkept₀⟩ := hl.kept
  obtain ⟨c, limit, ts, hle, hdeed, hdoes, hstore⟩ := r.does hl.store hl.atRest hkept₀
  have hkept : db.tables.Kept limit := hkept₀.mono hle
  have hagrees := fun id => hdeed.agrees hl.running.answering hr hl.servable hkept
    hl.running.clock hdoes (hl.agrees id)
  refine ⟨{ db with tables := ts }, hl.running.of_terms hdeed.writes.terms, hstore, hl.isOpen,
    hl.atRest, ⟨limit, hdoes.kept hkept⟩, hdoes.servable hl.servable hkept hl.running.clock hr,
    fun id => (hagrees id).1, fun j hj => ?_⟩
  have hbacked := hl.readers j hj
  by_cases hwrites : r.writes = true
  · have hcount : (l.call r).writers = l.writers + 1 := by
      unfold Lobby.call
      rw [hwrites]
      rfl
    rw [hcount]
    exact hbacked.written hr hdeed hdoes (hagrees j.id).2
  · have hreads : r.writes = false := Bool.eq_false_iff.mpr hwrites
    have hcount : (l.call r).writers = l.writers := by
      unfold Lobby.call
      rw [hreads]
      rfl
    rw [hcount]
    refine hbacked.beside hr hdeed hdoes ?_
    rw [hdoes.order?_of_reads hreads]
    nofun

theorem Lobby.Sound.lull (hl : l.Sound db) (hd : Lull l d) :
    ({ l with desk := d } : Lobby).Sound db where
  running := hd.running
  store := hd.store.trans hl.store
  isOpen := hl.isOpen
  atRest := hl.atRest
  kept := hl.kept
  servable := hl.servable
  agrees id := by
    rcases hd.cached id with hsame | ⟨-, hgone⟩
    · exact hsame ▸ hl.agrees id
    · exact hgone ▸ .absent
  readers j hj := by
    rcases hd.cached j.id with hsame | ⟨hempty, -⟩
    · exact (hl.readers j hj).congr fun hn => hsame ▸ hn
    · exact (hl.readers j hj).of_not_loaded (hempty j hj)

/-- **Every step keeps the agreement.** -/
theorem Visit.sound {l' : Lobby} (hl : l.Sound db) (hstep : Visit l l') :
    ∃ db', l'.Sound db' := by
  cases hstep with
  | come s id => exact ⟨db, hl.come s id⟩
  | turn i => exact ⟨db, hl.turn i⟩
  | call hr => exact hl.call hr
  | lull hd => exact ⟨db, hl.lull hd⟩

theorem sound_of_visits {l' : Lobby} (hl : l.Sound db) (hrun : Relation.ReflTransGen Visit l l') :
    ∃ db', l'.Sound db' := by
  induction hrun with
  | refl => exact ⟨db, hl⟩
  | tail _ hstep ih =>
    obtain ⟨db₁, h₁⟩ := ih
    exact hstep.sound h₁

/-! ## whole readings -/

/-- the service as it is once another reader has come, whose steps left it so -/
def Lobby.joined (l : Lobby) (s : Scope) (id : Int) (st : Stage) (d : Desk) : Lobby :=
  { l with desk := d, readers := ⟨s, id, st, l.writers⟩ :: l.readers }

theorem Visit.first {s : Scope} {id : Int} {st : Stage} (out : Outcome Stage)
    (hnext : st.next s id d = (out, d')) :
    Visit (l.joined s id st d) (l.joined s id (.ofOutcome out) d') := by
  have hturn : (l.joined s id st d).turn 0 = l.joined s id (.ofOutcome out) d' := by
    rw [Lobby.turn_of_some (j := ⟨s, id, st, l.writers⟩) rfl]
    show l.joined s id (.ofOutcome (st.next s id d).1) (st.next s id d).2 = _
    rw [hnext]
  exact hturn ▸ .turn 0

/-- **A whole reading** ends in what the store says, and is made of the steps of one. -/
theorem getOrder_steps (hl : l.Sound db) (s : Scope) (id : Int) :
    Answers db.tables id (getOrder s id l.desk).1 ∧ Relation.ReflTransGen Visit l
      (l.joined s id (.answered (getOrder s id l.desk).1) (getOrder s id l.desk).2) := by
  have hcome : Visit l (l.joined s id .asked l.desk) := .come s id
  rcases cachedOrder_agrees s hl.running.answering (hl.agrees id) with
    hlook | ⟨o, o', hlook, hread, hsame⟩
  · have hasked : Visit (l.joined s id .asked l.desk) (l.joined s id .missed l.desk) :=
      .first (.ok .missed) (Action.bind_of_ok hlook)
    rw [getOrder_of_miss hlook]
    rcases hl.servable id with ⟨o, hread, hcache⟩ | hlacks
    · have hget := stored_get_reads hl.store hl.isOpen hl.running.reachable hread
      obtain ⟨raw, -, hraw, -⟩ := OrderCache.decode?_encode hcache
      obtain ⟨d', hfill, -⟩ := fillCache_ends s id hl.running.answering hraw
      rw [Action.bind_of_ok hget, Action.bind_of_ok hfill]
      have hloaded : Visit (l.joined s id .missed l.desk) (l.joined s id (.loaded o) l.desk) :=
        .first (.ok (.loaded o)) (Action.bind_of_ok hget)
      have hfilled : Visit (l.joined s id (.loaded o) l.desk)
          (l.joined s id (.answered (.ok o.summary)) d') :=
        .first (.ok (.answered (.ok o.summary))) (Action.bind_of_ok hfill)
      exact ⟨.found hread, .tail (.tail (.tail (.single hcome) hasked) hloaded) hfilled⟩
    · have hget := stored_get_lacks hl.store hl.isOpen hl.running.reachable hlacks
      rw [Action.bind_of_failed hget]
      have hrefused : Visit (l.joined s id .missed l.desk)
          (l.joined s id (.answered (.failed (.cause (Store.Orders.missing id)))) l.desk) :=
        .first (.failed (.cause (Store.Orders.missing id))) (Action.bind_of_failed hget)
      exact ⟨.missing hlacks, .tail (.tail (.single hcome) hasked) hrefused⟩
  · have hwhole : getOrder s id l.desk = (.ok o.summary, l.desk) := by
      unfold getOrder
      rw [Action.bind_of_ok hlook]
      rfl
    have hfound : Visit (l.joined s id .asked l.desk)
        (l.joined s id (.answered (.ok o.summary)) l.desk) :=
      .first (.ok (.answered (.ok o.summary))) (Action.bind_of_ok hlook)
    rw [hwhole]
    refine ⟨?_, .tail (.single hcome) hfound⟩
    rw [hsame]
    exact .found hread

end

/-! ## what holds of every run -/

/-- Where a run begins: a store whose tables hold no orders and whose products have the ids of a
table, nothing cached for any order, and nobody there. -/
structure Lobby.Opening (l : Lobby) : Prop where
  running : Running l.desk
  store : ∃ db book lines, l.desk.store = .embedded db ∧ db.closed = false ∧ db.saved = none ∧
    (∀ t, db.tables.products = some t → t.Keyed) ∧
    db.tables.orders = some book ∧ book.rows = [] ∧ 0 ≤ book.lastId ∧
    db.tables.items = some lines ∧ lines.rows = []
  cached : ∀ id, cachedFor id l.desk = none
  readers : l.readers = []

section
variable {l₀ l : Lobby}

theorem Lobby.Opening.sound (ho : l₀.Opening) : ∃ db, l₀.Sound db := by
  obtain ⟨db, book, lines, hs, hopen, hrest, hproducts, hbook, hnone, hcounter, hlines, hempty⟩ :=
    ho.store
  have hbooked : Store.Booked .zero book lines := .of_no_rows hnone hempty hcounter
  refine ⟨db, ho.running, hs, hopen, hrest, ⟨.zero, hproducts, book, lines, hbook, hlines, hbooked⟩,
    fun id => .inr ⟨book, hbook, ?_⟩, fun id => ?_, fun j hj => ?_⟩
  · unfold Store.Table.get?
    rw [hnone]
    rfl
  · rw [ho.cached id]
    exact .absent
  · rw [ho.readers] at hj
    cases hj

/-- **The cache agrees with the store.** Take any readers of orders, each in its three steps and
side by side with all others, and any other calls, each made as a whole with its own write to the
cache; keys may expire while no reader has an order in its hands. Then, from a store without orders
and an empty cache, at every moment what is cached for an order is nothing, or the mark of a
deletion and there is no such order, or a copy in which clients see no difference. So a reader that
came after the last writing call is answered as it would be without a cache, and so is a whole
reading, which is made of such steps. -/
theorem cache_agrees (hopen : l₀.Opening) (hrun : Relation.ReflTransGen Visit l₀ l) :
    ∃ db, l.desk.store = .embedded db ∧ (∀ id, Agrees db.tables id (cachedFor id l.desk)) ∧
      (∀ j ∈ l.readers, ∀ out, j.stage = .answered out → j.since = l.writers →
        out = (getOrder j.scope j.id { l.desk with redis := none }).1) ∧
      ∀ s id, (getOrder s id l.desk).1 = (getOrder s id { l.desk with redis := none }).1 ∧
        Relation.ReflTransGen Visit l
          (l.joined s id (.answered (getOrder s id l.desk).1) (getOrder s id l.desk).2) := by
  obtain ⟨db₀, h₀⟩ := hopen.sound
  obtain ⟨db, hl⟩ := sound_of_visits h₀ hrun
  have huncached : ∀ s id,
      Answers db.tables id (getOrder s id { l.desk with redis := none }).1 := fun s id =>
    getOrder_uncached s hl.store hl.isOpen hl.running.reachable hl.servable
  refine ⟨db, hl.store, hl.agrees, fun j hj out hout hs => ?_, fun s id => ?_⟩
  · exact ((hl.readers j hj).answered out hout hs).unique (huncached j.scope j.id)
  · obtain ⟨hends, hsteps⟩ := getOrder_steps hl s id
    exact ⟨hends.unique (huncached s id), hsteps⟩

/-! ## a late reader -/

def quietShop : Lobby := { desk := shopWith {} {} }

def Lobby.joinedBy (l : Lobby) (id : Int) : Lobby :=
  { l with readers := ⟨scope, id, .asked, l.writers⟩ :: l.readers }

def Lobby.expired (l : Lobby) : Lobby := { l with desk := { l.desk with redis := some {} } }

def sellThreeOfOne : Request := .change (.createOrder scope { items := [⟨1, 3⟩] })

def removeFirst : Request := .change (.deleteOrder scope 1)

/-- three units are sold, and the order is no longer cached -/
def soldAndExpired : Lobby := (quietShop.call sellThreeOfOne).expired

/-- One reader loads the order, which is removed before the reader fills the cache; another reader
comes after that. -/
def readAcrossRemoval : Lobby :=
  let loaded := ((soldAndExpired.joinedBy 1).turn 0).turn 0
  let filled := (loaded.call removeFirst).turn 0
  ((filled.joinedBy 1).turn 0).turn 0

/-- a reader that has its answer, with the number of lines that it was shown -/
def Reader.seen (j : Reader) : Option (Option Nat) :=
  match j.stage with
  | .answered (.ok a) => some (some a.items.length)
  | .answered _ => some none
  | _ => none

theorem quietShop_opening : quietShop.Opening := by
  have hregular : Stamp.Regular Stamp.zero.utc := ⟨by decide, rfl, by decide⟩
  have hcached : ∀ id, cachedFor id quietShop.desk = none := fun _ => rfl
  refine ⟨⟨⟨rfl, fun _ _ => rfl⟩, rfl, hregular⟩, ⟨_, {}, {}, rfl, rfl, rfl, fun t ht => ?_, rfl,
    rfl, Int.le_refl 0, rfl, rfl⟩, hcached, rfl⟩
  obtain rfl : fiveUnits = t := Option.some.inj ht
  exact ⟨by decide, by decide, by decide⟩

theorem sellThreeOfOne_whole : sellThreeOfOne.Whole := by
  intro it hit
  obtain rfl : it = ⟨1, 3⟩ := List.mem_singleton.mp hit
  decide

/-- the order expires while nobody has one in its hands -/
theorem soldAndExpired_lull : Lull (quietShop.call sellThreeOfOne) soldAndExpired.desk := by
  have hout : soldAndExpired.desk.outages = [] :=
    List.isEmpty_iff.mp (by decide +kernel : soldAndExpired.desk.outages.isEmpty = true)
  have hclock : soldAndExpired.desk.clock = .zero := by decide +kernel
  refine ⟨rfl, ⟨⟨rfl, fun _ _ => ?_⟩, ?_, ?_⟩, fun _ => .inr ⟨(fun _ hj => nomatch hj), rfl⟩⟩
  · rw [hout]
    rfl
  · rw [hout]
    rfl
  · rw [hclock]
    exact quietShop_opening.running.clock

/-- the first reader sees the order; the second one is answered as without a cache, and what is
cached is the mark -/
theorem mark_outlives_late_reader :
    Relation.ReflTransGen Visit quietShop readAcrossRemoval ∧
      readAcrossRemoval.readers.map Reader.seen = [some none, some (some 1)] ∧
      cachedFor 1 readAcrossRemoval.desk = some OrderCache.tombstone ∧
      (∃ db, readAcrossRemoval.desk.store = .embedded db ∧
        Agrees db.tables 1 (some OrderCache.tombstone)) ∧
      (getOrder scope 1 readAcrossRemoval.desk).1
        = (getOrder scope 1 { readAcrossRemoval.desk with redis := none }).1 := by
  have hremove : removeFirst.Whole := trivial
  have hrun : Relation.ReflTransGen Visit quietShop readAcrossRemoval :=
    .head (.call sellThreeOfOne_whole) (.head (.lull soldAndExpired_lull) (.head (.come scope 1)
      (.head (.turn 0) (.head (.turn 0) (.head (.call hremove) (.head (.turn 0)
        (.head (.come scope 1) (.head (.turn 0) (.head (.turn 0) .refl)))))))))
  obtain ⟨db, hs, hagrees, -, hwhole⟩ := cache_agrees quietShop_opening hrun
  have hmark : cachedFor 1 readAcrossRemoval.desk = some OrderCache.tombstone := by decide +kernel
  exact ⟨hrun, by decide +kernel, hmark, ⟨db, hs, hmark ▸ hagrees 1⟩, (hwhole scope 1).1⟩

end

end OrderDesk.Desk
