import OrderDesk.Proofs.Desk.Reading
import OrderDesk.Proofs.Redis.OrderCache

/-!
# The cache and the store

What is cached under the name of an order agrees with the store: there is nothing, or the mark of a
deletion and no such order, or a copy in which clients see no difference. Every call of the service
leaves it so.

* `Order.Cacheable.of_summary`      being cacheable does not depend on the spelling of amounts;
* `Request.Whole`           the calls besides the reading of an order, with numbers of 64 bits;
* `Servable`, `Does.servable`       every id has an order that can be cached, or none;
* `cachedFor`, `Agrees`      what is cached for an order, and how it agrees with the store;
* `Deed.cached_ne`, `Deed.cached_written`, `Deed.cached_erased`      what a call leaves there;
* `Deed.agrees`             and that it agrees with the store.
-/

namespace OrderDesk

/-! ## orders that can be cached -/

theorem Order.Cacheable.of_summary {o o' : Order} (h : o.Cacheable) (hs : o'.summary = o.summary)
    (hstor : o'.Storable) : o'.Cacheable where
  id := by
    rw [show o'.id = o.id from congrArg Summary.id hs]
    exact h.id
  total := hstor.total
  lines l' hl' := by
    have hitems : o'.items.map Line.summary = o.items.map Line.summary := congrArg Summary.items hs
    have hmem : l'.summary ∈ o.items.map Line.summary := hitems ▸ List.mem_map_of_mem hl'
    obtain ⟨l, hl, hsame⟩ := List.mem_map.mp hmem
    refine ⟨?_, ?_, hstor.prices l' hl'⟩
    · rw [show l'.productId = l.productId from congrArg LineSummary.productId hsame.symm]
      exact (h.lines l hl).productId
    · rw [show l'.quantity = l.quantity from congrArg LineSummary.quantity hsame.symm]
      exact (h.lines l hl).quantity
  createdAt := by
    rw [show o'.createdAt = o.createdAt from congrArg Summary.createdAt hs]
    exact h.createdAt
  updatedAt := by
    rw [show o'.updatedAt = o.updatedAt from congrArg Summary.updatedAt hs]
    exact h.updatedAt

theorem Stamp.Regular.stored {t : Stamp} (h : t.Regular) :
    (Store.stored (.time t)).time? = some t := by
  have hutc : t.utc = t := by
    show { t with offset := 0 } = t
    rw [← h.utc]
  have hread := Store.time?_stored (t := t) (by rw [hutc]; exact h.inCalendar)
  rw [hutc] at hread
  exact hread

namespace Desk

open Store (Backend Database Tables Table)

/-- A call other than the reading of one order, with numbers of 64 bits. -/
def Request.Whole : Request → Prop
  | .look (.getOrder _ _) => False
  | .change (.createOrder _ r) =>
    ∀ it ∈ r.items, Word.InRange it.productId ∧ Word.InRange it.quantity
  | _ => True

/-- Every id has an order that can be cached, or none. -/
def Servable (ts : Tables) : Prop :=
  ∀ id, (∃ o, ts.Reads id o ∧ o.Cacheable) ∨ ts.Lacks id

section
variable {limit : Decimal} {now : Stamp} {ts ts' : Tables} {r : Request} {c : Change} {o : Order}
  {id : Int}

theorem Servable.cacheable (h : Servable ts) (hread : ts.Reads id o) : o.Cacheable := by
  rcases h id with ⟨o', hread', hc⟩ | hlacks
  · rw [hread.unique hread']
    exact hc
  · exact absurd hread hlacks.not_reads

/-- **An order that is placed or moved can be cached.** -/
theorem Does.cacheable (hserv : Servable ts) (hkept : ts.Kept limit) (hnow : now.Regular)
    (hr : r.Whole) (h : Does limit now ts r c ts') (hw : c.written? = some o) : o.Cacheable := by
  cases c with
  | placed o₁ =>
    obtain rfl : o₁ = o := Option.some.inj hw
    have hid := h.inRange hkept
    cases h with
    | @placed s r _ _ _ _ _ _ _ _ _ _ hplaced =>
      obtain ⟨-, -, -, hcreated, hupdated⟩ := hplaced.fields
      have hr : ∀ it ∈ r.items, Word.InRange it.productId ∧ Word.InRange it.quantity := hr
      refine ⟨hid, hplaced.storable.total, fun l hl => ?_, hcreated ▸ hnow, hupdated ▸ hnow⟩
      obtain ⟨it, hit, hpriced⟩ := Store.exists_of_mem_forall₂ hplaced.priced hl
      obtain ⟨hp, hq⟩ := hr it hit
      exact ⟨hpriced.productId ▸ hp, hpriced.quantity ▸ hq, hplaced.storable.prices l hl⟩
  | moved o₁ =>
    obtain rfl : o₁ = o := Option.some.inj hw
    obtain ⟨target, before, -, hread, hmove⟩ := h.moved_from
    have hbefore := hserv.cacheable hread
    rw [moveTo_eq hmove]
    exact ⟨hbefore.id, hbefore.total, hbefore.lines, hbefore.createdAt, hnow⟩
  | idle | erased | catalog => cases hw

/-- **Every change leaves orders that can be cached.** -/
theorem Does.servable (hserv : Servable ts) (hkept : ts.Kept limit) (hnow : now.Regular)
    (hr : r.Whole) (h : Does limit now ts r c ts') : Servable ts' := by
  intro id
  have hwritten : ∀ o, c.written? = some o → ∃ o', ts'.Reads o.id o' ∧ o'.Cacheable := by
    intro o hw
    obtain ⟨o', hread, halike⟩ := h.written hkept hnow.stored hw
    have hsound := ((h.kept hkept).reads hread).1
    exact ⟨o', hread, (h.cacheable hserv hkept hnow hr hw).of_summary halike.summary_eq hsound.storable⟩
  by_cases hne : c.order? = some id
  · cases c with
    | placed o =>
      obtain rfl : o.id = id := Option.some.inj hne
      exact .inl (hwritten o rfl)
    | moved o =>
      obtain rfl : o.id = id := Option.some.inj hne
      exact .inl (hwritten o rfl)
    | erased j =>
      obtain rfl : j = id := Option.some.inj hne
      exact .inr h.lacks_erased
    | idle | catalog => cases hne
  · rcases hserv id with ⟨o, hread, hc⟩ | hlacks
    · exact .inl ⟨o, (h.reads_ne hne).mpr hread, hc⟩
    · exact .inr (h.lacks_ne hne hlacks)

end

/-! ## what is cached -/

def cachedFor (id : Int) (d : Desk) : Option String :=
  (entry (OrderCache.key id) d).map Redis.Entry.value

/-- What is cached for an order agrees with the store. -/
inductive Agrees (ts : Tables) (id : Int) : Option String → Prop where
  | absent : Agrees ts id none
  | mark (h : ts.Lacks id) : Agrees ts id (some OrderCache.tombstone)
  | copy {raw : String} {o o' : Order} (hraw : OrderCache.decode? raw = some o)
      (hread : ts.Reads id o') (hsame : o.summary = o'.summary) : Agrees ts id (some raw)

section
variable {limit : Decimal} {now : Stamp} {ts ts' : Tables} {r : Request} {c : Change} {o : Order}
  {id : Int} {d d' : Desk} {v : Option String}

theorem Does.agrees_ne (h : Does limit now ts r c ts') (hne : c.order? ≠ some id)
    (ha : Agrees ts id v) : Agrees ts' id v := by
  cases ha with
  | absent => exact .absent
  | mark hlacks => exact .mark (h.lacks_ne hne hlacks)
  | copy hraw hread hsame => exact .copy hraw ((h.reads_ne hne).mpr hread) hsame

theorem Writes.cachedFor_eq {W : List String} (h : Writes W d d') (hn : OrderCache.key id ∉ W) :
    cachedFor id d' = cachedFor id d := by
  unfold cachedFor
  rw [h.entries _ hn]

theorem Request.Whole.names (hr : r.Whole) (id : Int) : OrderCache.key id ∉ r.names := by
  cases r with
  | change op =>
    cases op with
    | createOrder s r =>
      show OrderCache.key id ∉ r.names
      unfold OrderRequest.names
      split
      · exact List.not_mem_nil
      · simp only [List.mem_cons, List.not_mem_nil, or_false, not_or]
        exact ⟨OrderCache.key_ne_lock ⟨r.client, r.key⟩, OrderCache.key_ne_result ⟨r.client, r.key⟩⟩
    | _ => exact List.not_mem_nil
  | look q =>
    cases q with
    | getOrder => exact hr.elim
    | _ => exact List.not_mem_nil

theorem Change.key_mem_names : OrderCache.key id ∈ c.names ↔ c.order? = some id := by
  cases c <;> simp [Change.names, Change.cached?, Change.order?, OrderCache.key_inj, eq_comm]

theorem Deed.cached_ne (h : Deed r c d d') (hr : r.Whole) (hne : c.order? ≠ some id) :
    cachedFor id d' = cachedFor id d := by
  have hn : OrderCache.key id ∉ c.names ++ r.names := by
    rw [List.mem_append, not_or]
    exact ⟨fun hmem => hne (Change.key_mem_names.mp hmem), hr.names id⟩
  exact h.writes.cachedFor_eq hn

theorem Deed.cached_written (h : Deed r c d d') (ha : Answering d) (hw : c.written? = some o)
    (hc : o.Cacheable) : ∃ raw o', cachedFor o.id d' = some raw ∧ OrderCache.decode? raw = some o' ∧
      o'.summary = o.summary := by
  obtain ⟨raw, o', hraw, hdecode, hsame⟩ := OrderCache.decode?_encode hc
  have hentry : c.cached? = some (OrderCache.key o.id, .ok raw) := by
    cases c with
    | placed o₁ | moved o₁ =>
      obtain rfl : o₁ = o := Option.some.inj hw
      rw [Change.cached?, hraw]
    | idle | erased | catalog => cases hw
  obtain ⟨left, hleft⟩ := h.cached ha _ _ hentry
  exact ⟨raw, o', congrArg (Option.map Redis.Entry.value) hleft, hdecode, hsame⟩

/-- of an order that is removed the mark is left -/
theorem Deed.cached_erased (h : Deed r (.erased id) d d') (ha : Answering d) :
    cachedFor id d' = some OrderCache.tombstone := by
  obtain ⟨left, hleft⟩ := h.cached ha _ _ rfl
  exact congrArg (Option.map Redis.Entry.value) hleft

/-- **What a call leaves in the cache agrees with the store**; of the order it changed, something
is left. -/
theorem Deed.agrees (h : Deed r c d d') (ha : Answering d) (hr : r.Whole) (hserv : Servable ts)
    (hkept : ts.Kept limit) (hnow : now.Regular) (hdoes : Does limit now ts r c ts')
    (hold : Agrees ts id (cachedFor id d)) :
    Agrees ts' id (cachedFor id d') ∧ (c.order? = some id → cachedFor id d' ≠ none) := by
  have hwritten : ∀ o, c.written? = some o →
      Agrees ts' o.id (cachedFor o.id d') ∧ cachedFor o.id d' ≠ none := by
    intro o hw
    obtain ⟨raw, o₁, hraw, hdecode, hsame⟩ :=
      h.cached_written ha hw (hdoes.cacheable hserv hkept hnow hr hw)
    obtain ⟨o₂, hread, halike⟩ := hdoes.written hkept hnow.stored hw
    rw [hraw]
    exact ⟨.copy hdecode hread (hsame.trans halike.summary_eq.symm), nofun⟩
  by_cases hne : c.order? = some id
  · cases c with
    | placed o =>
      obtain rfl : o.id = id := Option.some.inj hne
      exact ⟨(hwritten o rfl).1, fun _ => (hwritten o rfl).2⟩
    | moved o =>
      obtain rfl : o.id = id := Option.some.inj hne
      exact ⟨(hwritten o rfl).1, fun _ => (hwritten o rfl).2⟩
    | erased j =>
      obtain rfl : j = id := Option.some.inj hne
      rw [h.cached_erased ha]
      exact ⟨.mark hdoes.lacks_erased, nofun⟩
    | idle | catalog => cases hne
  · rw [h.cached_ne hr hne]
    exact ⟨hdoes.agrees_ne hne hold, fun he => absurd he hne⟩

/-! ## looking into the cache, and filling it -/

theorem cachedOrder_apply (s : Scope) (hd : Answering d) (hgood : ∀ raw, cachedFor id d = some raw →
    raw = OrderCache.tombstone ∨ (OrderCache.decode? raw).isSome) :
    cachedOrder s id d = (.ok ((cachedFor id d).bind OrderCache.decode?), d) := by
  obtain ⟨k, hk, hrefusal⟩ := Option.map_eq_some_iff.mp hd.1
  have hv : (k.keys.get? (OrderCache.key id)).map Redis.Entry.value = cachedFor id d := by
    unfold cachedFor entry
    rw [hk, Option.bind_some]
  have hrun : (do
      reach .cacheGet
      kept none (OrderCache.get id) : Action Desk (Option Order)) d
        = (.ok ((cachedFor id d).bind OrderCache.decode?), d) := by
    rw [Action.bind_of_ok (hd.reach (by simp))]
    refine kept_eq_iff.mpr (.inr ⟨k, k, hk, OrderCache.get_apply hrefusal hv hgood, ?_⟩)
    rw [← hk]
  unfold cachedOrder
  rw [Action.bind_of_ok Action.state_apply, if_pos (by rw [hk]; rfl),
    Action.attempt_bind_of_ok hrun]
  rfl

/-- **A reader who looks into the cache** finds a copy in which clients see no difference, or
nothing. -/
theorem cachedOrder_agrees (s : Scope) (hd : Answering d) (ha : Agrees ts id (cachedFor id d)) :
    cachedOrder s id d = (.ok none, d) ∨ ∃ o o', cachedOrder s id d = (.ok (some o), d) ∧
      ts.Reads id o' ∧ o.summary = o'.summary := by
  have hgood : ∀ raw, cachedFor id d = some raw →
      raw = OrderCache.tombstone ∨ (OrderCache.decode? raw).isSome := by
    intro raw hraw
    rw [hraw] at ha
    cases ha with
    | mark => exact .inl rfl
    | copy hdecode => exact .inr (by rw [hdecode]; rfl)
  rw [cachedOrder_apply s hd hgood]
  generalize cachedFor id d = v at *
  cases ha with
  | absent => exact .inl rfl
  | mark =>
    rw [Option.bind_some, OrderCache.decode?_tombstone]
    exact .inl rfl
  | @copy raw o o' hdecode hread hsame =>
    rw [Option.bind_some, hdecode]
    exact .inr ⟨o, o', rfl, hread, hsame⟩

/-- **A reader who fills the cache** leaves what is there, or puts its order where nothing is. -/
theorem fillCache_ends {raw : String} (s : Scope) (id : Int) (hd : Answering d)
    (hraw : OrderCache.encode o = .ok raw) : ∃ d', fillCache s id o d = (.ok (), d') ∧
      (cachedFor o.id d' = cachedFor o.id d ∨
        cachedFor o.id d = none ∧ cachedFor o.id d' = some raw) := by
  obtain ⟨k, hk, hrefusal⟩ := Option.map_eq_some_iff.mp hd.1
  have hlook : ∀ d' : Desk, ∀ k', d'.redis = some k' →
      cachedFor o.id d' = (k'.keys.get? (OrderCache.key o.id)).map Redis.Entry.value := by
    intro d' k' hk'
    unfold cachedFor entry
    rw [hk', Option.bind_some]
  unfold fillCache
  rw [Action.bind_of_ok Action.state_apply]
  rcases OrderCache.fill_ends d.policy.cacheTime hrefusal hraw with ⟨f, hfill⟩ | ⟨k', hfill, hget⟩
  · have hrun : kept () (OrderCache.fill d.policy.cacheTime o) d = (.failed f, d) :=
      kept_eq_iff.mpr (.inr ⟨k, k, hk, hfill, by rw [← hk]⟩)
    unfold warnOnFailure
    rw [Action.attempt_bind_of_failed hrun]
    exact ⟨_, log_apply, .inl rfl⟩
  · have hrun : kept () (OrderCache.fill d.policy.cacheTime o) d
        = (.ok (), { d with redis := some k' }) :=
      kept_eq_iff.mpr (.inr ⟨k, k', hk, hfill, rfl⟩)
    refine ⟨_, warnOnFailure_ok s _ _ hrun, ?_⟩
    rw [hlook d k hk, hlook _ k' rfl]
    rcases hget with hsame | ⟨hnone, hput⟩
    · rw [hsame]
      exact .inl rfl
    · rw [hnone]
      exact .inr ⟨rfl, hput⟩

end

end Desk

end OrderDesk
