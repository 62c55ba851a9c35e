import OrderDesk.Proofs.Desk.Afterwards

/-!
# A failed call changes nothing

Every call that changes something is an `Operation`. Inside its transaction only tables change, so
a failure gives them back. What an operation does to the keyspace and the broker comes after the
transaction, where nothing fails any more; the one exception is the lock of a client's key, which
is taken before and given back.

* `Operation`, `Operation.perform`     the calls that change something;
* `placeOrder_works`, ...            what runs inside a transaction;
* `lockKey_ok`, `releaseKey_after`     a lock that was taken and given back leaves no trace;
* `failed_operation_changes_nothing`   the store, the keyspace and the broker are as they were.
-/

namespace OrderDesk.Desk

open OrderDesk.Action (Keeps KeepsOr Fixed)
open Store (Backend Database)

/-- A call that changes something. -/
inductive Operation where
  | createOrder (s : Scope) (r : OrderRequest)
  | changeStatus (s : Scope) (id : Int) (target : Status)
  | deleteOrder (s : Scope) (id : Int)
  | createProduct (draft : ProductDraft)
  | updateProduct (s : Scope) (id : Int) (draft : ProductDraft)
  | deleteProduct (s : Scope) (id : Int)
  | createCategory (name : String)
  | renameCategory (id : Int) (name : String)
  | deleteCategory (id : Int)
  | payment (s : Scope) (m : PaymentOutcome)

/-- an action without its value -/
def quietly {α : Type} (x : Action Desk α) : Action Desk Unit := do
  let _ ← x
  return ()

def Operation.perform : Operation → Action Desk Unit
  | createOrder s r => quietly (Desk.createOrder s r)
  | changeStatus s id target => Desk.changeStatus s id target
  | deleteOrder s id => Desk.deleteOrder s id
  | createProduct draft => quietly (Desk.createProduct draft)
  | updateProduct s id draft => quietly (Desk.updateProduct s id draft)
  | deleteProduct s id => Desk.deleteProduct s id
  | createCategory name => quietly (Desk.createCategory name)
  | renameCategory id name => quietly (Desk.renameCategory id name)
  | deleteCategory id => Desk.deleteCategory id
  | payment s m => handlePayment s m

/-! ## inside a transaction -/

theorem takeLine_works (now : Stamp) (o : Order) (it : ItemRequest) : Works (takeLine now o it) := by
  refine (stored_works _ (Store.Products.read_joins true _)).bind fun p => ?_
  refine (Keeps.ofExcept _).keepsOr.bind fun p => ?_
  exact (stored_works _ (Store.Products.save_joins _)).context.bind fun _ => (Keeps.pure _).keepsOr

theorem takeLines_works (now : Stamp) (o : Order) (items : List ItemRequest) :
    Works (takeLines now o items) := by
  induction items generalizing o with
  | nil => exact (Keeps.pure _).keepsOr
  | cons it items ih => exact (takeLine_works now o it).bind fun o => ih o

theorem placeOrder_works (items : List ItemRequest) : Works (placeOrder items) := by
  refine now_works.bind fun t => takeUuid_works.bind fun n => ?_
  refine (takeLines_works _ _ _).bind fun o => Keeps.state.keepsOr.bind fun d => ?_
  refine (Keeps.ofExcept _).keepsOr.bind fun _ => ?_
  exact (stored_works _ (Store.Orders.save_joins _)).context

theorem moveOrder_works (id : Int) (target : Status) : Works (moveOrder id target) := by
  refine (onStore_works (Store.Orders.read_joins true _)).bind fun before => ?_
  refine now_works.bind fun t => (Keeps.ofExcept _).keepsOr.bind fun after => ?_
  exact (stored_works _ (Store.Orders.save_joins _)).context.bind fun _ => (Keeps.pure _).keepsOr

theorem eraseOrder_works (id : Int) : Works (eraseOrder id) := by
  refine (stored_works _ (Store.Orders.exists?_joins _)).bind fun b => ?_
  split
  · exact onStore_works (Store.Orders.delete_joins _)
  · exact (Keeps.raise _).keepsOr

theorem replaceProduct_works (id : Int) (new : ProductDraft) : Works (replaceProduct id new) := by
  refine (stored_works _ (Store.Products.read_joins true _)).bind fun p => ?_
  exact now_works.bind fun t => stored_works _ (Store.Products.save_joins _)

theorem nameCategory_works (id : Int) (name : String) : Works (nameCategory id name) := by
  refine now_works.bind fun t => KeepsOr.bind ?_ fun c => ?_
  · unfold categoryToSave
    split
    · exact (Keeps.pure _).keepsOr
    · exact onStore_works (Store.joins_of_readOnly (Store.Categories.get_readOnly id))
  · refine (stored_works _ (Store.Categories.nameTaken_joins _ _)).bind fun b => ?_
    split
    · exact (Keeps.raise _).keepsOr
    · exact stored_works _ (Store.Categories.save_joins _)

/-! ## the two ways of a creation -/

section
variable {s : Scope} {r : OrderRequest} {d : Desk}

/-- whether a key counts is settled once the items are checked, and stays so -/
theorem createUnmeasured_eq {keyed : Bool} (hk : usesKey d r = keyed) : createUnmeasured s r d = (do
    Action.ofExcept (checkItems r.items)
    match ← if keyed then lookBack r else pure none with
    | some raw => replay s raw
    | none => do
      if keyed then lockKey r
      let o ← storeOrRelease r keyed
      afterwards s r keyed o : Action Desk Summary) d := by
  subst hk
  unfold createUnmeasured
  cases checkItems r.items with
  | error f => rfl
  | ok u =>
    rw [Action.bind_of_ok Action.ofExcept_ok, Action.bind_of_ok Action.ofExcept_ok,
      Action.bind_of_ok Action.state_apply]
    rfl

/-- without a key that counts, an order is stored at once -/
theorem createUnmeasured_unkeyed (hk : usesKey d r = false) : createUnmeasured s r d = (do
    Action.ofExcept (checkItems r.items)
    let o ← reserveAndStore r.items
    afterwards s r false o : Action Desk Summary) d := by
  have hstore : storeOrRelease r false = reserveAndStore r.items := by
    funext d
    unfold storeOrRelease Action.orElse
    rcases reserveAndStore r.items d with ⟨o, d₁⟩
    cases o <;> rfl
  rw [createUnmeasured_eq hk, ← hstore]
  rfl

/-- with a key that counts, an order is stored under the lock of its key -/
theorem createUnmeasured_keyed (hk : usesKey d r = true) : createUnmeasured s r d = (do
    Action.ofExcept (checkItems r.items)
    match ← lookBack r with
    | some raw => replay s raw
    | none => do
      lockKey r
      let o ← storeOrRelease r true
      afterwards s r true o : Action Desk Summary) d := createUnmeasured_eq hk

/-- **Where a creation fails**, with what went well before it. -/
inductive CreationFails (s : Scope) (r : OrderRequest) (f : Failure) (d d' : Desk) : Prop where
  | malformed (h : checkItems r.items = .error f) (hd : d' = d)
  | unkeyed (h : reserveAndStore r.items d = (.failed f, d'))
  | lookedBack (h : lookBack r d = (.failed f, d'))
  | replayed (raw : String) (d₁ : Desk) (hfound : lookBack r d = (.ok (some raw), d₁))
      (h : replay s raw d₁ = (.failed f, d'))
  | locked (d₁ : Desk) (hfound : lookBack r d = (.ok none, d₁)) (h : lockKey r d₁ = (.failed f, d'))
  | keyed (d₁ d₂ : Desk) (hfound : lookBack r d = (.ok none, d₁))
      (hlock : lockKey r d₁ = (.ok (), d₂)) (h : storeOrRelease r true d₂ = (.failed f, d'))

theorem createUnmeasured_fails {f : Failure} {d' : Desk}
    (h : createUnmeasured s r d = (.failed f, d')) : CreationFails s r f d d' := by
  cases hk : usesKey d r with
  | false =>
    rw [createUnmeasured_unkeyed hk] at h
    obtain hcheck | ⟨_, d₁, hcheck, hrest⟩ := Action.bind_failed_iff.mp h
    · obtain ⟨herror, hd⟩ := Action.ofExcept_failed_iff.mp hcheck
      exact .malformed herror hd
    obtain ⟨-, rfl⟩ := Action.ofExcept_ok_iff.mp hcheck
    obtain hstore | ⟨o, d₂, -, hafter⟩ := Action.bind_failed_iff.mp hrest
    · exact .unkeyed hstore
    · exact absurd hafter (afterwards_unfailing s r false o d₂ f d')
  | true =>
    rw [createUnmeasured_keyed hk] at h
    obtain hcheck | ⟨_, d₁, hcheck, hrest⟩ := Action.bind_failed_iff.mp h
    · obtain ⟨herror, hd⟩ := Action.ofExcept_failed_iff.mp hcheck
      exact .malformed herror hd
    obtain ⟨-, rfl⟩ := Action.ofExcept_ok_iff.mp hcheck
    obtain hfound | ⟨found, d₂, hfound, hrest⟩ := Action.bind_failed_iff.mp hrest
    · exact .lookedBack hfound
    cases found with
    | some raw => exact .replayed raw d₂ hfound hrest
    | none =>
      obtain hlock | ⟨_, d₃, hlock, hrest⟩ := Action.bind_failed_iff.mp hrest
      · exact .locked d₂ hfound hlock
      obtain hstore | ⟨o, d₄, -, hafter⟩ := Action.bind_failed_iff.mp hrest
      · exact .keyed d₂ d₃ hfound hlock hstore
      · exact absurd hafter (afterwards_unfailing s r true o d₄ f d')

end

/-! ## the lock of a key -/

/-- a key that was set anew and removed leaves no trace -/
theorem erase_insert {ks : Redis.Keyspace} {key : String} (h : ks.get? key = none)
    (e : Redis.Entry) : (ks.insert key e).erase key = ks := by
  have hne : ∀ x ∈ ks, (x.1 != key) = true := by
    intro x hx
    have hx : key ≠ x.1 := by simpa using List.lookup_eq_none_iff.mp h x hx
    simpa using hx.symm
  have hk : ks.filter (·.1 != key) = ks := List.filter_eq_self.mpr hne
  show ((key, e) :: ks.filter (·.1 != key)).filter (·.1 != key) = ks
  rw [hk, List.filter_cons_of_neg (by simp), hk]

section
variable {k k' : Redis} {nanos : Int} {scope key : String} {got : Bool} {f : Failure}

theorem tryLock_ok (h : Idempotency.tryLock nanos scope key k = (.ok got, k')) :
    k.refusal = none ∧ (got = false ∧ k' = k ∨ got = true ∧ ∃ e,
      k.keys.get? (Idempotency.lockKey scope key) = none ∧
      k' = { k with keys := k.keys.insert (Idempotency.lockKey scope key) e }) := by
  unfold Idempotency.tryLock Redis.putNew at h
  split at h
  · cases h
  · unfold Redis.command at h
    cases hr : k.refusal with
    | some t => simp [hr] at h
    | none =>
      refine ⟨rfl, ?_⟩
      cases hg : k.keys.get? (Idempotency.lockKey scope key) with
      | some e =>
        simp only [hr, hg] at h
        obtain ⟨h₁, rfl⟩ := Prod.mk.inj h
        exact .inl ⟨(Outcome.ok.inj h₁).symm, by rw [← hr]⟩
      | none =>
        simp only [hr, hg] at h
        obtain ⟨h₁, rfl⟩ := Prod.mk.inj h
        exact .inr ⟨(Outcome.ok.inj h₁).symm, _, rfl, by rw [← hr]⟩

theorem tryLock_failed (h : Idempotency.tryLock nanos scope key k = (.failed f, k')) : k' = k := by
  unfold Idempotency.tryLock Redis.putNew at h
  split at h
  · exact (Prod.mk.inj h).2.symm
  · unfold Redis.command at h
    cases hr : k.refusal with
    | some t =>
      simp only [hr] at h
      exact (Prod.mk.inj h).2.symm
    | none => simp [hr] at h

theorem release_apply (hr : k.refusal = none) : Idempotency.release scope key k =
    (.ok (), { k with keys := k.keys.erase (Idempotency.lockKey scope key) }) := by
  unfold Idempotency.release Redis.remove Redis.command
  simp [hr]

end

/-! ## what a failure leaves -/

/-- What others see of the state: the store, the keyspace and the broker. -/
def effects (d : Desk) : Backend × Option Redis × Option Event.Broker := (d.store, d.redis, d.broker)

section
variable {α : Type} {d d' : Desk} {f : Failure} {r : OrderRequest}

theorem kept_eq_iff {absent : α} {x : Action Redis α} {o : Outcome α} :
    kept absent x d = (o, d') ↔ (d.redis = none ∧ o = .ok absent ∧ d' = d) ∨
      ∃ k k', d.redis = some k ∧ x k = (o, k') ∧ d' = { d with redis := some k' } := by
  unfold kept
  cases hr : d.redis with
  | none => simp [eq_comm]
  | some k =>
    rcases hx : x k with ⟨o', k'⟩
    simp [hx, and_assoc, eq_comm]

theorem kept_fixed {absent : α} {x : Action Redis α} (hx : Keeps (Fixed id) x) :
    Keeps (Fixed effects) (kept absent x) := by
  intro d
  rcases h : kept absent x d with ⟨o, d'⟩
  obtain ⟨-, -, rfl⟩ | ⟨k, k', hr, hk, rfl⟩ := kept_eq_iff.mp h
  · rfl
  · have : k' = k := hx.of_eq hk
    rw [this, ← hr]
    rfl

theorem reach_effects (c : Call) : Keeps (Fixed effects) (reach c) :=
  (reach_fixed c).mono fun _ _ h => congrArg effects h

/-- finding out what a key led to leaves no trace -/
theorem lookBack_effects (r : OrderRequest) : Keeps (Fixed effects) (lookBack r) := by
  have hfetch : Keeps (Fixed id) (Idempotency.lookBack r.client r.key) := by
    intro k
    unfold Idempotency.lookBack Redis.fetch Redis.command
    cases hr : k.refusal with
    | none => simp [Fixed, ← hr]
    | some t => rfl
  refine Keeps.bind ?_ fun found => ?_
  · exact ((reach_effects _).bind fun _ => kept_fixed hfetch).attempt
  · split <;> exact .pure _

/-- **What a key led to**, as it is kept under its name. -/
theorem lookBack_some_iff {raw : String} :
    lookBack r d = (.ok (some raw), d') ↔ d.outages.lookup .lookBack = none ∧
      ∃ k e, d.redis = some k ∧ k.refusal = none ∧
        k.keys.get? (Idempotency.resultKey r.client r.key) = some e ∧ e.value = raw ∧ d' = d := by
  unfold lookBack
  rw [Action.bind_ok_iff]
  simp only [Action.attempt_ok_iff]
  constructor
  · rintro ⟨found, d₁, ⟨a, h, rfl⟩ | ⟨f, -, rfl⟩, hrest⟩
    · obtain ⟨ha, rfl⟩ := Prod.mk.inj hrest
      obtain rfl : a = some raw := Outcome.ok.inj ha
      obtain ⟨_, d₂, hreach, hkept⟩ := Action.bind_ok_iff.mp h
      obtain ⟨hout, rfl⟩ := reach_ok_iff.mp hreach
      obtain ⟨-, hno, -⟩ | ⟨k, k', hk, hfetch, rfl⟩ := kept_eq_iff.mp hkept
      · cases hno
      · obtain ⟨hf, hraw, rfl⟩ := Redis.fetch_ok_iff.mp hfetch
        obtain ⟨e, he, rfl⟩ := Option.map_eq_some_iff.mp hraw.symm
        exact ⟨hout, k', e, hk, hf, he, rfl, by rw [← hk]⟩
    · cases hrest
  · rintro ⟨hout, k, e, hk, hf, he, rfl, rfl⟩
    have hfetch : Idempotency.lookBack r.client r.key k = (.ok (some e.value), k) :=
      Redis.fetch_ok_iff.mpr ⟨hf, by rw [he]; rfl, rfl⟩
    refine ⟨.ok (some e.value), d', .inl ⟨_, ?_, rfl⟩, rfl⟩
    rw [Action.bind_of_ok (reach_ok_iff (u := ()) |>.mpr ⟨hout, rfl⟩)]
    exact kept_eq_iff.mpr (.inr ⟨k, k, hk, hfetch, by rw [← hk]⟩)

theorem lockKey_failed (h : lockKey r d = (.failed f, d')) : d' = d := by
  unfold lockKey at h
  rw [Action.bind_of_ok Action.state_apply, Action.bind_failed_iff] at h
  rcases h with h | ⟨got, d₁, hgot, h⟩
  · obtain ⟨g, h, -⟩ := Action.context_failed_iff.mp h
    rcases Action.bind_failed_iff.mp h with h | ⟨_, d₁, hd, h⟩
    · exact (reach_failed_iff.mp h).2
    · obtain ⟨-, rfl⟩ := reach_ok_iff.mp hd
      obtain ⟨-, ho, -⟩ | ⟨k, k', hr, hk, rfl⟩ := kept_eq_iff.mp h
      · cases ho
      · rw [tryLock_failed hk, ← hr]
  · obtain ⟨_, d₂, hd, hkept⟩ := Action.bind_ok_iff.mp (Action.context_ok_iff.mp hgot)
    obtain ⟨-, rfl⟩ := reach_ok_iff.mp hd
    cases got with
    | true => cases h
    | false =>
      obtain ⟨-, rfl⟩ := Prod.mk.inj h
      obtain ⟨-, ho, -⟩ | ⟨k, k', hr, hk, rfl⟩ := kept_eq_iff.mp hkept
      · cases ho
      · obtain ⟨-, ⟨-, rfl⟩ | ⟨hgot, -⟩⟩ := tryLock_ok hk
        · rw [← hr]
        · cases hgot

/-- a lock that was taken is one more key, unless there is no keyspace -/
theorem lockKey_ok {u : Unit} (h : lockKey r d = (.ok u, d')) :
    (d.redis = none ∧ d' = d) ∨ ∃ k e, d.redis = some k ∧ k.refusal = none ∧
      k.keys.get? (Idempotency.lockKey r.client r.key) = none ∧ d' = { d with
        redis := some { k with keys := k.keys.insert (Idempotency.lockKey r.client r.key) e } } := by
  unfold lockKey at h
  rw [Action.bind_of_ok Action.state_apply, Action.bind_ok_iff] at h
  obtain ⟨got, d₁, hgot, h⟩ := h
  obtain ⟨_, d₂, hd, hkept⟩ := Action.bind_ok_iff.mp (Action.context_ok_iff.mp hgot)
  obtain ⟨-, rfl⟩ := reach_ok_iff.mp hd
  cases got with
  | false => cases h
  | true =>
    obtain ⟨-, rfl⟩ := Prod.mk.inj h
    obtain ⟨hr, -, rfl⟩ | ⟨k, k', hr, hk, rfl⟩ := kept_eq_iff.mp hkept
    · exact .inl ⟨hr, rfl⟩
    · obtain ⟨hf, ⟨hgot, -⟩ | ⟨-, e, hg, rfl⟩⟩ := tryLock_ok hk
      · cases hgot
      · exact .inr ⟨k, e, hr, hf, hg, rfl⟩

/-- giving back the lock that was taken leaves no trace of it -/
theorem releaseKey_after {k : Redis} {e : Redis.Entry} (hf : k.refusal = none)
    (hg : k.keys.get? (Idempotency.lockKey r.client r.key) = none)
    (hd : d.redis = some
      { k with keys := k.keys.insert (Idempotency.lockKey r.client r.key) e }) :
    releaseKey r d = (.ok (), { d with redis := some k }) := by
  have hk : kept () (Idempotency.release r.client r.key) d
      = (.ok (), { d with redis := some k }) := by
    refine kept_eq_iff.mpr (.inr ⟨_, _, hd, release_apply hf, ?_⟩)
    rw [erase_insert hg]
  unfold releaseKey
  rw [Action.attempt_bind_of_ok hk]
  rfl

theorem transaction_failed {x : Action Desk α} {db : Database} (hx : Works x)
    (hs : d.store = .embedded db) (hr : db.saved = none)
    (h : transaction x d = (.failed f, d')) : effects d' = effects d ∧ beside d' = beside d := by
  have hb : beside d' = beside d := (transaction_beside hx).of_eq h
  have hstore := transaction_undone hx hs hr (by rw [h]; simp)
  rw [h] at hstore
  refine ⟨?_, hb⟩
  simp only [beside, Prod.mk.injEq] at hb
  simp only [effects, Prod.mk.injEq]
  exact ⟨hstore, hb.2.1, hb.2.2.1⟩

section
variable {s : Scope} {db : Database} (hs : d.store = .embedded db) (hr : db.saved = none)
include hs

theorem replay_failed {raw : String} (h : replay s raw d = (.failed f, d')) :
    effects d' = effects d := by
  unfold replay at h
  cases hraw : Word.parseInt? raw with
  | none =>
    rw [hraw] at h
    rw [(Prod.mk.inj h).2]
  | some id =>
    rw [hraw] at h
    rcases Action.bind_failed_iff.mp h with h | ⟨o, d₁, -, h⟩
    · obtain ⟨-, rfl⟩ | ⟨-, b, hb, rfl⟩ := stored_failed_iff.mp h
      · rfl
      · have hsame : b = .embedded db := ((Store.Orders.read_readOnly false _).of_eq hb).embedded hs
        rw [hsame, ← hs]
    · cases h

include hr

theorem reserveAndStore_failed {items : List ItemRequest}
    (h : reserveAndStore items d = (.failed f, d')) :
    effects d' = effects d ∧ beside d' = beside d :=
  transaction_failed (placeOrder_works items) hs hr h

/-- the lock of a key is taken before the transaction and given back when that fails -/
theorem storeOrRelease_failed {d₁ : Desk} {u : Unit} (hl : lockKey r d = (.ok u, d₁))
    (h : storeOrRelease r true d₁ = (.failed f, d')) : effects d' = effects d := by
  obtain ⟨g, d₂, hstore, hgive⟩ := Action.orElse_failed_iff.mp h
  have hgive : (releaseKey r >>= fun _ => Action.fail g) d₂ = (.failed f, d') := hgive
  obtain ⟨hnone, rfl⟩ | ⟨k, e, hk, hf, hg, rfl⟩ := lockKey_ok hl
  · have he := (reserveAndStore_failed hs hr hstore).1
    have hred : d₂.redis = none := by
      have : d₂.redis = d₁.redis := congrArg (·.2.1) he
      rw [this, hnone]
    have hrel : releaseKey r d₂ = (.ok (), d₂) := by
      unfold releaseKey
      have hkept : kept () (Idempotency.release r.client r.key) d₂ = (.ok (), d₂) :=
        kept_eq_iff.mpr (.inl ⟨hred, rfl, rfl⟩)
      rw [Action.attempt_bind_of_ok hkept]
      rfl
    rw [Action.bind_of_ok hrel] at hgive
    rw [← (Prod.mk.inj hgive).2, he]
  · have he := (reserveAndStore_failed (d := { d with redis := some _ }) hs hr hstore).1
    have hred := congrArg (·.2.1) he
    rw [Action.bind_of_ok (releaseKey_after hf hg hred)] at hgive
    rw [← (Prod.mk.inj hgive).2]
    simp only [effects, Prod.mk.injEq] at he ⊢
    exact ⟨he.1, hk.symm, he.2.2⟩

theorem createUnmeasured_failed (h : createUnmeasured s r d = (.failed f, d')) :
    effects d' = effects d := by
  cases createUnmeasured_fails h with
  | malformed _ hd => rw [hd]
  | unkeyed h => exact (reserveAndStore_failed hs hr h).1
  | lookedBack h => exact (lookBack_effects r).of_eq h
  | replayed raw d₁ hfound h =>
    have he : effects d₁ = effects d := (lookBack_effects r).of_eq hfound
    rw [replay_failed ((congrArg Prod.fst he).trans hs) h, he]
  | locked d₁ hfound h =>
    have he : effects d₁ = effects d := (lookBack_effects r).of_eq hfound
    rw [lockKey_failed h, he]
  | keyed d₁ d₂ hfound hlock h =>
    have he : effects d₁ = effects d := (lookBack_effects r).of_eq hfound
    rw [storeOrRelease_failed ((congrArg Prod.fst he).trans hs) hr hlock h, he]

theorem createOrder_failed (h : createOrder s r d = (.failed f, d')) :
    effects d' = effects d := by
  obtain ⟨s', t, t', m, d₁, hcreate, rfl⟩ := createOrder_end h
  have he : effects d₁ = effects d :=
    createUnmeasured_failed (d := { d with tracer := t }) hs hr hcreate
  exact he

theorem changeStatus_failed {id : Int} {target : Status}
    (h : changeStatus s id target d = (.failed f, d')) : effects d' = effects d := by
  obtain ⟨s', t, t', d₁, hbody, rfl⟩ := inSpan_end h
  rcases Action.bind_failed_iff.mp hbody with h | ⟨⟨before, after⟩, d₂, -, h⟩
  · exact (transaction_failed (d := { d with tracer := t }) (moveOrder_works id target) hs hr h).1
  · exact absurd h (afterMove_unfailing s' id before after d₂ f d₁)

theorem deleteOrder_failed {id : Int} (h : deleteOrder s id d = (.failed f, d')) :
    effects d' = effects d := by
  rcases Action.bind_failed_iff.mp h with h | ⟨_, d₁, -, h⟩
  · exact (transaction_failed (eraseOrder_works id) hs hr h).1
  · exact absurd h (((Unfailing.change _).bind fun _ => evictOrder_unfailing s id) d₁ f d')

theorem updateProduct_failed {id : Int} {draft : ProductDraft}
    (h : updateProduct s id draft d = (.failed f, d')) : effects d' = effects d := by
  rcases Action.bind_failed_iff.mp h with h | ⟨new, d₁, hc, hrest⟩
  · rw [(Action.ofExcept_failed_iff.mp h).2]
  obtain ⟨-, rfl⟩ := Action.ofExcept_ok_iff.mp hc
  rcases Action.bind_failed_iff.mp hrest with h | ⟨p, d₂, -, h⟩
  · exact (transaction_failed (replaceProduct_works id new) hs hr h).1
  · exact absurd h (((Unfailing.change _).bind fun _ => .pure _) d₂ f d')

theorem saveCategory_failed {id : Int} {raw : String}
    (h : saveCategory id raw d = (.failed f, d')) : effects d' = effects d := by
  rcases Action.bind_failed_iff.mp h with h | ⟨name, d₁, hc, hrest⟩
  · rw [(Action.ofExcept_failed_iff.mp h).2]
  obtain ⟨-, rfl⟩ := Action.ofExcept_ok_iff.mp hc
  exact (transaction_failed (nameCategory_works id name) hs hr hrest).1

theorem handlePayment_failed {m : PaymentOutcome} (h : handlePayment s m d = (.failed f, d')) :
    effects d' = effects d := by
  unfold handlePayment at h
  cases ht : m.target? with
  | none =>
    rw [ht] at h
    exact absurd h (Unfailing.change _ d f d')
  | some target =>
    rw [ht] at h
    obtain ⟨g, d₁, hmove, h⟩ := Action.orElse_failed_iff.mp h
    split at h
    · rw [← (Prod.mk.inj h).2]
      exact changeStatus_failed hs hr hmove
    · exact absurd h (Unfailing.change _ d₁ f d')

theorem createProduct_failed {draft : ProductDraft}
    (h : createProduct draft d = (.failed f, d')) : effects d' = effects d := by
  rcases Action.bind_failed_iff.mp h with h | ⟨p, d₁, hc, hrest⟩
  · rw [(Action.ofExcept_failed_iff.mp h).2]
  obtain ⟨-, rfl⟩ := Action.ofExcept_ok_iff.mp hc
  rw [Action.bind_of_ok now_apply] at hrest
  obtain ⟨-, rfl⟩ | ⟨-, b, hb, rfl⟩ := stored_failed_iff.mp hrest
  · rfl
  · rw [hs] at hb
    rw [Store.Products.insert_failed rfl hr hb, ← hs]

omit hr

theorem deleteProduct_failed {id : Int} (h : deleteProduct s id d = (.failed f, d')) :
    effects d' = effects d := by
  rcases Action.bind_failed_iff.mp h with h | ⟨_, d₁, -, h⟩
  · obtain ⟨b, hb, rfl⟩ := onStore_eq_iff.mp h
    rw [hs] at hb
    rw [Store.Products.delete_failed hb, ← hs]
  · exact absurd h (Unfailing.change _ d₁ f d')

theorem deleteCategory_failed {id : Int} (h : deleteCategory id d = (.failed f, d')) :
    effects d' = effects d := by
  obtain ⟨b, hb, rfl⟩ := onStore_eq_iff.mp h
  rw [hs] at hb
  rw [Store.Categories.delete_failed hb, ← hs]

end

theorem quietly_failed_iff {x : Action Desk α} :
    quietly x d = (.failed f, d') ↔ x d = (.failed f, d') := by
  unfold quietly
  simp

theorem quietly_of_ok {x : Action Desk α} {a : α} (h : (x d).1 = .ok a) :
    (quietly x d).1 = .ok () := by
  unfold quietly
  rw [Action.bind_of_ok (Action.apply_of_outcome h)]
  rfl

theorem quietly_fails_iff {x : Action Desk α} :
    (quietly x d).1 = .failed f ↔ (x d).1 = .failed f :=
  ⟨fun h => congrArg Prod.fst (quietly_failed_iff.mp (Action.apply_of_outcome h)),
    fun h => congrArg Prod.fst (quietly_failed_iff.mpr (Action.apply_of_outcome h))⟩

/-- the state does not depend on whether the value is looked at -/
theorem quietly_state (x : Action Desk α) : (quietly x d).2 = (x d).2 :=
  Action.bind_pure_snd x _ d

/-- **A failed operation changes nothing**: wherever it failed, the tables with their counters, the
keyspace with its locks and cached orders, and the published events are as they were. -/
theorem failed_operation_changes_nothing {op : Operation} {db : Database}
    (hs : d.store = .embedded db) (hr : db.saved = none) (h : op.perform d = (.failed f, d')) :
    d'.store = d.store ∧ d'.redis = d.redis ∧ d'.broker = d.broker := by
  have he : effects d' = effects d := by
    cases op with
    | createOrder s r => exact createOrder_failed hs hr (quietly_failed_iff.mp h)
    | changeStatus s id target => exact changeStatus_failed hs hr h
    | deleteOrder s id => exact deleteOrder_failed hs hr h
    | createProduct draft => exact createProduct_failed hs hr (quietly_failed_iff.mp h)
    | updateProduct s id draft => exact updateProduct_failed hs hr (quietly_failed_iff.mp h)
    | deleteProduct s id => exact deleteProduct_failed hs h
    | createCategory name => exact saveCategory_failed hs hr (quietly_failed_iff.mp h)
    | renameCategory id name => exact saveCategory_failed hs hr (quietly_failed_iff.mp h)
    | deleteCategory id => exact deleteCategory_failed hs h
    | payment s m => exact handlePayment_failed hs hr h
  simpa only [effects, Prod.mk.injEq] using he

end

/-! ## a small shop -/

def fiveUnits : Store.Table Store.ProductRow :=
  { rows := [⟨1, "A", "2", .int 5, .time .zero, .time .zero⟩], lastId := 1 }

/-- A small shop with five units of one product, and some tables of orders and lines. -/
def shopWith (book : Store.Table Store.OrderRow) (lines : Store.Table Store.ItemRow) : Desk where
  policy := { maxOrderValue := .ofInt 100, cacheTime := 1, idempotencyTime := 1 }
  store := .embedded { tables := {
    products := some fiveUnits
    orders := some book
    items := some lines
    categories := some {}
    versions := some [1, 2] } }
  redis := some {}
  broker := some {}
  clock := .zero

/-- twice three of five units: the second line fails, after the key of the client was locked and
the first line took its stock -/
theorem shop_unchanged_when_short : ∃ d',
    (Operation.createOrder scope ⟨"c", "k", [⟨1, 3⟩, ⟨1, 3⟩]⟩).perform (shopWith {} {})
      = (.failed (.cause (.insufficientStock 1 "A" 3 2)), d') ∧
    d'.store = (shopWith {} {}).store ∧ d'.redis = some {} ∧ d'.broker = some {} := by
  have h : (Operation.createOrder scope ⟨"c", "k", [⟨1, 3⟩, ⟨1, 3⟩]⟩).perform (shopWith {} {})
      = (.failed (.cause (.insufficientStock 1 "A" 3 2)), _) := Prod.ext rfl rfl
  exact ⟨_, h, failed_operation_changes_nothing rfl rfl h⟩

end OrderDesk.Desk
