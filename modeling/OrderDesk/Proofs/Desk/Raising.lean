import OrderDesk.Proofs.Desk.Creation
import OrderDesk.Proofs.Store.Causes

/-!
# What a creation fails for

A creation fails for what is wrong with the shape of the request, for what its own steps and the
store fail for, or for what a collaborator that is out of order makes up.

* `Reliable C`               no collaborator that is out of order fails for a cause beyond `C`;
* `Cause.CreationClass C`    a class with all that a creation fails for once its request is well
                             formed;
* `placeOrder_raises`        the transaction of a creation;
* `createOrder_raises`       the whole of it.
-/

namespace OrderDesk

/-- A class with all that a creation fails for once its request is well formed. -/
structure Cause.CreationClass (C : Cause → Prop) : Prop extends Cause.StoreClass C where
  short : ∀ id name requested available, C (.insufficientStock id name requested available)
  above : ∀ total limit, C (.valueExceeded total limit)
  duplicate : C .duplicate

namespace Desk

open OrderDesk.Action (Raises)
open Store (Backend Anyhow)

variable {C : Cause → Prop} {α : Type} {d d' : Desk} {f : Failure}

/-! ## steps -/

/-- No collaborator that is out of order fails for a cause beyond a class. -/
def Reliable (C : Cause → Prop) (d : Desk) : Prop :=
  ∀ c f, d.outages.lookup c = some (.fails f) → f.Only C

/-- a step that does not touch what is out of order, and does not fail -/
theorem raises_of_silent {x : Action Desk α} (ho : ∀ d, (x d).2.outages = d.outages)
    (hf : ∀ d g, (x d).1 ≠ .failed g) : Raises C (Reliable C) x := by
  intro d hd
  refine ⟨?_, fun g hg => absurd hg (hf d g)⟩
  unfold Reliable
  rw [ho]
  exact hd

theorem log_raises (s : Scope) (l : Log.Level) (m : String) (as : Log.Attrs) :
    Raises C (Reliable C) (log s l m as) := raises_of_silent (fun _ => rfl) fun _ _ => nofun

theorem reach_raises (c : Call) : Raises C (Reliable C) (reach c) := by
  intro d hd
  have hfix : (reach c d).2 = d := reach_fixed c d
  refine ⟨?_, fun g hg => hd c g ?_⟩
  · rw [hfix]
    exact hd
  · exact (reach_failed_iff.mp (Prod.ext hg hfix)).1

theorem desk_onStore_raises {x : Action Backend α} (hx : Raises C Anyhow x) :
    Raises C (Reliable C) (Store.onStore x : Action Desk α) :=
  Store.onStore_raises (fun _ _ h => h) hx

theorem stored_raises (c : Call) {x : Action Backend α} (hx : Raises C Anyhow x) :
    Raises C (Reliable C) (stored c x) :=
  (reach_raises c).bind fun _ => desk_onStore_raises hx

theorem transaction_raises (hC : Cause.StoreClass C) {x : Action Desk α}
    (hx : Raises C (Reliable C) x) : Raises C (Reliable C) (transaction x) :=
  (reach_raises _).bind fun _ => Store.within_raises hC (fun _ _ h => h) hx

theorem kept_raises (absent : α) {x : Action Redis α}
    (hx : ∀ k g, (x k).1 = .failed g → g.Only C) : Raises C (Reliable C) (kept absent x) := by
  intro d hd
  unfold kept
  cases d.redis with
  | none => exact .ok hd absent
  | some k => exact ⟨hd, hx k⟩

theorem command_error (hC : Cause.StoreClass C) {g : Redis.Keyspace → α × Redis.Keyspace}
    {k : Redis} (h : (Redis.command g k).1 = .failed f) : f.Only C := by
  unfold Redis.command at h
  cases hr : k.refusal with
  | some text =>
    simp only [hr] at h
    rw [← Outcome.failed.inj h]
    exact hC.only_plain text
  | none => simp [hr] at h

/-! ## the transaction -/

/-- the order that is built line by line matches its lines -/
theorem takeLines_balanced {now : Stamp} {items : List ItemRequest} {o o' : Order}
    (ho : o.Balanced) (h : takeLines now o items d = (.ok o', d')) : o'.Balanced := by
  induction items generalizing o d with
  | nil =>
    obtain ⟨he, -⟩ := Prod.mk.inj h
    rw [← Outcome.ok.inj he]
    exact ho
  | cons it items ih =>
    obtain ⟨o₁, d₁, hline, hrest⟩ := Action.bind_ok_iff.mp h
    obtain ⟨_, _, -, hline⟩ := Action.bind_ok_iff.mp hline
    obtain ⟨_, _, -, hline⟩ := Action.bind_ok_iff.mp hline
    obtain ⟨p, _, -, hline⟩ := Action.bind_ok_iff.mp hline
    obtain ⟨he, -⟩ := Prod.mk.inj hline
    have hbal : o₁.Balanced := by
      rw [← Outcome.ok.inj he]
      exact ho.addLine p it.quantity
    exact ih hbal hrest

section
variable (hC : Cause.CreationClass C)
include hC

/-- asked for at least one unit, a product fails for its stock only -/
theorem reserve_error {p : Product} {q : Int} (hq : 1 ≤ q) (h : p.reserve q = .error f) :
    f.Only C := by
  unfold Product.reserve at h
  rw [if_neg (by omega)] at h
  split at h
  · obtain rfl := Except.error.inj h
    exact Failure.only_cause (hC.short _ _ _ _)
  · cases h

theorem takeLine_raises (now : Stamp) (o : Order) {it : ItemRequest} (hq : 1 ≤ it.quantity) :
    Raises C (Reliable C) (takeLine now o it) := by
  have hstore := hC.toStoreClass
  refine (stored_raises _ (Store.Products.read_raises hstore true _)).bind fun p => ?_
  refine Raises.bind (.ofExcept fun _ => reserve_error hC hq) fun p => ?_
  exact (stored_raises _ (Store.Products.save_raises hstore _)).context.bind fun _ => .pure _

theorem takeLines_raises (now : Stamp) (o : Order) {items : List ItemRequest}
    (hq : ∀ it ∈ items, 1 ≤ it.quantity) : Raises C (Reliable C) (takeLines now o items) := by
  induction items generalizing o with
  | nil => exact .pure _
  | cons it items ih =>
    exact (takeLine_raises hC now o (hq it List.mem_cons_self)).bind fun o =>
      ih o fun x hx => hq x (List.mem_cons_of_mem it hx)

theorem placeOrder_raises {items : List ItemRequest} (hq : ∀ it ∈ items, 1 ≤ it.quantity) :
    Raises C (Reliable C) (placeOrder items) := by
  have huuid : Raises C (Reliable C) takeUuid :=
    raises_of_silent (fun _ => rfl) fun _ _ => nofun
  refine Raises.bind (.reads _) fun now => huuid.bind fun n => ?_
  refine (takeLines_raises hC now _ hq).bind_of (Q := Order.Balanced) ?_ fun o ho => ?_
  · intro d o d' _ h
    exact takeLines_balanced (Order.balanced_start _ _) h
  · refine Raises.state.bind fun d => Raises.bind (.ofExcept fun f h => ?_) fun _ => ?_
    · unfold Order.checkValue at h
      split at h
      · obtain rfl := Except.error.inj h
        exact Failure.only_cause (hC.above _ _)
      · cases h
    · exact (stored_raises _ (Store.Orders.save_raises hC.toStoreClass ho)).context

/-! ## around the transaction -/

theorem lookBack_raises (r : OrderRequest) : Raises C (Reliable C) (lookBack r) := by
  refine Raises.bind (Raises.attempt ?_) fun found => ?_
  · exact (reach_raises _).bind fun _ => kept_raises _ fun k g h => command_error hC.toStoreClass h
  · split <;> exact .pure _

theorem lockKey_raises (r : OrderRequest) : Raises C (Reliable C) (lockKey r) := by
  have hlock : ∀ nanos k g, (Idempotency.tryLock nanos r.client r.key k).1 = .failed g →
      g.Only C := by
    intro nanos k g h
    unfold Idempotency.tryLock Redis.putNew at h
    split at h
    · rw [← Outcome.failed.inj h]
      exact hC.only_plain _
    · exact command_error hC.toStoreClass h
  refine Raises.state.bind fun d => Raises.bind ?_ fun got => ?_
  · exact Raises.context ((reach_raises _).bind fun _ => kept_raises _ (hlock _))
  · split
    · exact .pure _
    · exact .raise hC.duplicate

theorem replay_raises (s : Scope) (raw : String) : Raises C (Reliable C) (replay s raw) := by
  unfold replay
  split
  · exact .fail (hC.only_plain _)
  · refine (stored_raises _ (Store.Orders.read_raises hC.toStoreClass false _)).bind fun o => ?_
    exact (log_raises _ _ _ _).bind fun _ => .pure _

theorem storeOrRelease_raises {r : OrderRequest} (hq : ∀ it ∈ r.items, 1 ≤ it.quantity) :
    Raises C (Reliable C) (storeOrRelease r true) := by
  have hplace := transaction_raises hC.toStoreClass (placeOrder_raises hC hq)
  refine hplace.orElse fun f hf => ?_
  have hkept : Raises C (Reliable C) (kept () (Idempotency.release r.client r.key)) :=
    kept_raises () fun k g h => command_error hC.toStoreClass h
  have hrelease : Raises C (Reliable C) (releaseKey r) := hkept.attempt.bind fun _ => .pure _
  exact hrelease.bind fun _ => .fail hf

theorem createUnmeasured_raises {s : Scope} {r : OrderRequest}
    (hshape : ∀ c, Malformed r.items c → C c) (hd : Reliable C d)
    (h : createUnmeasured s r d = (.failed f, d')) : f.Only C := by
  rcases checkItems_ends r.items with ⟨hok, hwell⟩ | ⟨c, hbad, herror, -⟩
  case inr =>
    have hend : createUnmeasured s r d = (.failed (.cause c), d) := by
      unfold createUnmeasured
      rw [herror]
      rfl
    rw [hend] at h
    rw [← Outcome.failed.inj (Prod.mk.inj h).1]
    exact Failure.only_cause (hshape c hbad)
  case inl =>
    have hq : ∀ it ∈ r.items, 1 ≤ it.quantity := fun it hit => (hwell.2 it hit).2
    cases createUnmeasured_fails h with
    | malformed herror _ =>
      rw [hok] at herror
      cases herror
    | unkeyed h =>
      exact (transaction_raises hC.toStoreClass (placeOrder_raises hC hq)).of_failed hd h
    | lookedBack h => exact (lookBack_raises hC r).of_failed hd h
    | replayed raw d₁ hfound h =>
      exact (replay_raises hC s raw).of_failed ((lookBack_raises hC r).of_ok hd hfound) h
    | locked d₁ hfound h =>
      exact (lockKey_raises hC r).of_failed ((lookBack_raises hC r).of_ok hd hfound) h
    | keyed d₁ d₂ hfound hlock h =>
      have hd₁ : Reliable C d₁ := (lookBack_raises hC r).of_ok hd hfound
      have hd₂ : Reliable C d₂ := (lockKey_raises hC r).of_ok hd₁ hlock
      exact (storeOrRelease_raises hC hq).of_failed hd₂ h

/-- **What a creation fails for.** With collaborators that make nothing else up, a creation fails
for causes of a class only, if the class has what is wrong with the shape of the request and all
that its steps fail for. -/
theorem createOrder_raises {s : Scope} {r : OrderRequest}
    (hshape : ∀ c, Malformed r.items c → C c) (hd : Reliable C d)
    (h : createOrder s r d = (.failed f, d')) : f.Only C := by
  obtain ⟨s', t, t', m, d₁, hcreate, rfl⟩ := createOrder_end h
  exact createUnmeasured_raises hC hshape (d := { d with tracer := t }) hd hcreate

end

end Desk

end OrderDesk
