import OrderDesk.Proofs.Desk.Atomicity

/-!
# The calls of the service

A call changes something or only looks, and it writes under a few names of the keyspace at most.

* `Query`, `Request`      the calls;
* `Request.names`         the names a call may write under, besides those of the orders it changed;
* `Looks W`               with an embedded store, only entries under the names in `W` differ;
* `Query.looks`           what a call that only looks leaves alone.
-/

namespace OrderDesk.Desk

open OrderDesk.Action (Keeps)
open Store (Backend Tables Table)

/-! ## the calls -/

/-- A call that changes nothing in the tables. -/
inductive Query where
  | getOrder (s : Scope) (id : Int)
  | listOrders (status : Option Status) (page : PageRequest)
  | getProduct (id : Int)
  | listProducts (fragment : String) (page : PageRequest)
  | getCategory (id : Int)
  | listCategories

def Query.perform : Query → Action Desk Unit
  | getOrder s id => quietly (Desk.getOrder s id)
  | listOrders status page => quietly (Desk.listOrders status page)
  | getProduct id => quietly (Desk.getProduct id)
  | listProducts fragment page => quietly (Desk.listProducts fragment page)
  | getCategory id => quietly (Desk.getCategory id)
  | listCategories => quietly Desk.listCategories

/-- A call of the service. -/
inductive Request where
  | change (op : Operation)
  | look (q : Query)

def Request.perform : Request → Action Desk Unit
  | change op => op.perform
  | look q => q.perform

/-- the names of a client's key, if there is one -/
def OrderRequest.names (r : OrderRequest) : List String :=
  if r.key = "" then []
  else [Idempotency.lockKey r.client r.key, Idempotency.resultKey r.client r.key]

/-- the names under which a call may write besides those of the orders it changed -/
def Request.names : Request → List String
  | .change (.createOrder _ r) => r.names
  | .look (.getOrder _ id) => [OrderCache.key id]
  | _ => []

/-- the order that a call is to move, and the status that it is to have -/
def Request.move? : Request → Option (Int × Status)
  | .change (.changeStatus _ id target) => some (id, target)
  | .change (.payment _ m) => m.target?.map fun target => (m.orderId, target)
  | _ => none

/-! ## calls that only look -/

/-- With an embedded store, only entries under the names in `W` differ. -/
def Looks (W : List String) (d d' : Desk) : Prop := (∃ db, d.store = .embedded db) → Writes W d d'

instance (W : List String) : IsPreorder Desk (Looks W) where
  refl d _ := refl_of (Writes W) d
  trans d d₁ _ h₁ h₂ := by
    rintro ⟨db, hs⟩
    have hw : Writes W d d₁ := h₁ ⟨db, hs⟩
    exact trans_of (Writes W) hw (h₂ ⟨db, hw.store.trans hs⟩)

section
variable {α : Type} {W : List String}

theorem looks_of_writes {x : Action Desk α} (hx : Keeps (Writes W) x) : Keeps (Looks W) x :=
  hx.mono fun _ _ h _ => h

theorem onStore_looks {x : Action Backend α} (hx : Keeps Store.ReadOnly x) :
    Keeps (Looks W) (Store.onStore x : Action Desk α) := by
  intro d
  rintro ⟨db, hs⟩
  have hstore : (x d.store).2 = .embedded db := (hx d.store).embedded hs
  have hsame : ((Store.onStore x : Action Desk α) d).2 = d := by
    show ({ d with store := (x d.store).2 } : Desk) = d
    rw [hstore, ← hs]
  rw [hsame]
  exact refl_of (Writes W) d

theorem stored_looks (c : Call) {x : Action Backend α} (hx : Keeps Store.ReadOnly x) :
    Keeps (Looks W) (stored c x) :=
  (looks_of_writes (reach_writes c)).bind fun _ => onStore_looks hx

theorem replay_looks (s : Scope) (raw : String) : Keeps (Looks W) (replay s raw) := by
  unfold replay
  split
  · exact .fail _
  · refine (stored_looks _ (Store.Orders.read_readOnly false _)).bind fun o => ?_
    exact (looks_of_writes (log_writes _ _ _ _)).bind fun _ => .pure _

theorem cachedOrder_writes (s : Scope) (id : Int) (hW : OrderCache.key id ∈ W) :
    Keeps (Writes W) (cachedOrder s id) := by
  have hget : Keeps (Redis.Touches W) (OrderCache.get id) := by
    refine Redis.fetch_touches.bind fun found => ?_
    split
    · exact .pure _
    · split
      · exact .pure _
      · split
        · exact .pure _
        · exact (Redis.remove_touches hW).attempt.bind fun _ => .pure _
  refine Keeps.bind .state fun d => ?_
  split
  · refine Keeps.bind ((reach_writes _).bind fun _ => kept_writes _ hget).attempt fun r => ?_
    split
    · exact .pure _
    · exact (log_writes _ _ _ _).bind fun _ => .pure _
  · exact .pure _

theorem fillCache_writes (s : Scope) (id : Int) (o : Order) (hW : OrderCache.key o.id ∈ W) :
    Keeps (Writes W) (fillCache s id o) := by
  have hfill : ∀ nanos, Keeps (Redis.Touches W) (OrderCache.fill nanos o) := fun nanos =>
    (Keeps.ofExcept _).bind fun _ => (Redis.putNew_touches hW).bind fun _ => .pure _
  exact Keeps.bind .state fun d => warnOnFailure_writes _ _ _ (kept_writes _ (hfill _))

theorem getOrder_looks (s : Scope) (id : Int) (hW : OrderCache.key id ∈ W) :
    Keeps (Looks W) (getOrder s id) := by
  refine (looks_of_writes (cachedOrder_writes s id hW)).bind fun found => ?_
  cases found with
  | some o => exact .pure _
  | none =>
    intro d
    rintro ⟨db, hs⟩
    have hread : Writes W d (stored .getOrder (Store.Orders.get id) d).2 :=
      stored_looks _ (Store.Orders.read_readOnly false id) d ⟨db, hs⟩
    rcases Action.bind_ends (stored .getOrder (Store.Orders.get id))
      (fun o => do fillCache s id o; return o.summary) d with ⟨o, d₁, ho, hrest⟩ | ⟨-, -, hsame⟩
    · rw [ho] at hread
      obtain ⟨-, b, hget, -⟩ := stored_ok_iff.mp ho
      rw [hs] at hget
      have hid : o.id = id := (Store.Orders.reads_iff.mp hget).2.2.id_eq
      have hfill : Keeps (Writes W) (do fillCache s id o; return o.summary) :=
        (fillCache_writes s id o (hid.symm ▸ hW)).bind fun _ => .pure _
      have hafter : Writes W d₁ ((do fillCache s id o; return o.summary : Action Desk Summary) d₁).2 :=
        hfill d₁
      rw [← hrest] at hafter
      exact trans_of (Writes W) hread hafter
    · rw [← hsame] at hread
      exact hread

/-- a query writes under the name of the order it asks for, if it asks for one -/
theorem Query.looks (q : Query) : Keeps (Looks (Request.look q).names) q.perform := by
  have hquiet : ∀ {β : Type} {x : Action Desk β} {W : List String},
      Keeps (Looks W) x → Keeps (Looks W) (quietly x) := fun hx => hx.bind fun _ => .pure _
  cases q with
  | getOrder s id => exact hquiet (getOrder_looks s id List.mem_cons_self)
  | listOrders status page =>
    exact hquiet ((stored_looks _ (Store.Orders.find_readOnly _ page)).bind fun _ => .pure _)
  | getProduct id =>
    exact hquiet (stored_looks _ (Store.readOne_keeps _ _ _ (Store.send_readOnly rfl)))
  | listProducts fragment page => exact hquiet (onStore_looks (Store.Products.list_readOnly _ page))
  | getCategory id => exact hquiet (onStore_looks (Store.Categories.get_readOnly id))
  | listCategories =>
    exact hquiet (onStore_looks (Store.allRows_keeps _ _ (Store.send_readOnly rfl)))

end

end OrderDesk.Desk
