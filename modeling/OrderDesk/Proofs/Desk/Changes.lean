import OrderDesk.Proofs.Desk.Announced
import OrderDesk.Proofs.Desk.Cached
import OrderDesk.Proofs.Desk.Catalog
import OrderDesk.Proofs.Desk.Creation

/-!
# Changes

A call leaves the tables as they are or changes them in one of a few ways, and it writes under a few
names of the keyspace. What is kept true of tables and of cached orders is kept by these changes,
one after another.

* `Change`, `Does`        the ways in which a call changes something, and the tables they lead to;
* `Tells`                 what is announced of a change;
* `Deed`                  a change, with what was written beside the store and what was announced;
* `transaction_deed`      a transaction and what follows it are a deed.
-/

namespace OrderDesk.Desk

open OrderDesk.Action (Keeps)
open Event (Notice)
open Store (Backend Database Tables Table ProductRow OrderRow ItemRow inside)

/-! ## changes -/

/-- How a call changes something: it stores an order, moves or removes one, or works on the
catalog. -/
inductive Change where
  | idle
  | placed (o : Order)
  | moved (o : Order)
  | erased (id : Int)
  | catalog

/-- The tables that a change of a request leads to, at some time and with some limit on orders. -/
inductive Does (limit : Decimal) (now : Stamp) (ts : Tables) : Request → Change → Tables → Prop where
  | idle {r : Request} : Does limit now ts r .idle ts
  | placed {s : Scope} {r : OrderRequest} {n : Nat} {t t' : Table ProductRow}
      {book : Table OrderRow} {lines : Table ItemRow} {o : Order} (ht : ts.products = some t)
      (hbook : ts.orders = some book) (hlines : ts.items = some lines) (hw : WellFormed r.items)
      (h : Placed limit now (orderNumber n) r.items t t' book lines o) :
      Does limit now ts (.change (.createOrder s r)) (.placed o)
        (Store.Orders.withNew { ts with products := some t' } book lines o)
  | moved {r : Request} {id : Int} {target : Status} {book : Table OrderRow}
      {lines : Table ItemRow} {before after : Order} (hr : r.move? = some (id, target))
      (hbook : ts.orders = some book) (hlines : ts.items = some lines) (hread : ts.Reads id before)
      (hmove : before.moveTo target now = .ok after) :
      Does limit now ts r (.moved after) (Store.Orders.withChanged ts book lines after)
  | erased {s : Scope} {id : Int} {book : Table OrderRow} {lines : Table ItemRow}
      (hbook : ts.orders = some book) (hlines : ts.items = some lines) :
      Does limit now ts (.change (.deleteOrder s id)) (.erased id) { ts with
        orders := some (book.erase (·.id == id)),
        items := some (lines.erase (·.orderId == .int id)) }
  | stocked {draft new : ProductDraft} {t : Table ProductRow} (hnew : draft.check = .ok new)
      (ht : ts.products = some t) :
      Does limit now ts (.change (.createProduct draft)) .catalog { ts with
        products := some (t.insert (ProductRow.ofNew
          ⟨0, new.name, new.price, new.stock, now, now⟩)) }
  | restocked {s : Scope} {id : Int} {draft new : ProductDraft} {created : Stamp}
      {t : Table ProductRow} (hnew : draft.check = .ok new) (ht : ts.products = some t) :
      Does limit now ts (.change (.updateProduct s id draft)) .catalog { ts with
        products := some (t.update id (ProductRow.update
          ⟨id, new.name, new.price, new.stock, created, now⟩)) }
  | unstocked {s : Scope} {id : Int} {t : Table ProductRow} (ht : ts.products = some t) :
      Does limit now ts (.change (.deleteProduct s id)) .catalog { ts with
        products := some (t.erase (·.id == id)) }
  | filed {r : Request} {cs : Option (Table Store.CategoryRow)} :
      Does limit now ts r .catalog { ts with categories := cs }

/-- the entry that a change leaves, if it is about an order -/
def Change.cached? : Change → Option (String × Except Failure String)
  | .placed o | .moved o => some (OrderCache.key o.id, OrderCache.encode o)
  | .erased id => some (OrderCache.key id, .ok OrderCache.tombstone)
  | .idle | .catalog => none

/-- the names that a change writes under -/
def Change.names (c : Change) : List String := (c.cached?.map Prod.fst).toList

/-- What is announced of a change: a new order, or a move with the status that it led from. -/
def Tells (ts : Tables) : Change → List Notice → Prop
  | .placed o, ns => ns = [.created o.created]
  | .moved o, ns => ∀ before, ts.Reads o.id before → ns = moveNotices o.id before o
  | .idle, ns | .erased _, ns | .catalog, ns => ns = []

/-- What one call did: a change of the tables, the entry that goes with it, and its announcement. -/
structure Deed (r : Request) (c : Change) (d d' : Desk) : Prop where
  does : ∃ db ts, d.store = .embedded db ∧ d'.store = .embedded { db with tables := ts } ∧
    Does d.policy.maxOrderValue d.clock.utc db.tables r c ts
  writes : Writes (c.names ++ r.names) { d with store := d'.store } d'
  cached : Answering d → ∀ name raw, c.cached? = some (name, .ok raw) →
    ∃ left, entry name d' = some ⟨raw, left⟩
  told : ∀ b db, Heard d b → d.store = .embedded db → ∃ ns, Tells db.tables c ns ∧
    d'.broker = some (b.noting d.policy.topology ns)

/-! ## transactions -/

section
variable {α : Type} {x : Action Desk α} {W : List String} {d : Desk} {db : Database}

theorem transaction_writes (hx : Works x) :
    Writes W { d with store := (transaction x d).2.store } (transaction x d).2 :=
  writes_of_beside (transaction_beside hx d)

/-- a transaction that does not go through leaves no trace -/
theorem transaction_idle (hx : Works x) (hs : d.store = .embedded db) (hr : db.saved = none)
    (h : ∀ a, (transaction x d).1 ≠ .ok a) : Writes W d (transaction x d).2 := by
  have hw : Writes W { d with store := (transaction x d).2.store } (transaction x d).2 :=
    transaction_writes hx
  rw [transaction_undone hx hs hr h] at hw
  exact hw

/-- a transaction that goes through commits the tables that its body led to -/
theorem transaction_commits {a : α} {d' : Desk} (hx : Works x) (hs : d.store = .embedded db)
    (hr : db.saved = none) (h : transaction x d = (.ok a, d')) : ∃ d₁ ts,
      x { d with store := .embedded (inside db db.tables) } = (.ok a, d₁) ∧
      d₁.store = .embedded (inside db ts) ∧ d'.store = .embedded { db with tables := ts } ∧
      Writes W { d with store := d'.store } d' := by
  obtain ⟨-, -, d₁, ts, hbody, hts, rfl⟩ := transaction_ok hx hs hr h
  have hw := transaction_writes (W := W) (d := d) hx
  rw [h] at hw
  exact ⟨d₁, ts, hbody, hts, rfl, hw⟩

end

/-! ## deeds -/

section
variable {W : List String} {d d₁ d₂ : Desk}

theorem Writes.usesKey (h : Writes W d d₁) (r : OrderRequest) : usesKey d₁ r = usesKey d r := by
  rw [Desk.usesKey, Desk.usesKey, isSome_of_terms h.terms]

/-- what was written beside two changes of the store, one after the other -/
theorem Writes.rest_trans (h₁ : Writes W { d with store := d₁.store } d₁)
    (h₂ : Writes W { d₁ with store := d₂.store } d₂) : Writes W { d with store := d₂.store } d₂ :=
  ⟨h₂.terms.trans h₁.terms, rfl, fun name hn => (h₂.entries name hn).trans (h₁.entries name hn)⟩

end

section
variable {r : Request} {c : Change} {d d₁ d' : Desk} {db : Database}

theorem Heard.of_hushed {b : Event.Broker} {t : Event.Topology} (h : Heard d b)
    (hb : d'.broker = d.broker) : d'.broker = some (b.noting t []) := by
  rw [hb, h.broker, Event.Broker.noting_nil]

/-- a call that writes under its own names at most, and announces nothing -/
theorem Deed.idle (hs : d.store = .embedded db) (h : Writes r.names d d')
    (hb : d'.broker = d.broker) : Deed r .idle d d' where
  does := ⟨db, db.tables, hs, h.store.trans hs, .idle⟩
  writes := h.rest
  cached _ _ _ hc := nomatch hc
  told _ _ hd _ := ⟨[], rfl, hd.of_hushed hb⟩

/-- what follows and writes nothing is no part of the deed -/
theorem Deed.after (h : Deed r c d d₁) (hrest : Writes [] d₁ d') (hb : d'.broker = d₁.broker) :
    Deed r c d d' where
  does := by
    obtain ⟨db, ts, hs, hs₁, hdoes⟩ := h.does
    exact ⟨db, ts, hs, hrest.store.trans hs₁, hdoes⟩
  writes := h.writes.rest_trans (hrest.mono (List.nil_subset _)).rest
  cached ha name raw hc := by
    obtain ⟨left, hleft⟩ := h.cached ha name raw hc
    exact ⟨left, (hrest.entries name List.not_mem_nil).trans hleft⟩
  told b db hd hs := by
    obtain ⟨ns, htells, hbroker⟩ := h.told b db hd hs
    exact ⟨ns, htells, hb.trans hbroker⟩

/-- the notes of spans are no part of the deed -/
theorem Deed.span {t t' : Telemetry.Tracer} (h : Deed r c { d with tracer := t } d₁) :
    Deed r c d { d₁ with tracer := t' } :=
  ⟨h.does, ⟨h.writes.terms, rfl, h.writes.entries⟩, h.cached,
    fun b db hd hs => h.told b db ⟨hd.broker, hd.accepts, hd.steady⟩ hs⟩

/-- a change of the tables that no order goes with -/
theorem Deed.catalog {ts : Tables} (hs : d.store = .embedded db)
    (hs' : d'.store = .embedded { db with tables := ts })
    (hdoes : Does d.policy.maxOrderValue d.clock.utc db.tables r .catalog ts)
    (h : Writes [] { d with store := d'.store } d') (hb : d'.broker = d.broker) :
    Deed r .catalog d d' where
  does := ⟨db, ts, hs, hs', hdoes⟩
  writes := h.mono (List.nil_subset _)
  cached _ _ _ hc := nomatch hc
  told _ _ hd _ := ⟨[], rfl, hd.of_hushed hb⟩

/-- what was written before is part of the deed, under the names of the call -/
theorem Deed.before (h : Writes r.names d d₁) (hb : d₁.broker = d.broker)
    (hrest : Deed r c d₁ d') : Deed r c d d' where
  does := by
    obtain ⟨db, ts, hs₁, hs', hdoes⟩ := hrest.does
    have hterms := h.terms
    simp only [terms, Prod.mk.injEq] at hterms
    rw [hterms.1, hterms.2.1] at hdoes
    exact ⟨db, ts, h.store.symm.trans hs₁, hs', hdoes⟩
  writes := (h.mono (List.subset_append_right _ _)).rest.rest_trans hrest.writes
  cached ha name raw hc := hrest.cached (ha.of_terms h.terms) name raw hc
  told b db hd hs := by
    obtain ⟨ns, htells, hbroker⟩ :=
      hrest.told b db (hd.carry h.terms hb) (h.store.trans hs)
    exact ⟨ns, htells, by rw [hbroker, h.policy]⟩

/-- a step that writes under the names of the call at most and announces nothing, and a deed after
it -/
theorem deed_of_bind {α β : Type} {x : Action Desk α} {rest : α → Action Desk β}
    (hs : d.store = .embedded db) (hw : Writes r.names d (x d).2)
    (hb : (x d).2.broker = d.broker)
    (hrest : ∀ a d₁, x d = (.ok a, d₁) → Writes r.names d d₁ → ∃ c, Deed r c d₁ (rest a d₁).2) :
    ∃ c, Deed r c d ((x >>= rest) d).2 := by
  rcases Action.bind_ends x rest d with ⟨a, d₁, hrun, hend⟩ | ⟨-, -, hend⟩
  · rw [hrun] at hw hb
    obtain ⟨c, hc⟩ := hrest a d₁ hrun hw
    rw [hend]
    exact ⟨c, hc.before hw hb⟩
  · rw [hend]
    exact ⟨.idle, .idle hs hw hb⟩

/-- **A transaction and what follows it** are a deed, if the body of the transaction makes a change
and what follows writes and announces what goes with it. -/
theorem transaction_deed {α β : Type} {x : Action Desk α} {rest : α → Action Desk β}
    (hx : Works x) (hs : d.store = .embedded db) (hr : db.saved = none)
    (hok : ∀ a d₁, x { d with store := .embedded (inside db db.tables) } = (.ok a, d₁) →
      ∃ c ts, d₁.store = .embedded (inside db ts) ∧
        Does d.policy.maxOrderValue d.clock.utc db.tables r c ts ∧
        Keeps (Writes (c.names ++ r.names)) (rest a) ∧
        (∀ name raw, c.cached? = some (name, .ok raw) → Leaves name raw (rest a)) ∧
        ∃ ns, Tells db.tables c ns ∧ Says ns (rest a)) :
    ∃ c, Deed r c d ((transaction x >>= rest) d).2 := by
  have hbroker : (transaction x d).2.broker = d.broker := transaction_hushed hx d
  rcases Action.bind_ends (transaction x) rest d with ⟨a, d₁, hrun, hend⟩ | ⟨hno, -, hend⟩
  · obtain ⟨d₂, ts, hbody, hts, hs₁, hcommit⟩ := transaction_commits (W := []) hx hs hr hrun
    obtain ⟨c, ts', hts', hdoes, hwrites, hleaves, ns, htells, hsaid⟩ := hok a d₂ hbody
    obtain rfl : ts = ts' := congrArg Database.tables (Backend.embedded.inj (hts.symm.trans hts'))
    have hafter : Writes (c.names ++ r.names) d₁ (rest a d₁).2 := hwrites d₁
    rw [hrun] at hbroker
    rw [hend]
    refine ⟨c, ⟨db, ts, hs, hafter.store.trans hs₁, hdoes⟩, ?_, fun ha name raw hc => ?_,
      fun b db₁ hd hs₂ => ?_⟩
    · exact (hcommit.mono (List.nil_subset _)).rest_trans hafter.rest
    · exact hleaves name raw hc d₁ (ha.of_terms hcommit.terms)
    · obtain rfl : db = db₁ := Backend.embedded.inj (hs.symm.trans hs₂)
      have hterms : terms d₁ = terms d := hcommit.terms
      obtain ⟨v, d₃, hrest, -, hnoted⟩ := hsaid d₁ b (hd.carry hterms hbroker)
      refine ⟨ns, htells, ?_⟩
      rw [hrest, ← policy_of_terms hterms]
      exact hnoted
  · rw [hend]
    exact ⟨.idle, .idle hs (transaction_idle hx hs hr hno) hbroker⟩

end

end OrderDesk.Desk
