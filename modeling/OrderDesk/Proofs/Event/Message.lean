import OrderDesk.Event.Broker
import OrderDesk.Event.Delivery
import OrderDesk.Proofs.Order.Wire
import OrderDesk.Proofs.Redis.OrderCache
import OrderDesk.Proofs.Text.Octets

/-!
# Creation messages on the wire and back

A creation message is written as a document, and a consumer that is delivered the document is handed
the message. With the orders of the cache this covers all that is written as a document and read
back.

* `Created.Sendable`                what can be written and read back;
* `Created.ofDoc?_value`            a written message is read back;
* `Event.decodeCreated_body`        so is the body of a publication;
* `Event.dispatch_body`             a delivered body reaches its handler as the message it was;
* `written_reads_back`              orders through the cache and messages through the queue.
-/

namespace OrderDesk

open Json (Value Doc)

/-- A creation message whose numbers fit 64 bits. -/
structure Created.Sendable (m : Created) : Prop where
  orderId : Word.InRange m.orderId
  products : ∀ i ∈ m.items.getD [], Word.InRange i.productId
  quantities : ∀ i ∈ m.items.getD [], Word.InRange i.quantity

/-! ## documents -/

theorem CreatedItem.ofDoc?_value (start : CreatedItem) {i : CreatedItem}
    (hp : Word.InRange i.productId) (hq : Word.InRange i.quantity) :
    CreatedItem.ofDoc? start i.value.doc = some i := by
  simp [CreatedItem.ofDoc?, CreatedItem.value, Value.doc, Json.docMembers, Json.object?,
    Json.named_spelled, foldKey_names, Json.int?_repr _ hp, Json.int?_repr _ hq]

theorem CreatedItem.fits (room : Nat) (i : CreatedItem) : i.value.fits (room + 1) = true := by
  simp [CreatedItem.value, Value.fits, Json.fitsMembers]

section
variable {m : Created}

theorem Created.value_eq (m : Created) : m.value = .obj ([("orderId", .int m.orderId)] ++
    optionalText "orderNumber" m.number ++
      [("total", .str m.total), ("items", Json.listed CreatedItem.value m.items)]) := by
  unfold Created.value
  cases m.items <;> rfl

theorem Created.fits (m : Created) : m.value.fits Json.maxDepth = true := by
  have hitems : (Json.listed CreatedItem.value m.items).fits 9999 = true :=
    Json.fits_listed (CreatedItem.fits 9997) m.items
  rw [Created.value_eq, optionalText]
  split <;> simp [Value.fits, Json.fitsMembers, Json.maxDepth, hitems]

/-- **A written creation message is read back.** -/
theorem Created.ofDoc?_value (h : m.Sendable) : Created.ofDoc? m.value.doc = some m := by
  have hid : Text.foldKey "orderId" = "ORDERID" := by decide +kernel
  obtain ⟨⟨items, spare⟩, hread, hsame, hsome⟩ := Json.read?_listed (R := Eq) m.items
    fun i hi => ⟨i, CreatedItem.ofDoc?_value ⟨0, 0⟩ (h.products i hi) (h.quantities i hi), rfl⟩
  rw [List.forall₂_eq_eq_eq] at hsame
  have hitems : items = m.items := by
    cases hm : m.items with
    | none => simpa [hm] using hsome
    | some is =>
      obtain ⟨is', rfl⟩ : ∃ is', items = some is' :=
        Option.isSome_iff_exists.mp (by simpa [hm] using hsome)
      simpa [hm] using hsame
  rw [Created.value_eq]
  show _ = some (⟨m.orderId, m.number, m.total, m.items⟩ : Created)
  -- an empty number is not written, and stays empty
  by_cases hnumber : m.number = "" <;>
    simp [Created.ofDoc?, Created.readMember?, optionalText, Value.doc, Json.docMembers,
      Json.object?, Json.named_spelled, foldKey_names, hid, Json.int?_repr _ h.orderId,
      Json.text?_spelled, hread, hitems, hnumber]

end

/-! ## deliveries -/

namespace Event

variable {m : Created}

theorem decodeCreated_body (h : m.Sendable) : decodeCreated (Octets.ofText m.value.text) = .ok m := by
  unfold decodeCreated
  rw [Octets.lossy_ofText, Json.readWhole?_text m.fits, Option.bind_some, Created.ofDoc?_value h]

/-- **A delivered body reaches its handler as the message it was**, and the handler alone decides
its fate. -/
theorem dispatch_body (h : m.Sendable) (requeue : Bool) (handle : Created → Except Failure Unit) :
    dispatch requeue handle (Octets.ofText m.value.text)
      = (Fate.ofResult requeue (handle m), some m) := by
  unfold dispatch
  rw [decodeCreated_body h]

theorem publishCreated_published (t : Topology) (m : Created) (b : Broker) :
    (publishCreated t m b).2.published = if b.manner = .unreachable then b.published
      else b.published ++ [⟨t.exchange, t.createdKey, m.value.text⟩] := by
  unfold publishCreated publish
  cases b.manner <;> rfl

end Event

/-! ## what is written is read back -/

/-- **What is written is read back.** An order that is put into the cache is found there, equal in
every field but for the spelling of its amounts, with absent lines still absent, and it would be
written as the same text again. What is published of a creation message hands every consumer the
message that was published. -/
theorem written_reads_back :
    (∀ (o : Order) (nanos : Int) (r : Redis), o.Cacheable → r.refusal = none → ∃ o' r',
      OrderCache.set nanos o r = (.ok (), r') ∧ OrderCache.get o.id r' = (.ok (some o'), r') ∧
        o'.Alike o ∧ o'.lines.isSome = o.lines.isSome ∧
          OrderCache.encode o' = OrderCache.encode o) ∧
    (∀ (m : Created) (t : Event.Topology), m.Sendable → ∃ body,
      (∀ b : Event.Broker, (Event.publishCreated t m b).2.published =
        if b.manner = .unreachable then b.published
        else b.published ++ [⟨t.exchange, t.createdKey, body⟩]) ∧
      ∀ requeue handle, Event.dispatch requeue handle (Octets.ofText body)
        = (Event.Fate.ofResult requeue (handle m), some m)) := by
  refine ⟨fun o nanos r ho hr => ?_, fun m t hm => ?_⟩
  · obtain ⟨raw, o', hraw, hread, halike, hsome, hagain⟩ := OrderCache.encode_reads ho
    obtain ⟨r', hset, hget⟩ := OrderCache.set_get nanos hr hraw hread
    exact ⟨o', r', hset, hget, halike, hsome, hagain.trans hraw.symm⟩
  · exact ⟨m.value.text, Event.publishCreated_published t m, Event.dispatch_body hm⟩

/-- an order of one article whose name has to be escaped, without a number -/
def toolOrder : Order :=
  { id := 1, number := "", status := .pending, total := ⟨2500, -2⟩
    lines := some [⟨7, "3/4\" <bit> & nut\n", 2, ⟨1250, -2⟩⟩]
    createdAt := ⟨0, 120000000, 0⟩, updatedAt := ⟨0, 120000000, 0⟩ }

theorem toolOrder_reads_back :
    (toolOrder.Cacheable ∧ ∃ o' r', OrderCache.set 0 toolOrder {} = (.ok (), r') ∧
      OrderCache.get 1 r' = (.ok (some o'), r') ∧ o'.Alike toolOrder ∧
        o'.lines.isSome = true ∧ OrderCache.encode o' = OrderCache.encode toolOrder) ∧
    toolOrder.created.Sendable ∧ ∃ body, (Event.publishCreated {} toolOrder.created {}).2.published
        = [⟨"order.events", "order.created", body⟩] ∧
      Event.dispatch false (fun _ => .ok ()) (Octets.ofText body)
        = (.acked, some toolOrder.created) := by
  have hcacheable : toolOrder.Cacheable :=
    ⟨by decide, by decide, fun l hl => by
      rw [List.mem_singleton.mp hl]
      exact ⟨by decide, by decide, by decide⟩,
      ⟨by decide, rfl, by decide⟩, ⟨by decide, rfl, by decide⟩⟩
  have hsendable : toolOrder.created.Sendable :=
    ⟨by decide, fun i hi => by rw [List.mem_singleton.mp hi]; decide,
      fun i hi => by rw [List.mem_singleton.mp hi]; decide⟩
  obtain ⟨body, hpublished, hdispatch⟩ :=
    written_reads_back.2 toolOrder.created {} hsendable
  exact ⟨⟨hcacheable, written_reads_back.1 toolOrder 0 {} hcacheable rfl⟩, hsendable, body,
    hpublished {}, hdispatch false fun _ => .ok ()⟩

end OrderDesk
