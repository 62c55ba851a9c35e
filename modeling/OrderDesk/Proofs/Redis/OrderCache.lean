import OrderDesk.Proofs.Order.Wire
import OrderDesk.Proofs.Redis.Idempotency
import OrderDesk.Redis.OrderCache

/-!
# Cached orders

* `key_inj`                  every order has a name of its own;
* `key_ne_lock`, `key_ne_result`      no order is cached under a name of a client's key;
* `encode_reads`             a cached order is read back, and would be cached as the same text;
* `decode?_encode`           clients see no difference;
* `decode?_tombstone`        the mark of a deletion is no order;
* `get_apply`, `fill_ends`   what looking into the cache and filling it end in;
* `set_get`                  an order that was put is found.
-/

namespace OrderDesk.OrderCache

open Idempotency (Slot)

variable {id j : Int}

theorem key_inj : key id = key j ↔ id = j := by
  unfold key
  rw [String.append_right_inj, Word.toString_inj]

theorem key_ne_idemp (id : Int) (s : String) : key id ≠ "idemp:" ++ s := by
  intro h
  have hhead := congrArg (fun t => t.toList.head?) h
  simp [key] at hhead

theorem key_ne_lock (p : Slot) : key id ≠ p.lock := by
  unfold Slot.lock Idempotency.lockKey
  rw [String.append_assoc, String.append_assoc]
  exact key_ne_idemp id _

theorem key_ne_result (p : Slot) : key id ≠ p.result := by
  have hresult : p.result = "idemp:" ++ ("map:" ++ p.joined) := by
    unfold Slot.result Idempotency.resultKey Slot.joined
    simp only [← String.append_assoc]
    rfl
  rw [hresult]
  exact key_ne_idemp id _

/-- **A cached order is read back**, equal but for the spelling of its amounts, and it would be
cached as the same text again. -/
theorem encode_reads {o : Order} (h : o.Cacheable) : ∃ raw o', encode o = .ok raw ∧
    decode? raw = some o' ∧ o'.Alike o ∧ o'.lines.isSome = o.lines.isSome ∧ encode o' = .ok raw := by
  obtain ⟨o', hread, halike, hsome⟩ := Order.ofDoc?_value h
  have hencode : encode o = .ok o.value.text := by
    unfold encode
    rw [Order.written_value h]
  refine ⟨o.value.text, o', hencode, ?_, halike, hsome, ?_⟩
  · unfold decode?
    rw [Json.readWhole?_text o.fits]
    exact hread
  · unfold encode at hencode ⊢
    rw [Order.written_congr halike hsome]
    exact hencode

/-- Clients see no difference between an order and what is read of it from the cache. -/
theorem decode?_encode {o : Order} (h : o.Cacheable) :
    ∃ raw o', encode o = .ok raw ∧ decode? raw = some o' ∧ o'.summary = o.summary := by
  obtain ⟨raw, o', hraw, hread, halike, -⟩ := encode_reads h
  exact ⟨raw, o', hraw, hread, halike.summary_eq⟩

theorem decode?_tombstone : decode? tombstone = none := by
  rfl

/-- **Looking into the cache**: a copy that can be read is found, and nothing is dropped. -/
theorem get_apply {r : Redis} {v : Option String} (hrefusal : r.refusal = none)
    (hv : (r.keys.get? (key id)).map Redis.Entry.value = v)
    (hread : ∀ raw, v = some raw → raw = tombstone ∨ (decode? raw).isSome) :
    get id r = (.ok (v.bind decode?), r) := by
  have hfetch : Redis.fetch (key id) r = (.ok v, r) := Redis.fetch_ok_iff.mpr ⟨hrefusal, hv.symm, rfl⟩
  unfold get
  rw [Action.bind_of_ok hfetch]
  cases v with
  | none => rfl
  | some raw =>
    rw [Option.bind_some]
    by_cases hmark : raw = tombstone
    · rw [hmark, decode?_tombstone]
      exact congrFun (if_pos rfl) r
    · obtain ⟨o, ho⟩ := Option.isSome_iff_exists.mp ((hread raw rfl).resolve_left hmark)
      simp only [if_neg hmark, ho]
      rfl

/-- **Filling the cache**: what is there stays; where nothing is, the order is put, unless the time
it is to be kept is refused. -/
theorem fill_ends {r : Redis} {o : Order} {raw : String} (nanos : Int) (hrefusal : r.refusal = none)
    (hraw : encode o = .ok raw) : (∃ f, fill nanos o r = (.failed f, r)) ∨
      ∃ r', fill nanos o r = (.ok (), r') ∧ (r'.keys.get? (key o.id) = r.keys.get? (key o.id) ∨
        r.keys.get? (key o.id) = none ∧
          (r'.keys.get? (key o.id)).map Redis.Entry.value = some raw) := by
  have hfill : fill nanos o = (Redis.putNew (key o.id) raw nanos >>= fun _ => pure ()) := by
    unfold fill
    rw [hraw]
    rfl
  rw [hfill]
  unfold Redis.putNew
  split
  · exact .inl ⟨_, rfl⟩
  · refine .inr ⟨_, Action.bind_of_ok (Redis.command_of_none hrefusal), ?_⟩
    cases hget : r.keys.get? (key o.id) with
    | some e => exact .inl hget
    | none =>
      refine .inr ⟨rfl, ?_⟩
      rw [Redis.Keyspace.get?_insert, if_pos rfl]
      rfl

/-- **An order that was put is found.** -/
theorem set_get {r : Redis} {o o' : Order} {raw : String} (nanos : Int) (hrefusal : r.refusal = none)
    (hraw : encode o = .ok raw) (hread : decode? raw = some o') :
    ∃ r', set nanos o r = (.ok (), r') ∧ get o.id r' = (.ok (some o'), r') := by
  have hset : set nanos o = Redis.put (key o.id) raw nanos := by
    unfold set
    rw [hraw]
    rfl
  generalize hks : r.keys.insert (key o.id) ⟨raw, Redis.timeFor r.keys (key o.id) nanos⟩ = ks
  have hfound : (ks.get? (key o.id)).map Redis.Entry.value = some raw := by
    rw [← hks, Redis.Keyspace.get?_insert, if_pos rfl]
    rfl
  refine ⟨⟨ks, r.refusal⟩, ?_, ?_⟩
  · rw [hset, ← hks]
    exact Redis.put_of_none hrefusal
  · have hget := get_apply (r := ⟨ks, r.refusal⟩) hrefusal hfound fun raw' h =>
      .inr (by rw [← Option.some.inj h, hread]; rfl)
    rw [Option.bind_some, hread] at hget
    exact hget

end OrderDesk.OrderCache
