import OrderDesk.Desk.Messages
import OrderDesk.Proofs.Desk.Atomicity
import Mathlib.Data.List.MinMax

/-!
# Messages that are delivered again

A message whose handling failed is not marked, so that it is delivered again. Marks are cumulative,
though: the group goes on behind the highest offset that was marked, and a later message that was
marked takes the failed one with it.

* `resumeAt`                     where the group goes on after a claim;
* `handledAt`, `FailsAt`         the state in which a message is handled, and its handling fails;
* `consumeRecord_ends`           what comes of one message;
* `marked_iff`                   the messages of a claim that are marked;
* `failed_message_returns_iff`   a failed message is delivered again if no later one is marked.
-/

namespace OrderDesk.Desk

/-- Where the group goes on after a claim: one past the highest offset that was marked, or at the
first offset of the claim. -/
def resumeAt (first : Int) (marks : List Mark) : Int :=
  match (marks.map Mark.offset).max? with
  | some o => o + 1
  | none => first

/-- the state in which the `k`-th message of a claim is handled -/
def handledAt (handle : PaymentOutcome → Action Desk Unit) (rs : List Record) (d : Desk) (k : Nat) :
    Desk :=
  (consumeClaim handle (rs.take k) d).2

/-- The `k`-th message of a claim can be read, and its handling fails. -/
def FailsAt (handle : PaymentOutcome → Action Desk Unit) (rs : List Record) (d : Desk) (k : Nat) :
    Prop :=
  ∃ r m f d', rs[k]? = some r ∧ r.outcome? = some m ∧
    handle m (handledAt handle rs d k) = (.failed f, d')

theorem resumeAt_le_iff {first o : Int} {marks : List Mark} (hfirst : first ≤ o) :
    resumeAt first marks ≤ o ↔ ∀ m ∈ marks, m.offset < o := by
  unfold resumeAt
  cases hmax : (marks.map Mark.offset).max? with
  | none =>
    have hnil : marks = [] := by simpa using hmax
    simp [hnil, hfirst]
  | some top =>
    obtain ⟨hmem, htop⟩ := List.max?_eq_some_iff.mp hmax
    obtain ⟨m₀, hm₀, rfl⟩ := List.mem_map.mp hmem
    show m₀.offset + 1 ≤ o ↔ ∀ m ∈ marks, m.offset < o
    constructor
    · intro hle m hm
      have hbound := htop m.offset (List.mem_map_of_mem hm)
      omega
    · intro h
      have hlt := h m₀ hm₀
      omega

section
variable {handle : PaymentOutcome → Action Desk Unit} {r : Record} {rs : List Record} {d d' : Desk}

/-! ## one message -/

/-- a message ends in marks unless its handler panics: none if the handler fails, and its own
otherwise -/
theorem consumeRecord_ends (hcalm : ∀ m, Action.NoPanic (handle m)) (r : Record) (d : Desk) :
    ∃ marks d₁, consumeRecord handle r d = (.ok marks, d₁) ∧
      ((marks = [] ∧ ∃ m f d₂, r.outcome? = some m ∧ handle m d = (.failed f, d₂)) ∨
        (∃ note, marks = [⟨r.offset, note⟩]) ∧
          ∀ m f d₂, r.outcome? = some m → handle m d ≠ (.failed f, d₂)) := by
  unfold consumeRecord
  cases hread : r.outcome? with
  | none => exact ⟨_, _, rfl, .inr ⟨⟨_, rfl⟩, fun _ _ _ hm => by cases hm⟩⟩
  | some m =>
    rcases hrun : handle m d with ⟨out, d₂⟩
    cases out with
    | ok u =>
      refine ⟨[⟨r.offset, ""⟩], d₂, ?_, .inr ⟨⟨_, rfl⟩, ?_⟩⟩
      · exact Action.attempt_bind_of_ok hrun
      · rintro m' f d₃ hm hfail
        rw [← Option.some.inj hm, hrun] at hfail
        cases hfail
    | failed f =>
      refine ⟨[], _, Action.attempt_bind_of_failed hrun, .inl ?_⟩
      exact ⟨rfl, m, f, d₂, rfl, hrun⟩
    | panicked t => exact absurd (congrArg Prod.fst hrun) (hcalm m d t)

/-! ## a claim -/

theorem consumeClaim_cons : consumeClaim handle (r :: rs) = (consumeRecord handle r >>= fun marks =>
    consumeClaim handle rs >>= fun rest => pure (marks ++ rest)) := rfl

theorem handledAt_succ {marks : List Mark} (h : consumeRecord handle r d = (.ok marks, d'))
    (k : Nat) : handledAt handle (r :: rs) d (k + 1) = handledAt handle rs d' k := by
  unfold handledAt
  rw [List.take_succ_cons, consumeClaim_cons, Action.bind_of_ok h]
  exact Action.bind_pure_snd _ (marks ++ ·) d'

theorem failsAt_succ {marks : List Mark} (h : consumeRecord handle r d = (.ok marks, d'))
    (k : Nat) : FailsAt handle (r :: rs) d (k + 1) ↔ FailsAt handle rs d' k := by
  unfold FailsAt
  rw [handledAt_succ h, List.getElem?_cons_succ]

theorem failsAt_zero : FailsAt handle (r :: rs) d 0 ↔
    ∃ m f d₂, r.outcome? = some m ∧ handle m d = (.failed f, d₂) := by
  constructor
  · rintro ⟨r', m, f, d₂, hr, hm, hrun⟩
    obtain rfl : r = r' := Option.some.inj hr
    exact ⟨m, f, d₂, hm, hrun⟩
  · rintro ⟨m, f, d₂, hm, hrun⟩
    exact ⟨r, m, f, d₂, rfl, hm, hrun⟩

/-- **A claim** ends in marks, and what is marked are the messages whose handling does not fail. -/
theorem marked_iff (hcalm : ∀ m, Action.NoPanic (handle m)) (rs : List Record) (d : Desk) :
    ∃ marks d', consumeClaim handle rs d = (.ok marks, d') ∧
      ∀ o, o ∈ marks.map Mark.offset ↔
        ∃ k r, rs[k]? = some r ∧ r.offset = o ∧ ¬ FailsAt handle rs d k := by
  induction rs generalizing d with
  | nil => exact ⟨[], d, rfl, by simp⟩
  | cons r rs ih =>
    obtain ⟨marks, d₁, hfirst, hends⟩ := consumeRecord_ends hcalm r d
    obtain ⟨rest, d₂, hrest, hmarked⟩ := ih d₁
    have hrun : consumeClaim handle (r :: rs) d = (.ok (marks ++ rest), d₂) := by
      rw [consumeClaim_cons, Action.bind_of_ok hfirst, Action.bind_of_ok hrest]
      rfl
    have hhead : ∀ o, o ∈ marks.map Mark.offset ↔
        r.offset = o ∧ ¬ FailsAt handle (r :: rs) d 0 := by
      intro o
      rw [failsAt_zero]
      rcases hends with ⟨rfl, hfail⟩ | ⟨⟨note, rfl⟩, hdone⟩
      · simp only [List.map_nil, List.not_mem_nil, false_iff, not_and, not_not]
        exact fun _ => hfail
      · simp only [List.map_cons, List.map_nil, List.mem_singleton]
        constructor
        · rintro rfl
          exact ⟨rfl, fun ⟨m, f, d₂, hm, hrun⟩ => hdone m f d₂ hm hrun⟩
        · exact fun h => h.1.symm
    refine ⟨marks ++ rest, d₂, hrun, fun o => ?_⟩
    rw [List.map_append, List.mem_append, hhead, hmarked]
    constructor
    · rintro (⟨ho, hdone⟩ | ⟨k, r', hk, ho, hdone⟩)
      · exact ⟨0, r, rfl, ho, hdone⟩
      · exact ⟨k + 1, r', hk, ho, fun h => hdone ((failsAt_succ hfirst k).mp h)⟩
    · rintro ⟨k, r', hk, ho, hdone⟩
      cases k with
      | zero =>
        obtain rfl : r = r' := Option.some.inj hk
        exact .inl ⟨ho, hdone⟩
      | succ k =>
        exact .inr ⟨k, r', hk, ho, fun h => hdone ((failsAt_succ hfirst k).mpr h)⟩

end

/-! ## what comes back -/

section
variable {handle : PaymentOutcome → Action Desk Unit} {rs : List Record} {first : Int}

theorem offset_lt {j k : Nat} {r r' : Record} (hinc : (rs.map Record.offset).Pairwise (· < ·))
    (hj : rs[j]? = some r) (hk : rs[k]? = some r') (hlt : j < k) : r.offset < r'.offset := by
  obtain ⟨hj', rfl⟩ := List.getElem?_eq_some_iff.mp hj
  obtain ⟨hk', rfl⟩ := List.getElem?_eq_some_iff.mp hk
  have h := List.pairwise_iff_getElem.mp hinc j k (by simpa using hj') (by simpa using hk') hlt
  simpa using h

/-- **A failed message is delivered again** if and only if the handling of every later message of its
claim fails too. A later message that is done, or that cannot be read, is marked, and the group goes
on behind it: the failed one is lost. -/
theorem failed_message_returns_iff (hcalm : ∀ m, Action.NoPanic (handle m))
    (hinc : (rs.map Record.offset).Pairwise (· < ·)) (hfirst : ∀ r ∈ rs, first ≤ r.offset)
    (d : Desk) : ∃ marks d', consumeClaim handle rs d = (.ok marks, d') ∧
      ∀ k r, rs[k]? = some r → FailsAt handle rs d k →
        (resumeAt first marks ≤ r.offset ↔
          ∀ j, k < j → j < rs.length → FailsAt handle rs d j) := by
  obtain ⟨marks, d', hrun, hmarked⟩ := marked_iff hcalm rs d
  refine ⟨marks, d', hrun, fun k r hk hfail => ?_⟩
  have hle : first ≤ r.offset := hfirst r (List.mem_of_getElem? hk)
  rw [resumeAt_le_iff hle]
  constructor
  · intro hbelow j hkj hj
    by_contra hdone
    have hr' : rs[j]? = some rs[j] := List.getElem?_eq_getElem hj
    have hmem := (hmarked rs[j].offset).mpr ⟨j, rs[j], hr', rfl, hdone⟩
    obtain ⟨m, hm, ho⟩ := List.mem_map.mp hmem
    have hlow := hbelow m hm
    have hhigh := offset_lt hinc hk hr' hkj
    omega
  · intro hlater m hm
    obtain ⟨j, r', hj, ho, hdone⟩ := (hmarked m.offset).mp (List.mem_map_of_mem hm)
    have hlength : j < rs.length := (List.getElem?_eq_some_iff.mp hj).1
    have hjk : j < k := by
      rcases Nat.lt_trichotomy j k with hlt | rfl | hgt
      · exact hlt
      · exact absurd hfail hdone
      · exact absurd (hlater j hgt hlength) hdone
    have hlt := offset_lt hinc hj hk hjk
    omega

def thirdFails (m : PaymentOutcome) : Action Desk Unit :=
  if m.orderId = 3 then Action.fail (.plain "transient") else pure ()

def paidFirst (offset : Int) : Record :=
  ⟨offset, "1", Octets.ofText "\x7b\"orderId\":1,\"status\":\"SUCCESS\"\x7d"⟩

def garbled (offset : Int) : Record := ⟨offset, "x", Octets.ofText "garbage"⟩

def failedThird (offset : Int) : Record :=
  ⟨offset, "3", Octets.ofText "\x7b\"orderId\":3,\"status\":\"FAILED\"\x7d"⟩

/-- of one message that is done, one that cannot be read and one that fails, the last is delivered
again -/
theorem last_of_three_returns : ∃ marks d',
    consumeClaim thirdFails [paidFirst 10, garbled 11, failedThird 12] (shopWith {} {})
      = (.ok marks, d') ∧
    FailsAt thirdFails [paidFirst 10, garbled 11, failedThird 12] (shopWith {} {}) 2 ∧
    resumeAt 10 marks ≤ 12 := by
  have hcalm : ∀ m, Action.NoPanic (thirdFails m) := by
    intro m s t h
    unfold thirdFails at h
    split at h <;> cases h
  have hinc : ([paidFirst 10, garbled 11, failedThird 12].map Record.offset).Pairwise (· < ·) := by
    decide
  have hfirst : ∀ r ∈ [paidFirst 10, garbled 11, failedThird 12], 10 ≤ r.offset := by
    simp [paidFirst, garbled, failedThird]
  have hread : (failedThird 12).outcome? = some ⟨3, "FAILED"⟩ := by decide +kernel
  have hfails : FailsAt thirdFails [paidFirst 10, garbled 11, failedThird 12] (shopWith {} {}) 2 :=
    ⟨failedThird 12, ⟨3, "FAILED"⟩, .plain "transient", _, rfl, hread, rfl⟩
  obtain ⟨marks, d', hrun, hreturns⟩ :=
    failed_message_returns_iff hcalm hinc hfirst (shopWith {} {})
  refine ⟨marks, d', hrun, hfails, (hreturns 2 (failedThird 12) rfl hfails).mpr ?_⟩
  intro j hj hlength
  have hlength : j < 3 := hlength
  omega

/-- the small shop while no transaction can be begun -/
def brokenShop : Desk :=
  { shopWith {} {} with outages := [(.transaction, .fails (.plain "no database"))] }

/-- the payment of an order fails, the message after it cannot be read, and the group goes on behind
both -/
theorem failed_message_lost : ∃ marks d',
    consumeClaim (handlePayment scope) [paidFirst 1, garbled 2] brokenShop = (.ok marks, d') ∧
    FailsAt (handlePayment scope) [paidFirst 1, garbled 2] brokenShop 0 ∧
    (paidFirst 1).offset < resumeAt 1 marks := by
  have hmarks : (consumeClaim (handlePayment scope) [paidFirst 1, garbled 2]).value? brokenShop
      = some [⟨2, "decode-error"⟩] := by decide +kernel
  have hread : (paidFirst 1).outcome? = some ⟨1, "SUCCESS"⟩ := by decide +kernel
  have hfails : (handlePayment scope ⟨1, "SUCCESS"⟩ brokenShop).1
      = .failed (.plain "no database") := by rfl
  exact ⟨_, _, Action.ok_of_value? hmarks, ⟨paidFirst 1, ⟨1, "SUCCESS"⟩, _, _, rfl, hread,
    Prod.ext hfails rfl⟩, by decide⟩

end

end OrderDesk.Desk
