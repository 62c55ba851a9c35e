import OrderDesk.Desk.Messages
import OrderDesk.Http.Answer
import OrderDesk.Proofs.Action

/-!
# Failures keep their class

A failure is made from a cause: contexts are put around it, and where a change could not be undone
another failure stands beside it. Four places decide by the class of a failure, each in an order of
its own: the answer to a client, the label of a refused order, whether a payment message is tried
again, and whether a delivery is. They all decide by the cause that the failure was made from.

* `Cause.Unclassed`        a cause that none of the four places knows;
* `Failure.MadeFrom`       the failures that are made from a cause;
* `Kind.status`, `Kind.code`, `Kind.label`      what goes with each class;
* `MadeFrom.causes_eq`     the causes of such a failure, which the four places look through;
* `Treated`                what the four places make of a failure;
* `treated_as_cause`       a failure is treated as the cause that it was made from.
-/

namespace OrderDesk

open Http (Answer)

/-! ## how failures are made -/

/-- A cause that is of no class, and no reason to give a delivery up. -/
def Cause.Unclassed (c : Cause) : Prop := c.kind = .other ∧ c ≠ .poison

/-- The failures that are made from a cause: itself, a failure made from it under one more context,
and one beside a failure without classes, as a transaction has it that cannot be undone. -/
inductive Failure.MadeFrom (c : Cause) : Failure → Prop where
  | cause : MadeFrom c (.cause c)
  | within (context : String) {f : Failure} (h : MadeFrom c f) : MadeFrom c (.within context f)
  | both {f g : Failure} (h : MadeFrom c f) (hg : ∀ b ∈ g.causes, b.Unclassed) :
    MadeFrom c (.both f g)

/-! ## what goes with each class -/

/-- the status of an answer -/
def Kind.status : Kind → Nat
  | .validation => 400
  | .notFound => 404
  | .insufficientStock | .valueExceeded | .invalidMove | .conflict | .duplicate => 409
  | .other => 500

/-- the code by which an answer says what was wrong -/
def Kind.code : Kind → String
  | .validation => "validation_failed"
  | .notFound => "not_found"
  | .insufficientStock => "insufficient_stock"
  | .valueExceeded => "order_value_exceeded"
  | .invalidMove => "invalid_transition"
  | .conflict => "already_exists"
  | .duplicate => "duplicate_request"
  | .other => "internal_error"

/-- the label under which a refused order is counted -/
def Kind.label : Kind → String
  | .validation => "validation"
  | .notFound => "product_not_found"
  | .insufficientStock => "insufficient_stock"
  | .valueExceeded => "value_exceeded"
  | .duplicate => "duplicate"
  | .invalidMove | .conflict | .other => "error"

/-- Is a failure of the class final for a payment message. -/
def Kind.Final (k : Kind) : Prop := k = .notFound ∨ k = .invalidMove

instance (k : Kind) : Decidable k.Final := inferInstanceAs (Decidable (_ ∨ _))

/-- what an answer to a failure of no class says, whatever the failure was -/
def internalBody : Octets := Octets.ofText
  "\x7b\"error\":\"internal_error\",\"message\":\"internal server error\",\"status\":500\x7d"

/-- What is made of a failure from a cause: the answer to a client, the label of a refused order, and
whether a payment message or a delivery is tried again. -/
structure Treated (c : Cause) (f : Failure) : Prop where
  answered : ∀ s d, ∃ a d', Answer.ofFailure s f d = (.ok a, d') ∧ a.status = c.kind.status ∧
    a.code = c.kind.code ∧ (a.status = 500 → a.body = some internalBody)
  counted : Desk.rejectReason f = c.kind.label
  settled : settle (.error f) = if c.kind.Final then .ok () else .error f
  payment : ∀ s m target d d', PaymentOutcome.target? m = some target →
    Desk.changeStatus s m.orderId target d = (.failed f, d') →
    (Desk.handlePayment s m d).1 = if c.kind.Final then .ok () else .failed f
  delivery : ∀ requeue handle body, (Event.decodeCreated body).bind handle = .error f →
    (Event.dispatch requeue handle body).1 = .nacked (requeue && c != .poison)

/-! ## what the four places see -/

namespace Failure.MadeFrom

variable {c : Cause} {f : Failure}

/-- the cause comes first, and no other one has a class -/
theorem causes_eq (h : f.MadeFrom c) :
    ∃ rest, f.causes = c :: rest ∧ ∀ b ∈ rest, b.Unclassed := by
  induction h with
  | cause => exact ⟨[], rfl, fun _ hb => nomatch hb⟩
  | within context h ih => exact ih
  | @both f g h hg ih =>
    obtain ⟨rest, hcauses, hrest⟩ := ih
    refine ⟨rest ++ g.causes, ?_, fun b hb => ?_⟩
    · show f.causes ++ g.causes = _
      rw [hcauses, List.cons_append]
    · exact (List.mem_append.mp hb).elim (hrest b) (hg b)

/-- who looks for a class, or for poison, finds the cause or nothing -/
theorem find?_eq {p : Cause → Bool} (h : f.MadeFrom c) (hp : ∀ b, b.Unclassed → p b = false) :
    f.causes.find? p = if p c then some c else none := by
  obtain ⟨rest, hcauses, hrest⟩ := h.causes_eq
  have hnone : rest.find? p = none := by
    rw [List.find?_eq_none]
    intro b hb
    simp [hp b (hrest b hb)]
  rw [hcauses, List.find?_cons, hnone]
  cases p c <;> rfl

theorem has_eq {p : Cause → Bool} (h : f.MadeFrom c) (hp : ∀ b, b.Unclassed → p b = false) :
    f.has p = p c := by
  have hany : f.has p = (f.causes.find? p).isSome := by
    rw [Failure.has, Bool.eq_iff_iff, List.any_eq_true, List.find?_isSome]
  rw [hany, h.find?_eq hp]
  cases p c <;> rfl

theorem kind_unclassed {k : Kind} (hk : k ≠ .other) (b : Cause) (hb : b.Unclassed) :
    (b.kind == k) = false := by
  rw [hb.1, beq_eq_false_iff_ne]
  exact hk.symm

theorem has_kind (h : f.MadeFrom c) {k : Kind} (hk : k ≠ .other) :
    f.has (·.kind == k) = (c.kind == k) := h.has_eq (kind_unclassed hk)

/-- the cause decides what the client is told, if it is of a class -/
theorem deciding?_eq (h : f.MadeFrom c) :
    Answer.deciding? f = if c.kind = .other then none else some c := by
  have hfind : ∀ {k : Kind}, k ≠ .other →
      f.causes.find? (·.kind == k) = if c.kind == k then some c else none :=
    fun hk => h.find?_eq (kind_unclassed hk)
  unfold Answer.deciding? Answer.order
  simp only [List.findSome?_cons, List.findSome?_nil, ne_eq, reduceCtorEq, not_false_eq_true, hfind]
  cases c.kind <;> rfl

/-! ## what they decide -/

/-- the answer to a cause of a class does not depend on the wording of the failure, but for the
message that it repeats -/
theorem ofCause?_class (hk : c.kind ≠ .other) (message : String) : ∃ a,
    Answer.ofCause? message c = some a ∧ a.status = c.kind.status ∧ a.code = c.kind.code ∧
      a.status ≠ 500 := by
  cases c with
  | mismatch | poison | noRows | plain => exact absurd rfl hk
  | _ => exact ⟨_, rfl, rfl, rfl, nofun⟩

theorem internal_body (f : Failure) : (Answer.internal f).body = some internalBody := by
  show (Answer.refusal 500 "internal_error" "internal server error" []).body = _
  decide +kernel

theorem answered (h : f.MadeFrom c) (s : Scope) (d : Desk) : ∃ a d',
    Answer.ofFailure s f d = (.ok a, d') ∧ a.status = c.kind.status ∧ a.code = c.kind.code ∧
      (a.status = 500 → a.body = some internalBody) := by
  unfold Answer.ofFailure
  rw [h.deciding?_eq]
  by_cases hk : c.kind = .other
  · rw [if_pos hk, hk]
    exact ⟨Answer.internal f, _, rfl, rfl, rfl, fun _ => internal_body f⟩
  · obtain ⟨a, ha, hstatus, hcode, hne⟩ := ofCause?_class hk f.message
    rw [if_neg hk, Option.bind_some, ha]
    exact ⟨a, d, rfl, hstatus, hcode, fun h500 => absurd h500 hne⟩

theorem counted (h : f.MadeFrom c) : Desk.rejectReason f = c.kind.label := by
  unfold Desk.rejectReason
  simp only [h.has_kind, ne_eq, reduceCtorEq, not_false_eq_true]
  cases c.kind <;> rfl

theorem worthRetrying_eq (h : f.MadeFrom c) : worthRetrying f = !decide c.kind.Final := by
  unfold worthRetrying
  simp only [h.has_kind, ne_eq, reduceCtorEq, not_false_eq_true]
  cases c.kind <;> rfl

theorem settled (h : f.MadeFrom c) :
    settle (.error f) = if c.kind.Final then .ok () else .error f := by
  show (if worthRetrying f then (.error f : Except Failure Unit) else .ok ()) = _
  rw [h.worthRetrying_eq]
  by_cases hfinal : c.kind.Final <;> simp [hfinal]

theorem payment (h : f.MadeFrom c) {s : Scope} {m : PaymentOutcome} {target : Status}
    {d d' : Desk} (hm : m.target? = some target)
    (hmove : Desk.changeStatus s m.orderId target d = (.failed f, d')) :
    (Desk.handlePayment s m d).1 = if c.kind.Final then .ok () else .failed f := by
  unfold Desk.handlePayment
  rw [hm]
  dsimp only
  rw [Action.orElse_of_failed hmove, h.worthRetrying_eq]
  by_cases hfinal : c.kind.Final
  · simp only [hfinal, decide_true, Bool.not_true, Bool.false_eq_true, if_false, if_true]
    rfl
  · simp only [hfinal, decide_false, Bool.not_false, if_true, if_false]
    rfl

theorem isPoison_eq (h : f.MadeFrom c) : Event.isPoison f = (c == .poison) :=
  h.has_eq fun _ hb => beq_eq_false_iff_ne.mpr hb.2

/-- a delivery fails where it is read or where it is handled -/
theorem delivery (h : f.MadeFrom c) {requeue : Bool} {handle : Created → Except Failure Unit}
    {body : Octets} (hfail : (Event.decodeCreated body).bind handle = .error f) :
    (Event.dispatch requeue handle body).1 = .nacked (requeue && c != .poison) := by
  have hfate : (Event.dispatch requeue handle body).1 = .ofResult requeue (.error f) := by
    rw [← hfail, Event.dispatch]
    cases Event.decodeCreated body <;> rfl
  rw [hfate]
  show Event.Fate.nacked (requeue && !Event.isPoison f) = _
  rw [h.isPoison_eq]
  rfl

end Failure.MadeFrom

/-- **A failure is treated as the cause that it was made from**, however many contexts are around it
and whatever failures without a class stand beside it: by the answer to a client, which says nothing
of a failure without a class, by the label of a refused order, by the handler of payment messages,
and by the router of deliveries. -/
theorem treated_as_cause {c : Cause} {f : Failure} (h : f.MadeFrom c) : Treated c f where
  answered := h.answered
  counted := h.counted
  settled := h.settled
  payment _ _ _ _ _ hm hmove := h.payment hm hmove
  delivery _ _ _ hfail := h.delivery hfail

/-- an order that was not found while it was saved, in a transaction that could not be undone -/
def lostInRollback : Failure :=
  .within "move" (.both (.within "save order 7" (.cause (.notFound "order" 7)))
    (.within "rollback" (.plain "driver: bad connection")))

theorem lostInRollback_treated : lostInRollback.MadeFrom (.notFound "order" 7) ∧
    Treated (.notFound "order" 7) lostInRollback ∧ settle (.error lostInRollback) = .ok () := by
  have hplain : ∀ b ∈ (Failure.within "rollback" (.plain "driver: bad connection")).causes,
      b.Unclassed := by
    intro b hb
    obtain rfl : b = .plain "driver: bad connection" := List.mem_singleton.mp hb
    exact ⟨rfl, nofun⟩
  have hmade : lostInRollback.MadeFrom (.notFound "order" 7) :=
    .within "move" (.both (.within "save order 7" .cause) hplain)
  exact ⟨hmade, treated_as_cause hmade, (treated_as_cause hmade).settled⟩

end OrderDesk
