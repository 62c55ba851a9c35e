import OrderDesk.Event.Message

/-!
# Payment outcomes

* `PaymentOutcome.target?`      the status an outcome asks for, none for an unknown outcome;
* `worthRetrying`               failures that are not simply dropped.
-/

namespace OrderDesk

/-- the status that an outcome asks for: any casing of success, failure or refund -/
def PaymentOutcome.target? (m : PaymentOutcome) : Option Status :=
  let s := Text.upper m.status
  if s = "SUCCESS" then some .confirmed
  else if s = "FAILED" ∨ s = "REFUNDED" then some .cancelled
  else none

/-- An unknown order and a refused move are final; any other failure is worth another try. -/
def worthRetrying (f : Failure) : Bool :=
  !(f.has (·.kind == .notFound) || f.has (·.kind == .invalidMove))

/-- what is left of a failed update -/
def settle : Except Failure Unit → Except Failure Unit
  | .ok _ => .ok ()
  | .error f => if worthRetrying f then .error f else .ok ()

end OrderDesk
