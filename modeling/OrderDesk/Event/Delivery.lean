import OrderDesk.Event.Message

/-!
# Deliveries from a queue

A delivery is handled once; what the handler says decides its fate.

* `Fate`               acknowledged, or refused with or without another try;
* `Fate.ofResult`      a poisoned message is never tried again, any other failure as configured;
* `decodeCreated`      a body as a creation message; one that cannot be read is poisoned.
-/

namespace OrderDesk.Event

/-- What becomes of a delivery. -/
inductive Fate where
  | acked
  | nacked (requeue : Bool)
  deriving DecidableEq, Repr

/-- a failure that no further try can mend -/
def isPoison (f : Failure) : Bool := f.has (· == .poison)

/-- the fate of a delivery whose handler said this -/
def Fate.ofResult (requeue : Bool) : Except Failure Unit → Fate
  | .ok _ => .acked
  | .error f => .nacked (requeue && !isPoison f)

def decodeCreated (body : Octets) : Except Failure Created :=
  match (Json.readWhole? (Octets.lossy body)).bind Created.ofDoc? with
  | some m => .ok m
  | none => .error (.cause .poison)

/-- one delivery through a handler of creation messages: its fate, and the message if the handler
was reached -/
def dispatch (requeue : Bool) (handle : Created → Except Failure Unit) (body : Octets) :
    Fate × Option Created :=
  match decodeCreated body with
  | .error f => (Fate.ofResult requeue (.error f), none)
  | .ok m => (Fate.ofResult requeue (handle m), some m)

end OrderDesk.Event
