import OrderDesk.Text.Blank
import OrderDesk.Text.Case

/-!
# Order statuses

A status is kept as the text the store holds. Five texts are declared; only three of them take
part in moves.

* `Status.next`         the statuses an order may move to, per current status;
* `Status.canMoveTo`    one move is allowed;
* `Status.ofText?`      any casing of a declared status, blanks around it aside.
-/

namespace OrderDesk

/-- The status of an order, by its name. -/
structure Status where
  name : String
  deriving DecidableEq, Repr, Inhabited

namespace Status

/-- accepted, not yet paid -/
def pending : Status := ⟨"PENDING"⟩

/-- paid -/
def confirmed : Status := ⟨"CONFIRMED"⟩

/-- given up; nothing leaves this status -/
def cancelled : Status := ⟨"CANCELLED"⟩

/-- declared for fulfilment, reached by no move -/
def shipped : Status := ⟨"SHIPPED"⟩

/-- declared for fulfilment, reached by no move -/
def delivered : Status := ⟨"DELIVERED"⟩

def declared : List Status := [pending, confirmed, cancelled, shipped, delivered]

/-- the statuses an order may move to; a status not named here accepts no move -/
def next (s : Status) : List Status :=
  if s = pending then [confirmed, cancelled]
  else if s = confirmed then [confirmed, cancelled]
  else if s = cancelled then [cancelled]
  else []

def canMoveTo (s t : Status) : Bool := s.next.contains t

/-- any casing of a declared status, blanks around it aside -/
def ofText? (s : String) : Option Status :=
  let st : Status := ⟨Text.upper (Text.trim s)⟩
  if declared.contains st then some st else none

end Status

end OrderDesk
