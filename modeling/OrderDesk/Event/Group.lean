import OrderDesk.Failure
import OrderDesk.Number.Word

/-!
# Consumer groups

* `isVersion`      is a text the version of a broker;
* `joinGroup`      joins a group, if the version is one and a broker answers.
-/

namespace OrderDesk.Event

/-- is a text a number in decimal digits that fits 64 bits -/
def isNumber (s : String) : Bool := (Word.ofDigits? s.toList).any (· < Nat.pow 2 64)

/-- Is a text the version of a broker: three numbers, or four of which the first is zero. -/
def isVersion (s : String) : Bool :=
  5 ≤ s.length && match s.splitOn "." with
    | [a, b, c] => !a.startsWith "0" && [a, b, c].all isNumber
    | [a, b, c, d] => a == "0" && [b, c, d].all isNumber
    | _ => false

/-- joins a group; the empty version is the usual one -/
def joinGroup (brokers : List String) (version : String) (answers : String → Bool) :
    Except Failure Unit :=
  if version ≠ "" ∧ isVersion version = false then
    .error (.within "kafka version" (.plain ("invalid version `" ++ version ++ "`")))
  else if brokers.any answers then .ok ()
  else .error (.plain "kafka: client has run out of available brokers to talk to")

end OrderDesk.Event
