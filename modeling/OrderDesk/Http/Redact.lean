import OrderDesk.Json.Value
import OrderDesk.Text.Case

/-!
# Redaction of logged bodies

* `isSensitive`      the member names whose values are never shown;
* `scrub`            a value with every sensitive member replaced, at every depth;
* `redact`           a body as it is logged; a body that is no document stays as it is;
* `cap`              the first octets of a body.
-/

namespace OrderDesk.Http

open Json (Value)

/-- what stands in the place of a sensitive value -/
def mask : Value := .str "***redacted***"

/-- the member names, in lower case, whose values are never shown -/
def sensitiveNames : List String :=
  ["password", "authorization", "token", "secret", "client_secret", "access_token"]

/-- is this the name of a member whose value is never shown -/
def isSensitive (name : String) : Bool := sensitiveNames.contains (Text.lower name)

mutual

/-- a value with every sensitive member replaced -/
def scrub : Value → Value
  | .arr vs => .arr (scrubItems vs)
  | .obj ms => .obj (scrubMembers ms)
  | v => v

def scrubItems : List Value → List Value
  | [] => []
  | v :: vs => scrub v :: scrubItems vs

def scrubMembers : List (String × Value) → List (String × Value)
  | [] => []
  | (k, v) :: ms => (k, if isSensitive k then mask else scrub v) :: scrubMembers ms

end

def redact (body : Octets) : Octets :=
  match (Json.readWhole? (Octets.lossy body)).bind Json.Doc.value? with
  | some v => Octets.ofText (scrub v).text
  | none => body

/-- the first `n` octets of a body, and whether there were more -/
def cap (n : Nat) (body : Octets) : Octets × Bool :=
  if n < body.length then (body.take n, true) else (body, false)

end OrderDesk.Http
