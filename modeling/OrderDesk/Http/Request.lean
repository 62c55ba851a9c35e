import OrderDesk.Http.Multipart

/-!
# Requests

* `Request`             what arrived;
* `Request.ofTarget?`   a request whose address is split and whose path is unescaped;
* `Request.header`      a header by name, in any casing;
* `Request.queryValue`  the first value of a name in the query;
* `Request.formPairs`   the pairs of a form.
-/

namespace OrderDesk.Http

/-- A request: its path is unescaped, its query is as it was sent. -/
structure Request where
  method : String
  path : Octets
  query : Option Octets
  headers : List (String × String)
  body : Octets
  deriving Inhabited

namespace Request

/-- a request whose address is split at the first question mark; without a method it asks for a
look -/
def ofTarget? (method target : String) (headers : List (String × String)) (body : Octets) :
    Option Request := do
  let bs := Octets.ofText target
  let path ← unescape? false (bs.takeWhile (· != 0x3F))
  let query := if bs.contains 0x3F then some ((bs.dropWhile (· != 0x3F)).drop 1) else none
  some { method := if method = "" then "GET" else method, path, query, headers, body }

/-- a header by name, in any casing; empty when it is not there -/
def header (r : Request) (name : String) : String :=
  match r.headers.find? fun (k, _) => Text.asciiLower k == Text.asciiLower name with
  | some (_, v) => v
  | none => ""

def queryPairs (r : Request) : List (Octets × Octets) := parseForm (r.query.getD [])

def queryValue (r : Request) (name : String) : Octets := first r.queryPairs name

def formLimit : Nat := 10 * Nat.pow 2 20

/-- The pairs of a form, if the content is one: escaped pairs in one line, or a form in parts, which
needs a boundary. -/
def formPairs (r : Request) : List (Octets × Octets) :=
  match MediaType.parse? (r.header "Content-Type") with
  | none => []
  | some m =>
    if m.name = "application/x-www-form-urlencoded" then
      if formLimit < r.body.length then [] else parseForm r.body
    else if m.name = "multipart/form-data" then
      ((m.parameter? "boundary").bind (formParts? · r.body)).getD []
    else []

end Request

end OrderDesk.Http
