import OrderDesk.Desk.State
import OrderDesk.Http.Request

/-!
# Answers

* `Answer`              what a handler says: nothing written is different from nothing to write;
* `Answer.json`         an answer with a document;
* `Answer.refusal`      an answer that says what was wrong;
* `Answer.ofFailure`    the answer to a failure.
-/

namespace OrderDesk.Http

open Json (Value)

/-- What a handler says: a status, headers, what was written if anything was, the code under which
a failed request is counted, and the failures to be logged. -/
structure Answer where
  status : Nat := 200
  headers : List (String × String) := []
  body : Option Octets := none
  code : String := ""
  errors : List String := []
  deriving Inhabited

def jsonType : String := "application/json; charset=utf-8"

namespace Answer

def json (status : Nat) (v : Value) : Answer :=
  { status, headers := [("Content-Type", jsonType)], body := some (Octets.ofText v.text) }

/-- an answer with a document that may not be writable; then nothing is written -/
def written (status : Nat) : Except Unwritable Value → Answer
  | .ok v => json status v
  | .error u => { status, headers := [("Content-Type", jsonType)], errors := [u.message] }

def noContent : Answer := { status := 204 }

/-- the same with another header in front -/
def withHeader (a : Answer) (name value : String) : Answer :=
  { a with headers := (name, value) :: a.headers }

/-- an answer that says what was wrong, with more members of its document -/
def refusal (status : Nat) (code message : String) (more : List (String × Value)) : Answer :=
  { json status (.sorted ([("status", .int status), ("error", .str code),
      ("message", .str message)] ++ more)) with code }

def invalid (fields : List (String × Reason)) : Answer :=
  refusal 400 "validation_failed" "request is invalid"
    [("fields", .sorted (fields.map fun (k, r) => (k, .raw r.octets)))]

/-- the answer to a body that cannot be read -/
def malformed : Answer := invalid [("body", .malformed)]

/-- what a cause tells the client -/
def ofCause? (message : String) : Cause → Option Answer
  | .validation field reason => some (invalid [(field, reason)])
  | .notFound entity id =>
    some (refusal 404 "not_found" message [("entity", .str entity), ("id", .int id)])
  | .insufficientStock id name requested available =>
    some (refusal 409 "insufficient_stock" message
      [("productId", .int id), ("productName", .str name), ("requested", .int requested),
        ("available", .int available)])
  | .valueExceeded total limit =>
    some (refusal 409 "order_value_exceeded" message
      [("total", .str total.fixed), ("limit", .str limit.fixed)])
  | .invalidMove source target =>
    some (refusal 409 "invalid_transition" message
      [("from", .str source.name), ("to", .str target.name)])
  | .conflict _ field _ => some (refusal 409 "already_exists" message [("field", .str field)])
  | .duplicate =>
    some (refusal 409 "duplicate_request" "a request with this idempotency key is in progress" [])
  | _ => none

/-- the order in which the classes of causes are looked for -/
def order : List Kind :=
  [.validation, .notFound, .insufficientStock, .valueExceeded, .invalidMove, .conflict, .duplicate]

def deciding? (f : Failure) : Option Cause :=
  order.findSome? fun k => f.causes.find? (·.kind == k)

/-- the answer to a failure that is nobody's fault -/
def internal (f : Failure) : Answer :=
  { refusal 500 "internal_error" "internal server error" [] with errors := [f.message] }

/-- the answer to a failure; one that is nobody's fault is logged -/
def ofFailure (s : Scope) (f : Failure) : Action Desk Answer :=
  match (deciding? f).bind (ofCause? f.message) with
  | some a => pure a
  | none => do
    Desk.log s .error "request failed" [("error", .str f.message)]
    return internal f

/-- the answer to the value of an action, or to its failure -/
def of {α : Type} (s : Scope) (x : Action Desk α) (f : α → Answer) : Action Desk Answer :=
  fun d =>
    match x d with
    | (.ok a, d) => (.ok (f a), d)
    | (.failed e, d) => ofFailure s e d
    | (.panicked t, d) => (.panicked t, d)

end Answer

end OrderDesk.Http
