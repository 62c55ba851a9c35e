import OrderDesk.Failure

/-!
# The health of the service

* `Health.start`       begins to serve; certificate files that are named have to be there;
* `Health.check`       the health after a ping of the database;
* `Health.answer`      what is said about a service: only the whole is known.
-/

namespace OrderDesk

/-- Is the service able to serve. -/
inductive Health where
  | serving
  | notServing
  deriving DecidableEq, Repr

namespace Health

def initial : Health := .notServing

def noFile (name : String) : Failure :=
  .plain ("open " ++ name ++ ": no such file or directory")

/-- begins to serve: with both a certificate and a key named, the files have to be there -/
def start (cert key : String) (isThere : String → Bool) : Except Failure Health :=
  if cert = "" ∨ key = "" then .ok initial
  else if isThere cert = false then .error (noFile cert)
  else if isThere key = false then .error (noFile key)
  else .ok initial

/-- the health after a ping of the database -/
def check : Except Failure Unit → Health
  | .ok _ => .serving
  | .error _ => .notServing

/-- what is said about a service: only the whole, which has no name, is known -/
def answer (h : Health) (service : String) : Option Health :=
  if service = "" then some h else none

end Health

end OrderDesk
