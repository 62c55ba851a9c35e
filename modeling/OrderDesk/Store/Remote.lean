import OrderDesk.Store.Database

/-!
# An engine at the far end of a connection

It is known by the answers it gives and by what was sent to it.

* `Signal`, `Sent`    what is sent;
* `Remote`            the answers to come, what was sent so far, and what the engine refuses;
* `Remote.answer`     sends a statement and takes the next answer.
-/

namespace OrderDesk.Store

/-- What is sent to an engine and is no statement. -/
inductive Signal where
  | begin
  | commit
  | rollback
  | ping
  deriving DecidableEq, Repr

def Signal.name : Signal → String
  | .begin => "begin"
  | .commit => "commit"
  | .rollback => "rollback"
  | .ping => "ping"

def Signal.ofName? (s : String) : Option Signal :=
  [Signal.begin, .commit, .rollback, .ping].find? (·.name = s)

/-- What is sent to an engine. -/
inductive Sent where
  | signal (x : Signal)
  | statement (s : Statement)
  deriving DecidableEq, Repr

/-- An engine at the far end of a connection: the answers to come, each a reply or a refusal, what
was sent so far, the signals it refuses, and whether a transaction is open. -/
structure Remote where
  dialect : Dialect
  answers : List (Except String Reply) := []
  sent : List Sent := []
  refusals : List (Signal × String) := []
  busy : Bool := false

namespace Remote

/-- the reply of an engine without more answers: a change touches one row, a query finds none -/
def usual (d : Dialect) (s : Statement) : Reply :=
  if s.isQuery d then {} else { affected := .ok 1, id := 1 }

/-- sends a statement and takes the next answer -/
def answer (r : Remote) (s : Statement) : Except Failure Reply × Remote :=
  let r := { r with sent := r.sent ++ [Sent.statement s] }
  match r.answers with
  | [] => (.ok (usual r.dialect s), r)
  | a :: rest =>
    (match a with
      | .ok reply => .ok reply
      | .error text => .error (.plain text),
     { r with answers := rest })

def signal (r : Remote) (x : Signal) : Except Failure Unit × Remote :=
  (match r.refusals.lookup x with
    | some text => .error (.plain text)
    | none => .ok (),
   { r with sent := r.sent ++ [Sent.signal x] })

end Remote

end OrderDesk.Store
