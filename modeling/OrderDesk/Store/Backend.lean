import OrderDesk.Action
import OrderDesk.Store.Remote

/-!
# The store and its transactions

* `Backend`            the embedded engine, or one at the far end of a connection;
* `send`               one statement and its reply;
* `readOne`, `allRows`, `changeOne`, `insertNew`      the four ways a reply is read;
* `within`             runs an action as one transaction; inside another one it takes part in it;
* `migrate`            brings the schema to its newest version.
-/

namespace OrderDesk.Store

/-- The store. -/
inductive Backend where
  | embedded (db : Database)
  | remote (engine : Remote)

namespace Backend

def dialect : Backend → Dialect
  | .embedded _ => .of .sqlite
  | .remote r => r.dialect

def isOpen : Backend → Bool
  | .embedded db => db.saved.isSome
  | .remote r => r.busy

end Backend

def send (s : Statement) : Action Backend Reply
  | .embedded db =>
    match db.answer s with
    | (.ok r, db) => (.ok r, .embedded db)
    | (.error f, db) => (.failed f, .embedded db)
  | .remote e =>
    match e.answer s with
    | (.ok r, e) => (.ok r, .remote e)
    | (.error f, e) => (.failed f, .remote e)

/-- the first row of a reply; rows after it and their end are not looked at -/
def firstRow {α : Type} (scan : Row → Except Failure α) (s : Statement) : Action Backend α := do
  let r ← send s
  match r.rows, r.rowsError with
  | row :: _, _ => Action.ofExcept (scan row)
  | [], some text => Action.fail (.plain text)
  | [], none => Action.raise .noRows

/-- the one row that is asked for; when there is none, `missing` is the cause -/
def readOne {α : Type} (c : String) (missing : Cause) (scan : Row → Except Failure α)
    (s : Statement) : Action Backend α :=
  (firstRow scan s).orElse fun f =>
    if f.has (· == .noRows) then Action.raise missing else Action.fail (.within c f)

def scanAll {α : Type} (scan : Row → Except Failure α) (r : Reply) : Except Failure (List α) := do
  let rows ← r.rows.mapM scan
  match r.rowsError with
  | some text => .error (.plain text)
  | none => .ok rows

/-- every row of the reply to a query -/
def allRows {α : Type} (c : String) (scan : Row → Except Failure α) (s : Statement) :
    Action Backend (List α) := do
  let r ← (send s).context c
  Action.ofExcept (scanAll scan r)

def touched (r : Reply) : Except Failure Int := r.affected.mapError .plain

/-- a change of one row, which has to be there -/
def changeOne (c : String) (missing : Cause) (s : Statement) : Action Backend Unit := do
  let r ← (send s).context c
  let n ← Action.ofExcept (touched r)
  if n = 0 then Action.raise missing

def insertNew (s : Statement) : Action Backend Int := do
  let b ← Action.state
  if s.isQuery b.dialect then firstRow scanInt s
  else return (← send s).id

def begin : Action Backend Unit
  | .embedded db =>
    match db.begin with
    | .ok db => (.ok (), .embedded db)
    | .error f => (.failed f, .embedded db)
  | .remote e =>
    match e.signal .begin with
    | (.ok _, e) => (.ok (), .remote { e with busy := true })
    | (.error f, e) => (.failed f, .remote e)

/-- keeps what the open transaction did -/
def commit : Action Backend Unit
  | .embedded db =>
    let (r, db) := db.commit
    Action.ofExcept r (.embedded db)
  | .remote e =>
    let (r, e) := e.signal .commit
    Action.ofExcept r (.remote { e with busy := false })

/-- undoes what the open transaction did -/
def rollback : Action Backend Unit
  | .embedded db =>
    let (r, db) := db.rollback
    Action.ofExcept r (.embedded db)
  | .remote e =>
    let (r, e) := e.signal .rollback
    Action.ofExcept r (.remote { e with busy := false })

/-- an action on the store, as an action on a state that has one -/
def onStore {σ α : Type} [Part σ Backend] (x : Action Backend α) : Action σ α := x.on

/-- is a transaction open in the store of a state -/
def inTransaction {σ : Type} [Part σ Backend] (s : σ) : Bool :=
  let b : Backend := Part.get s
  b.isOpen

/-- After an action inside a transaction that this call opened: a value commits, a failure or a
panic rolls back. A failed rollback stands beside the failure it followed. -/
def conclude {σ α : Type} [Part σ Backend] : Outcome α → Action σ α
  | .ok a => do
    Action.context "commit tx" (onStore commit)
    return a
  | .failed f => do
    match ← (onStore rollback).attempt with
    | .ok _ => Action.fail f
    | .error g => Action.fail (.both f (.within "rollback" g))
  | .panicked text => do
    let _ ← (onStore rollback).attempt
    Action.panicWith text

/-- runs an action as one transaction; inside another one it takes part in it -/
def within {σ α : Type} [Part σ Backend] (body : Action σ α) : Action σ α := fun s =>
  if inTransaction s then body s
  else
    match Action.context "begin tx" (onStore begin) s with
    | (.ok _, s) =>
      let (r, s) := body s
      conclude r s
    | (.failed f, s) => (.failed f, s)
    | (.panicked t, s) => (.panicked t, s)

def ping : Action Backend Unit
  | .embedded db =>
    if db.closed then (.failed Database.isClosed, .embedded db) else (.ok (), .embedded db)
  | .remote e =>
    let (r, e) := e.signal .ping
    Action.ofExcept r (.remote e)

def close : Backend → Backend
  | .embedded db => .embedded { db with closed := true }
  | .remote e => .remote e

/-- the newest version of the schema on record, zero when there is none -/
def schemaVersion : Action Backend Int :=
  (firstRow scanInt .readVersion).context "repo: read schema version"

/-- the statements of one version, from the `i`-th on -/
def addObjects (version : Int) : Nat → List SchemaObject → Action Backend Unit
  | _, [] => pure ()
  | i, o :: os => do
    let _ ← (send (.schema o)).context
      ("repo: migration " ++ toString version ++ " statement " ++ toString i)
    addObjects version (i + 1) os

/-- one version, as one transaction -/
def applyMigration (m : Migration) : Action Backend Unit :=
  within do
    addObjects m.version 0 m.adds
    let _ ← send (.recordVersion m.version)
    return ()

/-- applies every version newer than the one on record -/
def migrate : Action Backend Unit := do
  let _ ← (send .createVersions).context "repo: create schema_version"
  let present ← schemaVersion
  let b ← Action.state
  Action.each applyMigration
    ((migrations b.dialect.engine).filter fun m => decide (present < m.version))

/-- a new embedded store with the newest schema -/
def fresh : Backend := (migrate (.embedded {})).2

end OrderDesk.Store
