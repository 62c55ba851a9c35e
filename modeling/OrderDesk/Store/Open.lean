import OrderDesk.Store.Backend
import OrderDesk.Store.EmbeddedAddress
import OrderDesk.Store.ServerAddress
import OrderDesk.Text.Path

/-!
# Opening a store

An address is read as its engine reads it. A server has to answer; the embedded engine keeps its
tables in memory or in a file.

* `isFolder`          the folders that are there;
* `canOpen`           can the file of an address be opened;
* `openEmbedded`      a store of the embedded engine;
* `openStore`         a store that answered and has the newest schema.
-/

namespace OrderDesk.Store

/-- The folders that are there: the present one, those above it, and the usual ones for files that
do not last. -/
def isFolder (path : String) : Bool :=
  ["", ".", "/", "/tmp", "/var/tmp", "/dev/shm"].contains path ||
    (path.splitOn "/").all (· == "..")

/-- Can a file be made: in a folder that is there, and not in the place of one. -/
def canMake (file : String) : Bool :=
  let path := Path.tidy (Octets.ofText file)
  let above := (Path.folder path).dropLast
  let above := if above.isEmpty ∧ path.head? = some 0x2F then [0x2F] else above
  isFolder (Octets.lossyText above) && !isFolder (Octets.lossyText path)

/-- Can the file of an address be opened. No file is there before, so one that may not be made
cannot; a place whose rights it is to have must be there. -/
def canOpen (a : EmbeddedAddress) : Bool :=
  a.isPrivate || (a.access = .make && canMake a.file &&
    (EmbeddedAddress.valuesOf a.options "modeof").head?.all fun model => model != "" && isFolder model)

/-- the embedded engine does not open -/
def unopened (why : String) : Failure := .within "repo: ping sqlite" (.plain why)

def openEmbedded (address : String) : Except Failure Backend :=
  match EmbeddedAddress.parse? address with
  | none => .error (unopened "invalid address")
  | some a =>
    if !canOpen a then .error (unopened "unable to open database file (14)")
    else match a.wished? with
      | none => .error (unopened "SQL logic error (1)")
      | some forbidden =>
        if forbidden || a.access = .read || a.isFixed then
          .error (.within "repo: create schema_version"
            (.plain "attempt to write a readonly database (8)"))
        else .ok fresh

/-- A store that answered and has the newest schema; `answers` says whether a server does. -/
def openStore (driver address : String) (answers : Engine → Option Backend) :
    Except Failure Backend := do
  let d ← Dialect.lookup driver
  match d.engine with
  | .sqlite => openEmbedded address
  | .mysql =>
    if (ServerAddress.parse? address).isNone then
      .error (.within "repo: open mysql" (.plain "invalid DSN"))
    else reached d
  | .postgres => reached d
where
  /-- the server, if it answers -/
  reached (d : Dialect) : Except Failure Backend :=
    match answers d.engine with
    | some b => .ok b
    | none => .error (.within ("repo: ping " ++ d.name) (.plain "connection refused"))

end OrderDesk.Store
