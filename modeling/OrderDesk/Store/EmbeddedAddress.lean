import OrderDesk.Http.Form
import OrderDesk.Store.Pragma

/-!
# The address of the embedded engine

The name of a file, then after a question mark options in the form of a query. A name after `file:`
is escaped, and some of its options are for the engine itself.

* `strictForm?`                the pairs of a query, `none` if one of them is bad;
* `splitAddress?`              the name of a file and the options for the engine;
* `FileAccess`                 what the engine may do with the file;
* `EmbeddedAddress.parse?`     reads an address;
* `EmbeddedAddress.wished?`    grants the wishes of an address.
-/

namespace OrderDesk.Store

/-- the pairs of a query, `none` if one of them is bad or there are too many -/
def strictForm? (bs : Octets) : Option (List (String × String)) :=
  let pieces := (Octets.splitAtMark 0x26 bs).filter (!·.isEmpty)
  let pairs := Http.parseForm bs
  if pairs.length = pieces.length then
    some (pairs.map fun (k, v) => (Octets.lossyText k, Octets.lossyText v))
  else none

/-- A part of an address as it is meant: an escape that is none stands for itself, and the octet
zero ends the part. -/
def loosened : Octets → Octets
  | [] => []
  | 0x25 :: a :: b :: rest =>
    match Http.hexOctet? a b with
    | some x => if x = 0 then [] else x :: loosened rest
    | none => 0x25 :: loosened (a :: b :: rest)
  | b :: rest => b :: loosened rest

/-- the options after the name of a file; one without a name does not count -/
def engineOptions (bs : Octets) : List (String × String) :=
  (Octets.splitAtMark 0x26 bs).filterMap fun piece =>
    let (name, value) := Octets.cutAtMark 0x3D piece
    let name := loosened name
    if name.isEmpty then none else some (Octets.lossyText name, Octets.lossyText (loosened value))

/-- a text after `file:` without the name of a host, which may only be the local one -/
def withoutHost? (bs : Octets) : Option Octets :=
  match bs with
  | 0x2F :: 0x2F :: rest =>
    let host := rest.takeWhile (· != 0x2F)
    if host.isEmpty || host == Octets.ofText "localhost" then some (rest.drop host.length) else none
  | _ => some bs

/-- The name of a file and the options for the engine. A text without `file:` is a name; what
follows a number sign does not count. -/
def splitAddress? (s : String) : Option (String × List (String × String)) :=
  if s.startsWith "file:" then do
    let bs ← withoutHost? (Octets.ofText (String.ofList (s.toList.drop 5)))
    let bs := bs.takeWhile (· != 0x23)
    let (name, options) := Octets.cutAtMark 0x3F bs
    some (Octets.lossyText (loosened name), engineOptions options)
  else
    let cut := s.toList.takeWhile (· != '?')
    some (if cut.isEmpty then s else String.ofList cut, [])

/-- What the engine may do with a file: make it, write it, read it, or keep it in memory instead. -/
inductive FileAccess where
  | make
  | write
  | read
  | memory
  deriving DecidableEq, Repr, Inhabited

namespace FileAccess

def ofName? : String → Option FileAccess
  | "rwc" => some .make
  | "rw" => some .write
  | "ro" => some .read
  | "memory" => some .memory
  | _ => none

/-- how far an access goes; the one to memory takes nothing, and whatever follows it is allowed -/
def reach : FileAccess → Nat
  | .make => 6
  | .write => 2
  | .read => 1
  | .memory => 128

/-- a later access in place of an earlier one, which it may not exceed -/
def narrowed? (old new : FileAccess) : Option FileAccess :=
  if new = .memory ∨ new.reach ≤ old.reach then some new else none

end FileAccess

/-- Where the embedded engine keeps its tables, and what else it is told. -/
structure EmbeddedAddress where
  file : String
  access : FileAccess
  fileSystem : String
  options : List (String × String)
  wishes : List (String × String)
  deriving DecidableEq, Repr, Inhabited

namespace EmbeddedAddress

/-- the file systems that the engine knows -/
def fileSystems : List String :=
  ["unix", "unix-none", "unix-dotfile", "unix-excl", "memdb"]

/-- one file system from those that are named; they may not differ -/
def agreed? (names : List String) : Option String :=
  names.foldlM (fun r v => if r ≠ "" ∧ r ≠ v then none else some v) ""

def valuesOf (ps : List (String × String)) (name : String) : List String :=
  (ps.filter (·.1 == name)).map Prod.snd

def access? (options : List (String × String)) : Option FileAccess :=
  (valuesOf options "mode").foldlM (fun old v => (FileAccess.ofName? v).bind old.narrowed?) .make

def parse? (s : String) : Option EmbeddedAddress := do
  let query := (s.toList.dropWhile (· != '?')).drop 1
  let query := if s.startsWith "?" then [] else query
  let wishes ← strictForm? (Octets.ofText (String.ofList query))
  let named ← agreed? (valuesOf wishes "vfs")
  let (file, options) ← splitAddress? s
  let access ← access? options
  let fileSystem := (valuesOf options "vfs").getLast?.getD (if named = "" then "unix" else named)
  if fileSystems.contains fileSystem &&
      (valuesOf options "cache").all (["shared", "private"].contains ·) then
    some ⟨file, access, fileSystem, options, wishes⟩
  else none

/-- does the engine keep its tables in memory, or in a file without a name -/
def isNameless (a : EmbeddedAddress) : Bool :=
  a.file == "" || a.file == ":memory:" || a.access = .memory

/-- does nobody else see where the engine keeps its tables -/
def isPrivate (a : EmbeddedAddress) : Bool := a.isNameless || a.fileSystem == "memdb"

/-- is the engine told that nobody ever changes the file -/
def isFixed (a : EmbeddedAddress) : Bool :=
  !a.isNameless && ((valuesOf a.options "immutable").head?.any isOn)

/-- can the way to begin a transaction be read, unless a way to write times is told before -/
def mannersHold (a : EmbeddedAddress) : Bool :=
  match ((valuesOf a.wishes "_time_format").head?).getD "" with
  | "" =>
    let lock := ((valuesOf a.wishes "_txlock").head?).getD ""
    ["", "deferred", "immediate", "exclusive"].contains (Text.lower lock)
  | format => format == "sqlite"

/-- Grants the wishes of an address one after the other; the answer says whether writing is
forbidden after them. -/
def wished? (a : EmbeddedAddress) : Option Bool := do
  let forbidden ← (valuesOf a.wishes "_pragma").foldlM
    (fun b w => (Pragma.parse? w).bind (Pragma.granted? b)) false
  if a.mannersHold then some forbidden else none

end EmbeddedAddress

end OrderDesk.Store
