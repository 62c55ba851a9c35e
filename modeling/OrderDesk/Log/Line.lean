import OrderDesk.Json.Value
import OrderDesk.Text.Blank
import OrderDesk.Text.Case

/-!
# Log lines

A logger holds attributes and named groups; a line is its level and message, these attributes,
and those of the record, in the innermost group.

* `Level.parse`      a level by name, `info` when the name is none;
* `Logger`           what every line of a logger carries;
* `Logger.line`      one line; a group that would be empty is left out.
-/

namespace OrderDesk.Log

open Json (Value)

/-- The levels, from the least severe. -/
inductive Level where
  | debug
  | info
  | warn
  | error
  deriving DecidableEq, Repr, Inhabited

def Level.rank : Level → Nat
  | .debug => 0
  | .info => 1
  | .warn => 2
  | .error => 3

def Level.name : Level → String
  | .debug => "DEBUG"
  | .info => "INFO"
  | .warn => "WARN"
  | .error => "ERROR"

/-- a level by name, in any casing and with blanks around it -/
def Level.parse (s : String) : Level :=
  let n := Text.lower (Text.trim s)
  if n = "debug" then .debug
  else if n = "warn" ∨ n = "warning" then .warn
  else if n = "error" then .error
  else .info

/-- Attributes of a line. -/
abbrev Attrs := List (String × Value)

/-- What every line of a logger carries: its attributes and, group by group from the outermost,
the name of a group with the attributes given inside it. -/
structure Logger where
  attrs : Attrs := []
  groups : List (String × Attrs) := []
  deriving Inhabited

/-- adds attributes in the innermost group of a list of groups -/
def addInnermost (more : Attrs) : List (String × Attrs) → List (String × Attrs)
  | [] => []
  | [(g, as)] => [(g, as ++ more)]
  | g :: gs => g :: addInnermost more gs

/-- an attribute without a name and a value, which is left out of every line -/
def isVoid : String × Value → Bool
  | ("", .null) => true
  | _ => false

/-- a logger with more attributes, in its innermost group -/
def Logger.add (l : Logger) (more : Attrs) : Logger :=
  let more := more.filter (!isVoid ·)
  if l.groups.isEmpty then { l with attrs := l.attrs ++ more }
  else { l with groups := addInnermost more l.groups }

/-- a logger with another group inside; a group without name is none -/
def Logger.group (l : Logger) (name : String) : Logger :=
  if name = "" then l else { l with groups := l.groups ++ [(name, [])] }

def member : String × Value → String
  | (k, v) => Json.quote .line k ++ ":" ++ v.render .line

def braced (members : List String) : String := "\x7b" ++ String.intercalate "," members ++ "\x7d"

/-- the members of a record inside the groups, empty groups left out -/
def nest (record : List String) : List (String × Attrs) → List String
  | [] => record
  | (g, as) :: gs =>
    match as.map member ++ nest record gs with
    | [] => []
    | inner => [Json.quote .line g ++ ":" ++ braced inner]

def Logger.line (l : Logger) (level : Level) (message : String) (record : Attrs) : String :=
  let front : Attrs := [("level", .str level.name), ("msg", .str message)]
  braced ((front ++ l.attrs).map member ++ nest (record.map member) l.groups)

end OrderDesk.Log
