import OrderDesk.Http.Form
import OrderDesk.Text.Blank
import OrderDesk.Text.Case

/-!
# Kinds of content with their parameters

A kind such as `text/plain` or `form-data`, then parameters `; name=value`, the values bare or
between quotes. A long value may come in numbered pieces, and a value with a star after its name is
percent-escaped and says its character set.

* `takeToken`, `takeValue?`, `takeParameter?`    the pieces of the text;
* `parameters?`                                  all parameters, unless two of them disagree;
* `joined`                                       the parameters with their pieces put together;
* `MediaType.parse?`                             a kind with its parameters.
-/

namespace OrderDesk.Http

def separators : List Char :=
  ['(', ')', '<', '>', '@', ',', ';', ':', '\\', '"', '/', '[', ']', '?', '=']

/-- the characters of a token: visible ASCII without the separators -/
def isTokenChar (c : Char) : Bool :=
  0x20 < c.toNat && c.toNat < 0x7F && !separators.contains c

def takeToken (cs : List Char) : List Char × List Char :=
  (cs.takeWhile isTokenChar, cs.dropWhile isTokenChar)

/-- The text up to the closing quote and the rest. A backslash counts only before a separator; a
line may not end within the quotes. -/
def takeQuoted? : List Char → Option (List Char × List Char)
  | [] => none
  | '"' :: rest => some ([], rest)
  | '\\' :: c :: rest =>
    if separators.contains c then (takeQuoted? rest).map fun (v, r) => (c :: v, r)
    else (takeQuoted? (c :: rest)).map fun (v, r) => ('\\' :: v, r)
  | c :: rest =>
    if c = '\r' ∨ c = '\n' then none
    else (takeQuoted? rest).map fun (v, r) => (c :: v, r)

/-- a token or a text between quotes, and the rest; a token has at least one character -/
def takeValue? : List Char → Option (List Char × List Char)
  | '"' :: rest => takeQuoted? rest
  | cs =>
    let (t, rest) := takeToken cs
    if t.isEmpty then none else some (t, rest)

/-- a list without the blanks at its start -/
def skipBlanks (cs : List Char) : List Char := cs.dropWhile Text.isBlank

/-- a semicolon, a name in small letters, an equals sign and a value; and the rest -/
def takeParameter? (cs : List Char) : Option ((String × String) × List Char) :=
  match skipBlanks cs with
  | ';' :: rest =>
    let (name, rest) := takeToken (skipBlanks rest)
    if name.isEmpty then none
    else match skipBlanks rest with
      | '=' :: rest => (takeValue? (skipBlanks rest)).map fun (v, r) =>
        ((Text.lower (String.ofList name), String.ofList v), r)
      | _ => none
  | _ => none

/-- Why the parameters cannot be read. -/
inductive BadParameters where
  | malformed
  | contradicting
  deriving DecidableEq, Repr

/-- The parameters of a kind after those found so far. A semicolon may be left over at the end; a
name may come twice with one value only. -/
def parameters (found : List (String × String)) (cs : List Char) :
    Except BadParameters (List (String × String)) :=
  if (skipBlanks cs).isEmpty ∨ Text.trimChars cs = [';'] then .ok found
  else match takeParameter? cs with
    | none => .error .malformed
    | some ((name, value), rest) =>
      if (found.lookup name).any (· != value) then .error .contradicting
      else if rest.length < cs.length then parameters (found ++ [(name, value)]) rest
      else .error .malformed
  termination_by cs.length

/-- an escaped text as it is meant, `none` for a bad escape -/
def unescaped? (s : String) : Option String :=
  (unescape? false (Octets.ofText s)).map Octets.lossyText

/-- a value that says its character set and its language before the escaped text -/
def declared? (v : String) : Option String :=
  match v.splitOn "'" with
  | set :: _ :: rest =>
    if !rest.isEmpty && ["us-ascii", "utf-8"].contains (Text.lower set) then
      unescaped? ("'".intercalate rest)
    else none
  | _ => none

/-- the pieces of a value from the `n`-th on; `left` bounds their number -/
def pieces (ps : List (String × String)) (name : String) : (left n : Nat) → List String
  | 0, _ => []
  | left + 1, n =>
    let key := name ++ "*" ++ toString n
    match ps.lookup key, ps.lookup (key ++ "*") with
    | some v, _ => v :: pieces ps name left (n + 1)
    | none, some v =>
      ((if n = 0 then declared? v else unescaped? v).getD "") :: pieces ps name left (n + 1)
    | none, none => []

/-- the value of a name that is written with a star, as a whole or in pieces -/
def starred? (ps : List (String × String)) (name : String) : Option String :=
  match ps.lookup (name ++ "*") with
  | some v => declared? v
  | none =>
    let parts := pieces ps name ps.length 0
    if parts.isEmpty then none else some (String.join parts)

def starredNames (ps : List (String × String)) : List String :=
  ((ps.map Prod.fst).filter (·.contains '*')).map fun k =>
    String.ofList (k.toList.takeWhile (· != '*'))

/-- the parameters with their pieces put together; a value with a star wins over one without -/
def joined (ps : List (String × String)) : List (String × String) :=
  ((starredNames ps).filterMap fun n => (starred? ps n).map (n, ·)) ++
    ps.filter (!·.1.contains '*')

/-- A kind of content with its parameters, which are absent if one of them is malformed. -/
structure MediaType where
  name : String
  parameters : Option (List (String × String))
  deriving DecidableEq, Repr

/-- is a text one token, or two with a slash between them -/
def isKind (s : String) : Bool :=
  match takeToken s.toList with
  | ([], _) => false
  | (_, []) => true
  | (_, '/' :: rest) => !rest.isEmpty && rest.all isTokenChar
  | _ => false

/-- Reads a kind with its parameters; none if the kind is no kind, or a parameter has two values. -/
def MediaType.parse? (s : String) : Option MediaType :=
  let cs := s.toList
  let name := Text.trim (Text.lower (String.ofList (cs.takeWhile (· != ';'))))
  if !isKind name then none
  else match Http.parameters [] (cs.dropWhile (· != ';')) with
    | .ok ps => some ⟨name, some (joined ps)⟩
    | .error .malformed => some ⟨name, none⟩
    | .error .contradicting => none

def MediaType.parameter? (m : MediaType) (name : String) : Option String :=
  m.parameters.bind (·.lookup name)

end OrderDesk.Http
