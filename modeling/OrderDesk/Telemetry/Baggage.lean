import OrderDesk.Http.Form
import OrderDesk.Text.Blank

/-!
# Baggage that callers send

Names with values and properties, passed on from service to service.

* `Baggage.parse?`      the members of a header; one bad member spoils all;
* `Baggage.text`        the header that is sent on.
-/

namespace OrderDesk.Telemetry.Baggage

/-- A property of a member, with or without a value. -/
structure Property where
  name : String
  value : Option String
  deriving DecidableEq, Repr, Inhabited

/-- A member. -/
structure Member where
  name : String
  value : String
  properties : List Property := []
  deriving DecidableEq, Repr, Inhabited

def isNameChar (c : Char) : Bool :=
  c.isAlphanum || ['!', '#', '$', '%', '&', '\x27', '*', '+', '-', '.', '^', '_', '\x60', '|',
    '~'].contains c

def isValueChar (c : Char) : Bool :=
  let n := c.toNat
  n = 0x21 || (0x23 ≤ n && n ≤ 0x2B) || (0x2D ≤ n && n ≤ 0x3A) || (0x3C ≤ n && n ≤ 0x5B) ||
    (0x5D ≤ n && n ≤ 0x7E)

def isName (s : String) : Bool := s != "" && s.toList.all isNameChar

def unescaped? (s : String) : Option String :=
  (Http.unescape? false (Octets.ofText s)).map Octets.lossyText

/-- an escaped value, white space around it aside -/
def value? (s : String) : Option String :=
  let raw := Text.trim s
  if raw.toList.all isValueChar then unescaped? raw else none

def escaped (s : String) : String :=
  String.ofList ((Octets.ofText s).flatMap fun b =>
    let c := Char.ofNat b.toNat
    if isValueChar c && c != '%' then [c]
    else '%' :: (Text.hexDigits 2 b.toNat).map Char.toUpper)

/-- what stands before the first equals sign, and what after it -/
def cut (s : String) : String × Option String :=
  let cs := s.toList
  let k := cs.takeWhile (· != '=')
  match cs.dropWhile (· != '=') with
  | [] => (String.ofList k, none)
  | _ :: v => (String.ofList k, some (String.ofList v))

/-- what follows the blanks and tabs in front -/
def afterBlanks (cs : List Char) : List Char := cs.dropWhile fun c => c == ' ' || c == '\t'

/-- A property: a name, and a value after an equals sign, with blanks and tabs around them. Nothing
at all is a property without a name, which is not sent on. -/
def property? (s : String) : Option Property :=
  let cs := afterBlanks s.toList
  let name := cs.takeWhile isNameChar
  if s = "" then some ⟨"", none⟩
  else if name.isEmpty then none
  else
    match afterBlanks (cs.drop name.length) with
    | [] => some ⟨String.ofList name, none⟩
    | '=' :: rest =>
      let rest := afterBlanks rest
      let value := rest.takeWhile isValueChar
      if (afterBlanks (rest.drop value.length)).isEmpty then
        (unescaped? (String.ofList value)).map fun v => ⟨String.ofList name, some v⟩
      else none
    | _ => none

def member? (s : String) : Option Member :=
  if 4096 < s.utf8ByteSize then none
  else match s.splitOn ";" with
    | [] => none
    | head :: props => do
      let properties ← props.mapM property?
      let (k, v) := cut head
      let name := Text.trim k
      if isName name then some ⟨name, ← value? (← v), properties⟩ else none

/-- a member put in the place of one of the same name, or at the end -/
def put (m : Member) : List Member → List Member
  | [] => [m]
  | n :: ns => if n.name = m.name then m :: ns else n :: put m ns

def parse? (s : String) : Option (List Member) :=
  if s = "" then some []
  else if 8192 < s.utf8ByteSize then none
  else do
    let ms ← (s.splitOn ",").mapM member?
    let all := ms.foldl (fun acc m => put m acc) []
    if 180 < all.length then none else some all

def Property.text (p : Property) : String :=
  match p.value with
  | none => p.name
  | some v => p.name ++ "=" ++ escaped v

def Member.text (m : Member) : String :=
  let sent := (m.properties.map (·.text)).filter (· != "")
  let props := if m.properties.isEmpty then "" else ";" ++ ";".intercalate sent
  m.name ++ "=" ++ escaped m.value ++ props

/-- the header that is sent on -/
def text (ms : List Member) : String := ",".intercalate (ms.map (·.text))

end OrderDesk.Telemetry.Baggage
