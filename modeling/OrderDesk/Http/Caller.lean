import OrderDesk.Http.Request

/-!
# Where a request comes from

Every proxy is trusted: a header that lists addresses only is believed, and its first address is the
caller's.

* `isAddress`         is a text a numeric address, of four numbers or of eight groups;
* `listedCaller?`     the first address of a list of addresses;
* `Request.caller`    where a request comes from.
-/

namespace OrderDesk.Http

/-- is a text a number up to 255 without a leading zero -/
def isSmallNumber (s : String) : Bool :=
  let cs := s.toList
  !cs.isEmpty && cs.length ≤ 3 && cs.all Char.isDigit && (cs.length == 1 || cs.head? != some '0') &&
    decide (cs.foldl (fun n c => n * 10 + (c.toNat - 48)) 0 ≤ 255)

/-- is a text four small numbers with points between them -/
def isQuad (s : String) : Bool :=
  let parts := s.splitOn "."
  parts.length == 4 && parts.all isSmallNumber

/-- is a text one to four hexadecimal digits -/
def isGroup (s : String) : Bool :=
  s != "" && s.length ≤ 4 && s.toList.all fun c => (Json.hexValue? c).isSome

/-- how many groups there are between colons; the last two may be written as four numbers where
the address ends -/
def groupCount? (atEnd : Bool) : List String → Option Nat
  | [] => some 0
  | [g] => if isGroup g then some 1 else if atEnd && isQuad g then some 2 else none
  | g :: gs => if isGroup g then (groupCount? atEnd gs).map (· + 1) else none

/-- how many groups a side of two colons has; an empty side has none -/
def sideCount? (atEnd : Bool) (s : String) : Option Nat :=
  if s = "" then some 0 else groupCount? atEnd (s.splitOn ":")

/-- is a text eight groups, where two colons stand for the zero groups that are left out -/
def isGroups (s : String) : Bool :=
  match s.splitOn "::" with
  | [all] => groupCount? true (all.splitOn ":") == some 8
  | [left, right] =>
    match sideCount? false left, sideCount? true right with
    | some m, some n => m + n ≤ 7
    | _, _ => false
  | _ => false

def isAddress (s : String) : Bool := isQuad s || isGroups s

/-- the first address of a list, if every item is an address -/
def listedCaller? (header : String) : Option String :=
  let items := (header.splitOn ",").map Text.trim
  if items.all isAddress then items.head? else none

/-- the address of the nearest peer -/
def peer : String := "192.0.2.1"

def Request.caller (r : Request) : String :=
  ((listedCaller? (r.header "X-Forwarded-For")).or (listedCaller? (r.header "X-Real-Ip"))).getD peer

end OrderDesk.Http
