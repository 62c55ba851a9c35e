import OrderDesk.Telemetry.Trace

/-!
# Trace contexts that callers send

* `parent?`      the active span that a caller's header names.
-/

namespace OrderDesk.Telemetry

def isHex (c : Char) : Bool := c.isDigit || ('a' ≤ c && c ≤ 'f')

/-- is a text that many hexadecimal digits -/
def isHexOf (width : Nat) (s : String) : Bool := s.length == width && s.toList.all isHex

/-- an identifier of that many digits, which is not zero -/
def id? (width : Nat) (s : String) : Option String :=
  if isHexOf width s && s.toList.any (· != '0') then some s else none

/-- the value of a text of hexadecimal digits -/
def hexNumber (s : String) : Nat :=
  s.toList.foldl (fun n c => n * 16 + (if c.isDigit then c.toNat - 48 else c.toNat - 87)) 0

/-- The active span that a caller's header names: a version, a trace, a span and flags, of which
the lowest says whether the trace is sampled. The first version has nothing after the flags but a
hyphen. -/
def parent? (header : String) : Option SpanContext := do
  match header.splitOn "-" with
  | version :: trace :: span :: flags :: rest =>
    let t ← id? 32 trace
    let s ← id? 16 span
    if !isHexOf 2 version || !isHexOf 2 flags || version == "ff" then none
    else if version == "00" && ((rest != [] && rest != [""]) || 2 < hexNumber flags) then none
    else some ⟨t, s, hexNumber flags % 2 == 1⟩
  | _ => none

end OrderDesk.Telemetry
