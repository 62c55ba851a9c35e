import OrderDesk.Number.Word
import OrderDesk.Time.Calendar

/-!
# Points in time

* `Stamp`          seconds since 1970 and nanoseconds, seen from an offset;
* `Stamp.text`     the internet date form, with the digits of the fraction that are needed;
* `Stamp.json`     the same for a document, which takes years 0 to 9999 and offsets below a day;
* `Stamp.parse?`   reads that form; the hour may have one digit, a comma may stand for the point.
-/

namespace OrderDesk

/-- Why a time has no form in a document. -/
inductive Unwritable where
  | year
  | zone
  deriving DecidableEq, Repr

/-- the message of a time without a form in a document -/
def Unwritable.message (u : Unwritable) : String :=
  "json: error calling MarshalJSON for type *time.Time: " ++
    match u with
    | .year => "year outside of range [0,9999]"
    | .zone => "timezone hour outside of range [0,23]"

/-- A point in time, `nanos < 10 ^ 9`, and the offset from UTC in seconds at which it is shown. -/
structure Stamp where
  seconds : Int
  nanos : Nat
  offset : Int
  deriving DecidableEq, Repr, Inhabited

namespace Stamp

/-- the start of the year 1 -/
def zero : Stamp := ⟨-62135596800, 0, 0⟩

/-- the same point, shown in UTC -/
def utc (t : Stamp) : Stamp := { t with offset := 0 }

def addNanos (t : Stamp) (n : Int) : Stamp :=
  let total := t.nanos + n
  { t with seconds := t.seconds + total.fdiv 1000000000, nanos := (total.fmod 1000000000).toNat }

/-- the date at the stamp's offset -/
def date (t : Stamp) : Calendar.Date := Calendar.dateOf ((t.seconds + t.offset).fdiv 86400)

/-- the year at the stamp's offset -/
def year (t : Stamp) : Int := t.date.year

/-- the year has four digits and no sign -/
def InCalendar (t : Stamp) : Prop := 0 ≤ t.year ∧ t.year ≤ 9999

instance (t : Stamp) : Decidable t.InCalendar := inferInstanceAs (Decidable (_ ∧ _))

/-- a year with at least four digits -/
def yearText (y : Int) : String :=
  if y < 0 then "-" ++ Word.padded 4 y.natAbs else Word.padded 4 y.natAbs

/-- the fraction without zeros at its end, nothing when it is zero -/
def fractionText (nanos : Nat) : String :=
  if nanos = 0 then ""
  else
    let ds := (Word.padded 9 nanos).toList
    "." ++ String.ofList (ds.reverse.dropWhile (· == '0')).reverse

/-- `Z`, or the sign, hours and minutes of the offset -/
def offsetText (offset : Int) : String :=
  if offset = 0 then "Z"
  else
    let minutes := offset.natAbs / 60
    (if offset < 0 then "-" else "+") ++ Word.padded 2 (minutes / 60) ++ ":" ++
      Word.padded 2 (minutes % 60)

/-- date, `T`, time of day, fraction and offset -/
def text (t : Stamp) : String :=
  let d := t.date
  let s := ((t.seconds + t.offset).fmod 86400).toNat
  yearText d.year ++ "-" ++ Word.padded 2 d.month ++ "-" ++ Word.padded 2 d.day ++ "T" ++
    Word.padded 2 (s / 3600) ++ ":" ++ Word.padded 2 (s / 60 % 60) ++ ":" ++
    Word.padded 2 (s % 60) ++ fractionText t.nanos ++ offsetText t.offset

/-- The text for a document: the year has four digits and the offset is below a day. -/
def json (t : Stamp) : Except Unwritable String :=
  if ¬ t.InCalendar then .error .year
  else if 86400 ≤ t.offset.natAbs then .error .zone
  else .ok t.text

def oneOrTwo? : List Char → Option (Nat × List Char)
  | a :: b :: rest =>
    if !a.isDigit then none
    else if b.isDigit then some ((a.toNat - 48) * 10 + (b.toNat - 48), rest)
    else some (a.toNat - 48, b :: rest)
  | [a] => if a.isDigit then some (a.toNat - 48, []) else none
  | [] => none

def digits? (n : Nat) (cs : List Char) : Option (Nat × List Char) := do
  let ds := cs.take n
  if ds.length = n then some (← Word.ofDigits? ds, cs.drop n) else none

def mark? (c : Char) : List Char → Option (List Char)
  | d :: rest => if c = d then some rest else none
  | [] => none

/-- an optional fraction of a second in nanoseconds; digits after the ninth do not count -/
def fraction (cs : List Char) : Nat × List Char :=
  match cs with
  | p :: d :: rest =>
    if (p == '.' || p == ',') && d.isDigit then
      let ds := (d :: rest).takeWhile Char.isDigit
      let kept := ds.take 9
      (kept.foldl Word.pushDigit 0 * Nat.pow 10 (9 - kept.length), (d :: rest).drop ds.length)
    else (0, cs)
  | _ => (0, cs)

/-- `Z`, or a sign, two digits of hours, a colon and two of minutes -/
def offset? : List Char → Option Int
  | ['Z'] => some 0
  | sign :: rest => do
    let (h, rest) ← digits? 2 rest
    let (m, rest) ← digits? 2 (← mark? ':' rest)
    if !rest.isEmpty || 24 < h || 60 < m then none
    else if sign = '+' then some (((h * 60 + m) * 60 : Nat) : Int)
    else if sign = '-' then some (-(((h * 60 + m) * 60 : Nat) : Int))
    else none
  | [] => none

def parse? (cs : List Char) : Option Stamp := do
  let (y, cs) ← digits? 4 cs
  let (mo, cs) ← digits? 2 (← mark? '-' cs)
  let (d, cs) ← digits? 2 (← mark? '-' cs)
  let (h, cs) ← oneOrTwo? (← mark? 'T' cs)
  let (mi, cs) ← digits? 2 (← mark? ':' cs)
  let (s, cs) ← digits? 2 (← mark? ':' cs)
  let (nanos, cs) := fraction cs
  let off ← offset? cs
  if mo < 1 || 12 < mo || d < 1 || Calendar.daysIn y mo < d || 23 < h || 59 < mi || 59 < s then none
  else
    let days := Calendar.daysOf ⟨y, mo, d⟩
    some ⟨days * 86400 + ((h * 60 + mi) * 60 + s : Nat) - off, nanos, off⟩

end Stamp

end OrderDesk
