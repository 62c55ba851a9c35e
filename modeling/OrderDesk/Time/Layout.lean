import OrderDesk.Time.Stamp

/-!
# Times by layout

A layout is a list of pieces, and a text has the layout if its pieces follow one another with
nothing between and nothing after them.

* `Piece`          what can stand in a layout;
* `zoneLength?`    how much of a text is the name of a zone;
* `Layout.read?`   the time that a text of a layout spells.
-/

namespace OrderDesk

/-- What can stand in a layout. A blank stands for any number of blanks; an offset has a colon
between its hours and its minutes or not. -/
inductive Layout.Piece where
  | year
  | month
  | day
  | hour
  | minute
  | second
  | fraction
  | offset (colon : Bool)
  | zone
  | blank
  | mark (c : Char)
  deriving DecidableEq, Repr

/-- The pieces of a text in their order. -/
abbrev Layout := List Layout.Piece

namespace Layout

/-- What has been read so far. `universal` notes that the zone was named as universal time. -/
structure Reading where
  year : Nat := 1
  month : Nat := 1
  day : Nat := 1
  hour : Nat := 0
  minute : Nat := 0
  second : Nat := 0
  nanos : Nat := 0
  offset : Int := 0
  universal : Bool := false
  deriving DecidableEq, Repr, Inhabited

/-- the length of a sign with a number of at most 23, zero for anything else -/
def shortOffsetLength : List Char → Nat
  | s :: rest =>
    let ds := rest.takeWhile Char.isDigit
    if (s == '+' || s == '-') && !ds.isEmpty && ds.foldl Word.pushDigit 0 ≤ 23 then ds.length + 1
    else 0
  | [] => 0

/-- How much of a text is the name of a zone: three capitals, four or five that end in `T`, a sign
with hours, or one of a few other names. -/
def zoneLength? (cs : List Char) : Option Nat :=
  let capitals := ((cs.take 6).takeWhile fun c => 'A' ≤ c && c ≤ 'Z').length
  if cs.length < 3 then none
  else if ["ChST".toList, "MeST".toList].contains (cs.take 4) then some 4
  else if cs.take 3 = "GMT".toList then some (3 + shortOffsetLength (cs.drop 3))
  else if cs.head? = some '+' ∨ cs.head? = some '-' then
    let n := shortOffsetLength cs
    if n = 0 then none else some n
  else if capitals = 3 then some 3
  else if capitals = 4 then
    if cs.take 4 = "WITA".toList ∨ (cs.take 4).getLast? = some 'T' then some 4 else none
  else if capitals = 5 ∧ (cs.take 5).getLast? = some 'T' then some 5
  else none

/-- a sign, two digits of hours, a colon if one is due, and two digits of minutes -/
def offset? (colon : Bool) : List Char → Option (Int × List Char)
  | sign :: rest => do
    let (h, rest) ← Stamp.digits? 2 rest
    let (m, rest) ← Stamp.digits? 2 (← if colon then Stamp.mark? ':' rest else some rest)
    let seconds : Int := ((h * 60 + m) * 60 : Nat)
    if 24 < h || 60 < m then none
    else if sign = '+' then some (seconds, rest)
    else if sign = '-' then some (-seconds, rest)
    else none
  | [] => none

/-- reads one piece, and gives back the rest -/
def step? (r : Reading) (cs : List Char) : Piece → Option (Reading × List Char)
  | .year => (Stamp.digits? 4 cs).map fun (n, cs) => ({ r with year := n }, cs)
  | .month => (Stamp.digits? 2 cs).map fun (n, cs) => ({ r with month := n }, cs)
  | .day => (Stamp.digits? 2 cs).map fun (n, cs) => ({ r with day := n }, cs)
  | .hour => (Stamp.oneOrTwo? cs).map fun (n, cs) => ({ r with hour := n }, cs)
  | .minute => (Stamp.digits? 2 cs).map fun (n, cs) => ({ r with minute := n }, cs)
  | .second => (Stamp.digits? 2 cs).map fun (n, cs) => ({ r with second := n }, cs)
  | .fraction =>
    let (n, cs) := Stamp.fraction cs
    some ({ r with nanos := n }, cs)
  | .offset colon => (offset? colon cs).map fun (n, cs) => ({ r with offset := n }, cs)
  | .zone =>
    if cs.take 3 = "UTC".toList then some ({ r with universal := true }, cs.drop 3)
    else (zoneLength? cs).map fun n => (r, cs.drop n)
  | .blank =>
    if cs.head?.any (· != ' ') then none else some (r, cs.dropWhile (· == ' '))
  | .mark c => (Stamp.mark? c cs).map fun cs => (r, cs)

/-- the time of what was read, if there is such a time -/
def Reading.stamp? (r : Reading) : Option Stamp :=
  if r.month < 1 || 12 < r.month || r.day < 1 || Calendar.daysIn r.year r.month < r.day ||
      23 < r.hour || 59 < r.minute || 59 < r.second then none
  else
    let days := Calendar.daysOf ⟨r.year, r.month, r.day⟩
    let off := if r.universal then 0 else r.offset
    some ⟨days * 86400 + ((r.hour * 60 + r.minute) * 60 + r.second : Nat) - off, r.nanos, off⟩

/-- the time that a text of a layout spells -/
def read? (l : Layout) (cs : List Char) : Option Stamp :=
  match l.foldlM (fun (r, cs) p => step? r cs p) (({} : Reading), cs) with
  | some (r, []) => r.stamp?
  | _ => none

def date : Layout := [.year, .mark '-', .month, .mark '-', .day]

def clock : Layout := [.hour, .mark ':', .minute]

def fineClock : Layout := clock ++ [.mark ':', .second, .fraction]

end Layout

end OrderDesk
