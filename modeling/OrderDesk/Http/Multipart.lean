import OrderDesk.Http.MediaType

/-!
# Forms in parts

A form whose values stand in parts, each with headers of its own, between lines that hold a
boundary. What stands before the first boundary does not count, nor what comes after the last.

* `takeHeaders`         the headers of a part, with lines that go on put together;
* `takeBody?`           the body of a part, up to the next boundary;
* `softened?`           a body whose octets are written with equals signs and hexadecimal digits;
* `Delimiter.toPart`    goes on to the next part;
* `formParts?`          the values of a form by name, `none` if the form is broken.
-/

namespace OrderDesk.Http

/-- a line feed -/
abbrev lineFeed : UInt8 := 0x0A

/-- is this a blank or a tab -/
def isPad (b : UInt8) : Bool := b == 0x20 || b == 0x09

/-- a line with its line feed, and the rest; the last line may have none -/
def takeLine : Octets → Octets × Octets
  | [] => ([], [])
  | b :: bs =>
    if b = lineFeed then ([b], bs)
    else
      let (l, r) := takeLine bs
      (b :: l, r)

def bareLine (line : Octets) : Octets :=
  match line.reverse with
  | 0x0A :: 0x0D :: rest => rest.reverse
  | 0x0A :: rest => rest.reverse
  | _ => line

/-- octets without the blanks and tabs at their two ends -/
def trimPads (bs : Octets) : Octets :=
  ((bs.dropWhile isPad).reverse.dropWhile isPad).reverse

/-- A header line that goes on: each further line that begins with a blank is added after one
blank. -/
def continued (head rest : Octets) : Octets × Octets :=
  if rest.head?.any isPad then
    match rest.dropWhile isPad with
    | [] => (head ++ [0x20], [])
    | more =>
      let (l, r) := takeLine more
      if r.length < rest.length then continued (head ++ [0x20] ++ trimPads (bareLine l)) r
      else (head, rest)
  else (head, rest)
  termination_by rest.length

/-- may this stand in the value of a header -/
def isHeaderOctet (b : UInt8) : Bool := b == 0x09 || (0x20 ≤ b && b != 0x7F)

/-- may this stand in the name of a header: the characters of a token, and a blank -/
def isNameOctet (b : UInt8) : Bool :=
  b == 0x20 || b.toNat < 0x7F && Char.isAlphanum (Char.ofNat b.toNat) ||
    (Octets.ofText "!#$%&'*+-.^_`|~").contains b

def header? (line : Octets) : Option (String × String) :=
  let (name, value) := Octets.cutAtMark 0x3A line
  if line.contains 0x3A && !name.isEmpty && name.all isNameOctet && value.all isHeaderOctet then
    some (Text.asciiLower (Octets.lossyText name), Octets.lossyText (value.dropWhile isPad))
  else none

/-- How the reading of headers ends: with headers and what follows them, with the end of the form,
or with a line that is no header. -/
inductive Headers where
  | found (headers : List (String × String)) (rest : Octets)
  | ended
  | broken
  deriving Inhabited

/-- the greatest number of headers of a form -/
def headerLimit : Nat := 10000

/-- the greatest number of parts of a form -/
def partLimit : Nat := 1000

/-- the headers up to an empty line, after those found so far; `room` bounds their number -/
def takeHeaders (room : Nat) (found : List (String × String)) (bs : Octets) : Headers :=
  let (l, rest) := takeLine bs
  let bare := bareLine l
  if bs.isEmpty then .ended
  else if bare.isEmpty then .found found.reverse rest
  else if found.isEmpty && bare.head?.any isPad then .broken
  else if !bare.contains 0x3A then .broken
  else
    let (line, rest) := continued (trimPads bare) rest
    match header? line, room with
    | some h, room + 1 =>
      if rest.length < bs.length then takeHeaders room (h :: found) rest else .broken
    | _, _ => .broken
  termination_by bs.length

/-- What stands between the parts: the line end and the boundary. -/
structure Delimiter where
  crlf : Bool
  boundary : Octets
  deriving DecidableEq, Repr

namespace Delimiter

def lineEnd (d : Delimiter) : Octets := if d.crlf then [0x0D, 0x0A] else [0x0A]

/-- two hyphens and the boundary -/
def dashed (d : Delimiter) : Octets := 0x2D :: 0x2D :: d.boundary

/-- does a text that begins after the boundary show that it was a boundary -/
def closes : Octets → Bool
  | [] => true
  | b :: rest => isPad b || b == 0x0D || b == 0x0A || (b == 0x2D && rest.head? == some 0x2D)

/-- does a text begin with a given one, and end as a boundary does -/
def stands (mark bs : Octets) : Bool := mark.isPrefixOf bs && closes (bs.drop mark.length)

/-- the text up to a line end with the boundary, put before the reversed `acc`, and the rest -/
def bodyFrom? (mark acc : Octets) : Octets → Option (Octets × Octets)
  | [] => none
  | b :: bs =>
    if stands mark (b :: bs) then some (acc.reverse, b :: bs) else bodyFrom? mark (b :: acc) bs

/-- the body of a part, up to the next boundary; an empty body may begin with it -/
def takeBody? (d : Delimiter) (bs : Octets) : Option (Octets × Octets) :=
  if stands d.dashed bs then some ([], bs) else bodyFrom? (d.lineEnd ++ d.dashed) [] bs

/-- does a line say that another part follows -/
def opens (d : Delimiter) (line : Octets) : Bool :=
  d.dashed.isPrefixOf line && (line.drop d.dashed.length).dropWhile isPad == d.lineEnd

/-- does a line say that no part follows -/
def isFinal (d : Delimiter) (line : Octets) : Bool :=
  let mark := d.dashed ++ [0x2D, 0x2D]
  let rest := (line.drop mark.length).dropWhile isPad
  mark.isPrefixOf line && (rest.isEmpty || rest == d.lineEnd)

/-- The first boundary tells how lines end in this form. -/
def fitted (d : Delimiter) (line : Octets) : Delimiter :=
  if d.dashed.isPrefixOf line && (line.drop d.dashed.length).dropWhile isPad == [0x0A] then
    { d with crlf := false }
  else d

/-- the longest line at which a part may begin -/
def lineLimit : Nat := 5120

/-- Where the reading stands: before the first part, after the body of a part, or after the line
end that follows a body. -/
inductive Place where
  | before
  | afterBody
  | afterLineEnd
  deriving DecidableEq, Repr

/-- What comes next: a part with the text from its headers on, or nothing. -/
inductive Next where
  | part (d : Delimiter) (rest : Octets)
  | finished
  | broken
  deriving Inhabited

/-- goes on to the next part -/
def toPart (d : Delimiter) (place : Place) (bs : Octets) : Next :=
  let (line, rest) := takeLine bs
  let d := if place = .before then d.fitted line else d
  if lineLimit < line.length then .broken
  else if line.getLast? ≠ some lineFeed then if d.isFinal line then .finished else .broken
  else if d.opens line then .part d rest
  else if d.isFinal line then .finished
  else if rest.length < bs.length then
    match place with
    | .before => toPart d .before rest
    | .afterBody => if line = d.lineEnd then toPart d .afterLineEnd rest else .broken
    | .afterLineEnd => .broken
  else .broken
  termination_by bs.length

end Delimiter

/-- An equals sign before two hexadecimal digits makes an octet of them; before anything else in
the line it stands for itself. -/
def softLine? : Octets → Option Octets
  | [] => some []
  | 0x3D :: a :: b :: rest =>
    match hexOctet? a b with
    | some x => (softLine? rest).map (x :: ·)
    | none =>
      if a = 0x0D ∨ a = 0x0A then none else (softLine? (a :: b :: rest)).map (0x3D :: ·)
  | 0x3D :: a :: rest =>
    if a = 0x0D ∨ a = 0x0A then none else (softLine? (a :: rest)).map (0x3D :: ·)
  | b :: rest =>
    if b = 0x3D ∨ (b != 0x09 && b != 0x0D && b != 0x0A && (b < 0x20 || b = 0x7F)) then none
    else (softLine? rest).map (b :: ·)

/-- a blank, a tab or a part of a line end -/
def isLineBlank (b : UInt8) : Bool := isPad b || b == 0x0D || b == 0x0A

/-- One line with its soft end taken away: an equals sign at the end joins the line to the next. -/
def joinedLine? (line : Octets) : Option Octets :=
  let text := (line.reverse.dropWhile isLineBlank).reverse
  let tail := line.drop text.length
  if text.getLast? = some 0x3D then
    let kept := text.dropLast
    if tail.head? = some 0x0A ∨ tail.take 2 = [0x0D, 0x0A] ∨
        (tail.isEmpty ∧ !kept.isEmpty) then softLine? kept
    else none
  else if line.getLast? = some 0x0A then
    softLine? (text ++ if line.dropLast.getLast? = some 0x0D then [0x0D, 0x0A] else [0x0A])
  else softLine? text

/-- the longest line of a body that is written so -/
def softLimit : Nat := 4096

/-- a body whose octets are written with equals signs and hexadecimal digits -/
def softened? (bs : Octets) : Option Octets :=
  if bs.isEmpty then some []
  else
    let (line, rest) := takeLine bs
    if softLimit < line.length then none
    else if rest.length < bs.length then do
      let head ← joinedLine? line
      let tail ← softened? rest
      some (head ++ tail)
    else none
  termination_by bs.length

/-- the name and the file name that the headers of a part give -/
def partNames (headers : List (String × String)) : String × String :=
  match MediaType.parse? ((headers.lookup "content-disposition").getD "") with
  | none => ("", "")
  | some m =>
    (if m.name = "form-data" then (m.parameter? "name").getD "" else "",
      (m.parameter? "filename").getD "")

/-- the body of a part as its headers say that it is written -/
def plainBody? (headers : List (String × String)) (body : Octets) : Option Octets :=
  let manner := (headers.lookup "content-transfer-encoding").getD ""
  if Text.asciiLower manner = "quoted-printable" then softened? body else some body

/-- The values from a place on, with their names. A part without a name does not count, nor does a
file. -/
def partsFrom? (room headers : Nat) (d : Delimiter) (place : Delimiter.Place) (bs : Octets) :
    Option (List (Octets × Octets)) :=
  match room, d.toPart place bs with
  | _, .finished => some []
  | _, .broken | 0, _ => none
  | room + 1, .part d rest =>
    match takeHeaders headers [] rest with
    | .ended => some []
    | .broken => none
    | .found hs rest => do
      let (body, rest) ← d.takeBody? rest
      let (name, file) := partNames hs
      let body ← if name = "" then some [] else plainBody? hs body
      let headers := if name ≠ "" ∧ file ≠ "" then headers - hs.length else headers
      let others ← partsFrom? room headers d .afterBody rest
      if name = "" ∨ file ≠ "" then some others else some ((Octets.ofText name, body) :: others)

/-- the values of a form by name, `none` if the form is broken -/
def formParts? (boundary : String) (bs : Octets) : Option (List (Octets × Octets)) :=
  if boundary = "" then none
  else partsFrom? partLimit headerLimit ⟨true, Octets.ofText boundary⟩ .before bs

end OrderDesk.Http
