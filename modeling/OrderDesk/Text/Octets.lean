/-!
# Octets and the texts they spell

Bodies, query values and cut texts arrive as octets that need not be valid UTF-8. An octet that
starts no valid sequence stands for itself alone.

* `decode`       the characters of an octet list, `none` for each stray octet;
* `lossy`        the same with U+FFFD for each stray octet;
* `toText?`      the text, if every octet belongs to a character;
* `ofText`       the octets of a text;
* `splitAtMark`, `cutAtMark`      the pieces between marks.
-/

namespace OrderDesk

/-- A list of octets. -/
abbrev Octets := List UInt8

namespace Octets

def ofText (s : String) : Octets := s.toUTF8.data.toList

def isTail (b : UInt8) : Bool := 0x80 ≤ b && b ≤ 0xBF

/-- The character that `a`, followed by `rest`, starts with, and how many octets of `rest` it
takes. Overlong forms, surrogates and code points above U+10FFFF are refused. -/
def lead (a : UInt8) (rest : Octets) : Option (Char × Nat) :=
  if a < 0x80 then some (Char.ofNat a.toNat, 0)
  else if 0xC2 ≤ a && a ≤ 0xDF then
    match rest with
    | b :: _ =>
      if isTail b then some (Char.ofNat ((a.toNat - 0xC0) * 64 + (b.toNat - 0x80)), 1) else none
    | _ => none
  else if 0xE0 ≤ a && a ≤ 0xEF then
    match rest with
    | b :: c :: _ =>
      let low : UInt8 := if a == 0xE0 then 0xA0 else 0x80
      let high : UInt8 := if a == 0xED then 0x9F else 0xBF
      if low ≤ b && b ≤ high && isTail c then
        some (Char.ofNat ((a.toNat - 0xE0) * 4096 + (b.toNat - 0x80) * 64 + (c.toNat - 0x80)), 2)
      else none
    | _ => none
  else if 0xF0 ≤ a && a ≤ 0xF4 then
    match rest with
    | b :: c :: d :: _ =>
      let low : UInt8 := if a == 0xF0 then 0x90 else 0x80
      let high : UInt8 := if a == 0xF4 then 0x8F else 0xBF
      if low ≤ b && b ≤ high && isTail c && isTail d then
        some (Char.ofNat ((a.toNat - 0xF0) * 262144 + (b.toNat - 0x80) * 4096 +
          (c.toNat - 0x80) * 64 + (d.toNat - 0x80)), 3)
      else none
    | _ => none
  else none

/-- the characters of an octet list, `none` for each octet that belongs to no character -/
def decode : Octets → List (Option Char)
  | [] => []
  | a :: rest =>
    match lead a rest with
    | some (c, n) => some c :: decode (rest.drop n)
    | none => none :: decode rest
termination_by bs => bs.length
decreasing_by all_goals (simp; try omega)

/-- the characters of an octet list, U+FFFD for each stray octet -/
def lossy (bs : Octets) : List Char := (decode bs).map fun c => c.getD (Char.ofNat 0xFFFD)

/-- the text of an octet list, U+FFFD for each stray octet -/
def lossyText (bs : Octets) : String := String.ofList (lossy bs)

/-- the text of an octet list, if every octet belongs to a character -/
def toText? (bs : Octets) : Option String :=
  let cs := decode bs
  if cs.all Option.isSome then some (String.ofList (cs.filterMap id)) else none

def splitAtMark (mark : UInt8) : Octets → List Octets
  | [] => [[]]
  | c :: cs =>
    if c = mark then [] :: splitAtMark mark cs
    else match splitAtMark mark cs with
      | [] => [[c]]
      | p :: ps => (c :: p) :: ps

/-- what stands before the first mark, and what after it -/
def cutAtMark (mark : UInt8) (bs : Octets) : Octets × Octets :=
  (bs.takeWhile (· != mark), (bs.dropWhile (· != mark)).drop 1)

end Octets

end OrderDesk
