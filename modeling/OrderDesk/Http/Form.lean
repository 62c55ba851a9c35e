import OrderDesk.Json.Doc
import OrderDesk.Text.Octets
import OrderDesk.Text.Quoted

/-!
# Escaped names and values

* `unescape?`       an escaped text as octets;
* `parseForm`       the pairs of a query or form; one with a semicolon or a bad escape is dropped;
* `first`           the first value of a name;
* `escapePath`      a path as it is written in an address.
-/

namespace OrderDesk.Http

def hexOctet? (a b : UInt8) : Option UInt8 := do
  let x ← Json.hexValue? (Char.ofNat a.toNat)
  let y ← Json.hexValue? (Char.ofNat b.toNat)
  some (UInt8.ofNat (x * 16 + y))

/-- The octets of an escaped text; `plus` reads a plus sign as a blank. -/
def unescape? (plus : Bool) : Octets → Option Octets
  | [] => some []
  | 0x25 :: a :: b :: rest => do
    let x ← hexOctet? a b
    (unescape? plus rest).map (x :: ·)
  | c :: rest =>
    if c = 0x25 then none
    else (unescape? plus rest).map ((if plus && c = 0x2B then 0x20 else c) :: ·)

/-- one pair; one with a semicolon or a bad escape is none -/
def parsePair? (bs : Octets) : Option (Octets × Octets) :=
  if bs.isEmpty || bs.contains 0x3B then none
  else do
    let (k, v) := Octets.cutAtMark 0x3D bs
    some (← unescape? true k, ← unescape? true v)

def pairLimit : Nat := 10000

/-- the pairs of a query or form; too many are none -/
def parseForm (bs : Octets) : List (Octets × Octets) :=
  let pieces := Octets.splitAtMark 0x26 bs
  if pairLimit < pieces.length then [] else pieces.filterMap parsePair?

/-- the first value of a name, empty when there is none -/
def first (pairs : List (Octets × Octets)) (name : String) : Octets :=
  (pairs.lookup (Octets.ofText name)).getD []

/-- the marks that stand for themselves in a path, beside letters and digits -/
def pathMarks : List Char := ['-', '_', '.', '~', '$', '&', '+', ',', '/', ':', ';', '=', '@']

/-- a path as it is written in an address -/
def escapePath (bs : Octets) : String :=
  String.ofList (bs.flatMap fun b =>
    let c := Char.ofNat b.toNat
    if c.isAlphanum || pathMarks.contains c then [c]
    else '%' :: (Text.hexDigits 2 b.toNat).map Char.toUpper)

end OrderDesk.Http
