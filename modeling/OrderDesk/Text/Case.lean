import OrderDesk.Text.CaseTable

/-!
# Letter case, one character at a time

Each character is mapped on its own by its simple case form, so a text keeps its number of
characters.

* `upper`, `lower`              whole texts;
* `asciiLower`                  the letters `A` to `Z` only;
* `foldKey`                     the form in which two member names are compared.
-/

namespace OrderDesk.Text

/-- the distance from `n` to its other-case form, zero when no run holds `n` -/
def caseShift : List CaseRun → Nat → Int
  | [], _ => 0
  | (first, last, step, shift) :: runs, n =>
    if first ≤ n ∧ n ≤ last then (if (n - first) % step = 0 then shift else 0)
    else caseShift runs n

def upperChar (c : Char) : Char :=
  let n := c.toNat
  if n < 0x80 then (if 0x61 ≤ n ∧ n ≤ 0x7A then Char.ofNat (n - 32) else c)
  else Char.ofNat (n + caseShift upperRuns n).toNat

def lowerChar (c : Char) : Char :=
  let n := c.toNat
  if n < 0x80 then (if 0x41 ≤ n ∧ n ≤ 0x5A then Char.ofNat (n + 32) else c)
  else Char.ofNat (n + caseShift lowerRuns n).toNat

/-- lower case of the ASCII letters, every other character unchanged -/
def asciiLowerChar (c : Char) : Char :=
  if 'A' ≤ c ∧ c ≤ 'Z' then Char.ofNat (c.toNat + 32) else c

def upper (s : String) : String := String.ofList (s.toList.map upperChar)

def lower (s : String) : String := String.ofList (s.toList.map lowerChar)

def asciiLower (s : String) : String := String.ofList (s.toList.map asciiLowerChar)

/-- The form in which member names are compared: ASCII letters without case, and the two other
characters that fold to an ASCII letter, the long s and the Kelvin sign. -/
def foldKeyChar (c : Char) : Char :=
  if c.toNat = 0x17F then 'S' else if c.toNat = 0x212A then 'K'
  else if 'a' ≤ c ∧ c ≤ 'z' then Char.ofNat (c.toNat - 32) else c

/-- A name in the form in which names are compared. -/
def foldKey (s : String) : String := String.ofList (s.toList.map foldKeyChar)

end OrderDesk.Text
