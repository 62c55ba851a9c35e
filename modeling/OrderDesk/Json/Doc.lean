import OrderDesk.Text.Octets

/-!
# Documents as they are spelled

* `Doc`           a document whose numbers and strings keep their spelling and whose objects keep
                  every member in order;
* `read?`         the first document of a text and what follows it;
* `readWhole?`    a document that is the whole text, blanks aside;
* `unescape`      the characters that a string spells.

A document nested deeper than `maxDepth` is refused.
-/

namespace OrderDesk.Json

/-- A document as spelled. -/
inductive Doc where
  | null
  | bool (b : Bool)
  | num (spelling : List Char)
  | str (spelling : List Char)
  | arr (items : List Doc)
  | obj (members : List (List Char × Doc))
  deriving Inhabited

/-- the deepest nesting of arrays and objects -/
def maxDepth : Nat := 10000

/-- the blanks between the parts of a document -/
def isSpace (c : Char) : Bool := c == ' ' || c == '\t' || c == '\n' || c == '\r'

/-- what follows the blanks in front -/
def skip (cs : List Char) : List Char := cs.dropWhile isSpace

def hexValue? (c : Char) : Option Nat :=
  if '0' ≤ c ∧ c ≤ '9' then some (c.toNat - 48)
  else if 'a' ≤ c ∧ c ≤ 'f' then some (c.toNat - 87)
  else if 'A' ≤ c ∧ c ≤ 'F' then some (c.toNat - 55)
  else none

/-- the value of four hexadecimal digits -/
def hex4? (a b c d : Char) : Option Nat := do
  some ((← hexValue? a) * 4096 + (← hexValue? b) * 256 + (← hexValue? c) * 16 + (← hexValue? d))

/-- the character that a one-letter escape stands for -/
def escape? (c : Char) : Option Char :=
  if c = '"' ∨ c = '\\' ∨ c = '/' then some c
  else if c = 'b' then some (Char.ofNat 8)
  else if c = 'f' then some (Char.ofNat 12)
  else if c = 'n' then some '\n'
  else if c = 'r' then some '\r'
  else if c = 't' then some '\t'
  else none

/-- the spelling of a string up to its closing quote, and what follows; `acc` holds the
characters read so far, the last one first -/
def readString? (acc : List Char) : List Char → Option (List Char × List Char)
  | [] => none
  | c :: cs =>
    if c = '"' then some (acc.reverse, cs)
    else if c.toNat < 0x20 then none
    else if c = '\\' then
      match cs with
      | [] => none
      | e :: rest =>
        if (escape? e).isSome then readString? (e :: c :: acc) rest
        else if e = 'u' then
          match rest with
          | w :: x :: y :: z :: rest' =>
            if (hex4? w x y z).isSome then readString? (z :: y :: x :: w :: e :: c :: acc) rest'
            else none
          | _ => none
        else none
    else readString? (c :: acc) cs

/-- a run of one or more digits, and what follows -/
def digits? (cs : List Char) : Option (List Char × List Char) :=
  match cs.takeWhile Char.isDigit with
  | [] => none
  | ds => some (ds, cs.dropWhile Char.isDigit)

/-- digits without a zero in front, and what follows -/
def wholePart? : List Char → Option (List Char × List Char)
  | '0' :: rest => some (['0'], rest)
  | cs => digits? cs

/-- an optional point with digits -/
def fractionPart? : List Char → Option (List Char × List Char)
  | '.' :: rest => (digits? rest).map fun (ds, r) => ('.' :: ds, r)
  | cs => some ([], cs)

/-- an optional exponent mark, sign and digits -/
def exponentPart? : List Char → Option (List Char × List Char)
  | c :: rest =>
    if c = 'e' ∨ c = 'E' then
      match rest with
      | s :: rest' =>
        if s = '+' ∨ s = '-' then (digits? rest').map fun (ds, r) => (c :: s :: ds, r)
        else (digits? rest).map fun (ds, r) => (c :: ds, r)
      | [] => none
    else some ([], c :: rest)
  | [] => some ([], [])

/-- the spelling of a number without sign, and what follows -/
def unsigned? (cs : List Char) : Option (List Char × List Char) := do
  let (w, cs) ← wholePart? cs
  let (f, cs) ← fractionPart? cs
  let (e, cs) ← exponentPart? cs
  some (w ++ f ++ e, cs)

/-- the spelling of a number, and what follows -/
def number? : List Char → Option (List Char × List Char)
  | '-' :: rest => (unsigned? rest).map fun (n, r) => ('-' :: n, r)
  | cs => unsigned? cs

/-- what follows a given word -/
def word? : List Char → List Char → Option (List Char)
  | [], cs => some cs
  | w :: ws, c :: cs => if w = c then word? ws cs else none
  | _ :: _, [] => none

mutual

/-- a document at the start of the text, which has no blank in front; `room` is how many levels
may still be opened -/
def value? (fuel room : Nat) (cs : List Char) : Option (Doc × List Char) :=
  match fuel with
  | 0 => none
  | fuel + 1 =>
    match cs with
    | [] => none
    | c :: rest =>
      if c = '"' then (readString? [] rest).map fun (s, r) => (.str s, r)
      else if c = '[' then
        if room = 0 then none
        else
          match skip rest with
          | ']' :: r => some (.arr [], r)
          | r => (items? fuel (room - 1) [] r).map fun (ds, r) => (.arr ds, r)
      else if c = Char.ofNat 0x7B then
        if room = 0 then none
        else
          match skip rest with
          | [] => none
          | d :: r =>
            if d = Char.ofNat 0x7D then some (.obj [], r)
            else (members? fuel (room - 1) [] (d :: r)).map fun (ms, r) => (.obj ms, r)
      else if c = 't' then (word? ['r', 'u', 'e'] rest).map fun r => (.bool true, r)
      else if c = 'f' then (word? ['a', 'l', 's', 'e'] rest).map fun r => (.bool false, r)
      else if c = 'n' then (word? ['u', 'l', 'l'] rest).map fun r => (.null, r)
      else (number? (c :: rest)).map fun (n, r) => (.num n, r)

/-- the rest of an array, from an item on; `acc` holds the items so far, the last one first -/
def items? (fuel room : Nat) (acc : List Doc) (cs : List Char) : Option (List Doc × List Char) :=
  match fuel with
  | 0 => none
  | fuel + 1 =>
    match value? fuel room cs with
    | none => none
    | some (d, rest) =>
      match skip rest with
      | ',' :: r => items? fuel room (d :: acc) (skip r)
      | ']' :: r => some ((d :: acc).reverse, r)
      | _ => none

/-- the rest of an object, from a member name on -/
def members? (fuel room : Nat) (acc : List (List Char × Doc)) (cs : List Char) :
    Option (List (List Char × Doc) × List Char) :=
  match fuel with
  | 0 => none
  | fuel + 1 =>
    match cs with
    | '"' :: rest =>
      match readString? [] rest with
      | none => none
      | some (key, rest) =>
        match skip rest with
        | ':' :: rest =>
          match value? fuel room (skip rest) with
          | none => none
          | some (d, rest) =>
            match skip rest with
            | ',' :: r => members? fuel room ((key, d) :: acc) (skip r)
            | c :: r =>
              if c = Char.ofNat 0x7D then some (((key, d) :: acc).reverse, r) else none
            | [] => none
        | _ => none
    | _ => none

end

/-- The first document of a text, and what follows it. -/
def read? (cs : List Char) : Option (Doc × List Char) :=
  value? (2 * cs.length + 2) maxDepth (skip cs)

/-- The document that is the whole text, blanks aside. -/
def readWhole? (cs : List Char) : Option Doc := do
  let (d, rest) ← read? cs
  if (skip rest).isEmpty then some d else none

/-- the code units that a string spells: one for a character, an escape of four digits for the unit
it names; `acc` holds the units so far, the last one first -/
def codeUnits (acc : List Nat) : List Char → List Nat
  | [] => acc.reverse
  | c :: cs =>
    if c = '\\' then
      match cs with
      | [] => acc.reverse
      | e :: rest =>
        if e = 'u' then
          match rest with
          | w :: x :: y :: z :: rest' => codeUnits ((hex4? w x y z).getD 0 :: acc) rest'
          | _ => acc.reverse
        else codeUnits (((escape? e).getD e).toNat :: acc) rest
    else codeUnits (c.toNat :: acc) cs

/-- the first half of a surrogate pair -/
def isHigh (n : Nat) : Bool := 0xD800 ≤ n && n < 0xDC00

/-- the second half of a surrogate pair -/
def isLow (n : Nat) : Bool := 0xDC00 ≤ n && n < 0xE000

/-- a code unit on its own; half a pair is U+FFFD -/
def soleUnit (n : Nat) : Char := if isHigh n || isLow n then Char.ofNat 0xFFFD else Char.ofNat n

/-- the characters of a list of code units, two halves of a pair taken together -/
def joinUnits (acc : List Char) : List Nat → List Char
  | [] => acc.reverse
  | [n] => (soleUnit n :: acc).reverse
  | n :: m :: rest =>
    if isHigh n && isLow m then
      joinUnits (Char.ofNat (0x10000 + (n - 0xD800) * 0x400 + (m - 0xDC00)) :: acc) rest
    else joinUnits (soleUnit n :: acc) (m :: rest)

/-- The text that a string spells. -/
def unescape (spelling : List Char) : String :=
  String.ofList (joinUnits [] (codeUnits [] spelling))

end OrderDesk.Json
