import OrderDesk.Number.Binary64

/-!
# Number literals

Numbers as settings spell them: an optional sign, a base mark, underscores between digits, a point,
an exponent.

* `underscoresOk`    underscores stand between digits, or between a base mark and a digit;
* `natural?`         a whole number without a sign, in the base that its mark names;
* `whole?`           a whole number with an optional sign, within 64 bits;
* `wholeIn?`         a whole number with an optional sign in a given base, within 64 bits;
* `Real64`           a number of 64 bits that may be infinite or undefined;
* `Real64.parse?`    reads one, in decimal or in base sixteen with a binary exponent.
-/

namespace OrderDesk

namespace Literal

/-- the value of a digit or of a letter, which counts on from ten -/
def digitValue? (c : Char) : Option Nat :=
  if '0' ≤ c ∧ c ≤ '9' then some (c.toNat - 48)
  else if 'a' ≤ c ∧ c ≤ 'z' then some (c.toNat - 87)
  else if 'A' ≤ c ∧ c ≤ 'Z' then some (c.toNat - 55)
  else none

def isDigitIn (base : Nat) (c : Char) : Bool := (digitValue? c).any (· < base)

/-- the value of digits in a base, zero for none -/
def digitsIn? (base : Nat) (cs : List Char) : Option Nat :=
  cs.foldlM (fun n c => do
    let d ← digitValue? c
    if d < base then some (n * base + d) else none) 0

/-- The base that a letter after a zero names. -/
def markedBase? (c : Char) : Option Nat :=
  if c = 'b' ∨ c = 'B' then some 2
  else if c = 'o' ∨ c = 'O' then some 8
  else if c = 'x' ∨ c = 'X' then some 16
  else none

/-- What stood before a character of a number. -/
inductive Before where
  | start
  | digit
  | underscore
  | other
  deriving DecidableEq, Repr

/-- each underscore has a digit on both sides -/
def separated (base : Nat) : Before → List Char → Bool
  | b, [] => b != .underscore
  | b, c :: cs =>
    if isDigitIn base c then separated base .digit cs
    else if c = '_' then b == .digit && separated base .underscore cs
    else b != .underscore && separated base .other cs

/-- Underscores stand between digits, or between a base mark and a digit. -/
def underscoresOk (cs : List Char) : Bool :=
  match (Word.splitSign cs).2 with
  | '0' :: m :: rest =>
    match markedBase? m with
    | some base => separated (max base 10) .digit rest
    | none => separated 10 .start ('0' :: m :: rest)
  | cs => separated 10 .start cs

/-- The base of a number and its digits. A base mark needs something after it; a zero in front of
anything else stands for base eight. -/
def splitBase : List Char → Nat × List Char
  | '0' :: m :: d :: rest =>
    match markedBase? m with
    | some base => (base, d :: rest)
    | none => (8, m :: d :: rest)
  | '0' :: rest => (8, rest)
  | cs => (10, cs)

/-- A whole number without a sign, in the base that its mark names. -/
def natural? (cs : List Char) : Option Nat :=
  if cs.isEmpty then none
  else
    let (base, ds) := splitBase cs
    if ds.contains '_' && !underscoresOk cs then none
    else digitsIn? base (ds.filter (· != '_'))

/-- a number with its sign, if it fits 64 bits -/
def signed? (neg : Bool) (n : Nat) : Option Int :=
  let v : Int := if neg then -n else n
  if Word.InRange v then some v else none

/-- A whole number with an optional sign and base mark, within 64 bits. -/
def whole? (cs : List Char) : Option Int :=
  let (neg, ds) := Word.splitSign cs
  (natural? ds).bind (signed? neg)

/-- A whole number with an optional sign in a given base, within 64 bits. -/
def wholeIn? (base : Nat) (cs : List Char) : Option Int :=
  let (neg, ds) := Word.splitSign cs
  if ds.isEmpty then none else (digitsIn? base ds).bind (signed? neg)

end Literal

/-- A number of 64 bits that may be infinite or undefined. -/
inductive Real64 where
  | finite (x : Binary64)
  | infinite (neg : Bool)
  | undefined
  deriving DecidableEq, Repr, Inhabited

namespace Real64

open Literal

/-- the digits of a number before its exponent: those before the point, those after it, and the
rest; underscores are passed over, and a second point ends them -/
def mantissa (base : Nat) : (point : Bool) → List Char → List Char × List Char × List Char
  | _, [] => ([], [], [])
  | point, c :: cs =>
    if c = '_' then mantissa base point cs
    else if c = '.' && !point then
      let (w, f, r) := mantissa base true cs
      (w, f, r)
    else if isDigitIn base c then
      let (w, f, r) := mantissa base point cs
      if point then (w, c :: f, r) else (c :: w, f, r)
    else ([], [], c :: cs)

/-- An exponent after its letter: an optional sign, then digits, the first of which is no
underscore. It fills the rest of the text. -/
def exponent? (cs : List Char) : Option Int :=
  let (neg, ds) := Word.splitSign cs
  if !ds.head?.any Char.isDigit then none
  else
    (Word.ofDigits? (ds.filter (· != '_'))).map fun n => if neg then -(n : Int) else n

/-- The nearest number of `n · 2 ^ e`. Exponents far outside the range are not spelled out. -/
def ofBinary? (neg : Bool) (n : Nat) (e : Int) : Option Binary64 :=
  let size : Int := n.log2 + e
  if n = 0 ∨ size < -1200 then some ⟨neg, 0, -1074⟩
  else if 1100 < size then none
  else if 0 ≤ e then Binary64.ofRatio? neg (n * Nat.pow 2 e.toNat) 1
  else Binary64.ofRatio? neg n (Nat.pow 2 (-e).toNat)

/-- a finite number without its sign: in base ten, or in base sixteen with a binary exponent that
must be there -/
def magnitude? (neg : Bool) (cs : List Char) : Option Binary64 :=
  let hex := match cs with
    | '0' :: m :: _ :: _ => m == 'x' || m == 'X'
    | _ => false
  let base := if hex then 16 else 10
  let (w, f, rest) := mantissa base false (if hex then cs.drop 2 else cs)
  if w.isEmpty && f.isEmpty then none
  else do
    let n ← digitsIn? base (w ++ f)
    let isMark := fun c => if hex then c == 'p' || c == 'P' else c == 'e' || c == 'E'
    let e : Int ← match rest with
      | [] => if hex then none else some 0
      | c :: ds => if isMark c then exponent? ds else none
    if hex then ofBinary? neg n (e - 4 * f.length) else Binary64.ofDecimal? neg n (e - f.length)

def smallLetters (cs : List Char) : String :=
  String.ofList (cs.map fun c => if 'A' ≤ c ∧ c ≤ 'Z' then Char.ofNat (c.toNat + 32) else c)

/-- Reads a number: the names of the infinite and the undefined one in any letter case, or digits.
`none` for another text, and for a number greater than every finite one. -/
def parse? (cs : List Char) : Option Real64 :=
  let (neg, body) := Word.splitSign cs
  if ["inf", "infinity"].contains (smallLetters body) then some (.infinite neg)
  else if smallLetters cs = "nan" then some .undefined
  else if cs.contains '_' && !underscoresOk cs then none
  else (magnitude? neg body).map .finite

end Real64

end OrderDesk
