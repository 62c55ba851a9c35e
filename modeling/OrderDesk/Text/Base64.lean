import OrderDesk.Text.Octets

/-!
# Base 64

Two alphabets: the standard one, written with padding, and the one safe in web addresses,
written without.

* `encode`       the standard form, with padding;
* `encodeUrl`    the address form, without padding;
* `decode?`      reads the standard form;
* `decodeUrl?`   reads the address form; line ends between the letters are skipped and the
                 unused bits of the last letter are free.
-/

namespace OrderDesk.Base64

/-- the letter of a six-bit number; `p` and `q` are the last two letters of the alphabet -/
def letter (p q : Char) (n : Nat) : Char :=
  if n < 26 then Char.ofNat (65 + n)
  else if n < 52 then Char.ofNat (71 + n)
  else if n < 62 then Char.ofNat (n - 4)
  else if n = 62 then p else q

def value? (p q c : Char) : Option Nat :=
  if 'A' ≤ c ∧ c ≤ 'Z' then some (c.toNat - 65)
  else if 'a' ≤ c ∧ c ≤ 'z' then some (c.toNat - 71)
  else if '0' ≤ c ∧ c ≤ '9' then some (c.toNat + 4)
  else if c = p then some 62
  else if c = q then some 63
  else none

/-- the letters of an octet list, `pad` after an incomplete last group -/
def encodeWith (p q : Char) (pad : List Char) : Octets → List Char
  | [] => []
  | [a] =>
    let n := a.toNat * 16
    [letter p q (n / 64), letter p q (n % 64)] ++ pad ++ pad
  | [a, b] =>
    let n := (a.toNat * 256 + b.toNat) * 4
    [letter p q (n / 4096), letter p q (n / 64 % 64), letter p q (n % 64)] ++ pad
  | a :: b :: c :: rest =>
    let n := a.toNat * 65536 + b.toNat * 256 + c.toNat
    letter p q (n / 262144) :: letter p q (n / 4096 % 64) :: letter p q (n / 64 % 64) ::
      letter p q (n % 64) :: encodeWith p q pad rest

/-- the octets of a list of six-bit numbers, `none` when one letter is left alone -/
def octets? : List Nat → Option Octets
  | [] => some []
  | [_] => none
  | [a, b] => some [UInt8.ofNat ((a * 64 + b) / 16)]
  | [a, b, c] =>
    let n := (a * 4096 + b * 64 + c) / 4
    some [UInt8.ofNat (n / 256), UInt8.ofNat (n % 256)]
  | a :: b :: c :: d :: rest =>
    let n := a * 262144 + b * 4096 + c * 64 + d
    (octets? rest).map fun bs =>
      UInt8.ofNat (n / 65536) :: UInt8.ofNat (n / 256 % 256) :: UInt8.ofNat (n % 256) :: bs

/-- standard alphabet, with padding -/
def encode (bs : Octets) : String := String.ofList (encodeWith '+' '/' ['='] bs)

/-- address alphabet, without padding -/
def encodeUrl (bs : Octets) : String := String.ofList (encodeWith '-' '_' [] bs)

def decode? (s : String) : Option Octets := do
  let cs := s.toList.filter fun c => c != '\n' && c != '\r'
  let body := cs.reverse.dropWhile (· == '=') |>.reverse
  if cs.length % 4 != 0 || cs.length - body.length > 2 then none
  else octets? (← body.mapM (value? '+' '/'))

def decodeUrl? (s : String) : Option Octets := do
  octets? (← (s.toList.filter fun c => c != '\n' && c != '\r').mapM (value? '-' '_'))

end OrderDesk.Base64
