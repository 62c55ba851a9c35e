import OrderDesk.Text.Quoted

/-!
# Numbered identifiers

Every identifier is made from a count, so that a run can be repeated.

* `Uuid.octets`       the sixteen octets of the `n`-th identifier, marked as random ones;
* `Uuid.text`         the hyphenated form;
* `Uuid.Source`       where the next one comes from.
-/

namespace OrderDesk.Uuid

/-- the `i`-th of the sixteen octets of the `n`-th identifier, before the marks -/
def rawOctet (n i : Nat) : Nat :=
  if i = 0 then (0xA5 + n / 256) % 256 else (n * (2 * i + 31) + 7 * i + 0xA5) % 256

/-- an octet with the marks of version and variant -/
def octet (n i : Nat) : Nat :=
  let b := rawOctet n i
  if i = 6 then b % 16 + 0x40 else if i = 8 then b % 64 + 0x80 else b

/-- the sixteen octets of the `n`-th identifier -/
def octets (n : Nat) : List Nat := (List.range 16).map (octet n)

/-- the hexadecimal digits of the `n`-th identifier -/
def hex (n : Nat) : List Char := (octets n).flatMap fun b => Text.hexDigits 2 b

def text (n : Nat) : String :=
  let h := hex n
  "-".intercalate ([(0, 8), (8, 4), (12, 4), (16, 4), (20, 12)].map fun (start, len) =>
    String.ofList ((h.drop start).take len))

/-- Where the next identifier comes from: a count, which may stand still. -/
structure Source where
  next : Nat := 0
  still : Bool := false
  deriving DecidableEq, Repr, Inhabited

/-- the count of the next identifier, and the source after it -/
def Source.take (s : Source) : Nat × Source :=
  if s.still then (0, s) else (s.next, { s with next := s.next + 1 })

end OrderDesk.Uuid
