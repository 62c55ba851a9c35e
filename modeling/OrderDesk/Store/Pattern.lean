import OrderDesk.Text.Case

/-!
# Text functions of the embedded engine

They know letters of ASCII only. A match ends at the first NUL, and so does the comparison in an
index without case; the lower case does not.

* `folded`      a text in lower case;
* `like`        does a text match a pattern, where `%` is any text and `_` any character;
* `sameName`    equality of names in a unique index that ignores case.
-/

namespace OrderDesk.Store

/-- the characters before the first NUL -/
def untilNul (cs : List Char) : List Char := cs.takeWhile (· != '\x00')

/-- a text in lower case, with whatever follows a NUL -/
def folded (s : String) : List Char := s.toList.map Text.asciiLowerChar

/-- a text and what is left of it after one character, two and so on -/
def suffixes : List Char → List (List Char)
  | [] => [[]]
  | c :: cs => (c :: cs) :: suffixes cs

/-- Every text that may still follow, longest first, after one more character of the pattern: a
`%` lets any number of characters pass. -/
def step (rests : List (List Char)) (p : Char) : List (List Char) :=
  if p = '%' then
    match rests with
    | [] => []
    | longest :: _ => suffixes longest
  else rests.filterMap fun
    | [] => none
    | c :: cs => if p = '_' ∨ Text.asciiLowerChar c = Text.asciiLowerChar p then some cs else none

/-- does a text match a pattern as a whole -/
def like (pattern text : String) : Bool :=
  ((untilNul pattern.toList).foldl step [untilNul text.toList]).any List.isEmpty

/-- the greatest number of octets in a pattern -/
def patternLimit : Nat := 50000

/-- the part of a name that an index without case looks at: up to the first NUL, which counts -/
def indexed : List Char → List Char
  | [] => []
  | c :: cs => if c = '\x00' then [c] else Text.asciiLowerChar c :: indexed cs

/-- are two names one entry of an index without case -/
def sameName (a b : String) : Bool :=
  a.utf8ByteSize = b.utf8ByteSize ∧ indexed a.toList = indexed b.toList

end OrderDesk.Store
