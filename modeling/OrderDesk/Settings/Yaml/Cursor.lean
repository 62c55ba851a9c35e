/-!
# A place in the text of a settings file

* `isBreak`, `isBlank`      ends of lines, blanks inside them;
* `isAllowed`               the characters that a file may hold at all;
* `Cursor`                  what is left to read, and where that is;
* `Cursor.skip`             past one character of a line;
* `Cursor.lineEnd?`         past one end of a line;
* `Cursor.blanks`           past blanks;
* `Cursor.comment`          past the rest of a line.
-/

namespace OrderDesk.Settings.Yaml

/-- an end of a line: line feed, carriage return, next line, line or paragraph separator -/
def isBreak (c : Char) : Bool :=
  c == '\n' || c == '\r' || c.toNat == 0x85 || c.toNat == 0x2028 || c.toNat == 0x2029

def isBlank (c : Char) : Bool := c == ' ' || c == '\t'

/-- the characters of names: letters, digits, underscore and hyphen -/
def isWord (c : Char) : Bool := c.isAlphanum || c == '_' || c == '-'

/-- the characters that a file may hold: no control characters but tabs and ends of lines -/
def isAllowed (c : Char) : Bool :=
  let n := c.toNat
  n == 9 || n == 10 || n == 13 || (0x20 ≤ n && n ≤ 0x7E) || n == 0x85 || (0xA0 ≤ n && n ≤ 0xD7FF) ||
    (0xE000 ≤ n && n ≤ 0xFFFD) || 0x10000 ≤ n

/-- A place in a text: what is left, how many characters and lines lie before it, its column, and
whether only blanks lie between it and the last end of a line that was read. -/
structure Cursor where
  rest : List Char
  index : Nat := 0
  line : Nat := 0
  column : Nat := 0
  fresh : Bool := false
  deriving Inhabited

namespace Cursor

def peek? (c : Cursor) : Option Char := c.rest.head?

def sees (c : Cursor) (ch : Char) : Bool := c.rest.head? == some ch

def atBlank (c : Cursor) : Bool := c.rest.head?.any isBlank

/-- is an end of a line next -/
def atBreak (c : Cursor) : Bool := c.rest.head?.any isBreak

def atLineEnd (c : Cursor) : Bool := c.rest.head?.all isBreak

/-- does a list start with a blank, an end of a line, or end itself -/
def isGap (cs : List Char) : Bool := cs.head?.all fun c => isBlank c || isBreak c

def skip (c : Cursor) : Cursor :=
  match c.rest with
  | [] => c
  | ch :: rest =>
    { rest, index := c.index + 1, line := c.line, column := c.column + 1,
      fresh := c.fresh && isBlank ch }

/-- past a number of characters of a line -/
def skips : Nat → Cursor → Cursor
  | 0, c => c
  | n + 1, c => skips n c.skip

/-- One end of a line, as the character it counts for, and the place after it. A carriage return
with a line feed is one end. -/
def lineEnd? (c : Cursor) : Option (Char × Cursor) :=
  let next := fun (n : Nat) (rest : List Char) =>
    { rest, index := c.index + n, line := c.line + 1, column := 0, fresh := true : Cursor }
  match c.rest with
  | '\r' :: '\n' :: rest => some ('\n', next 2 rest)
  | ch :: rest =>
    if ch.toNat == 0x2028 || ch.toNat == 0x2029 then some (ch, next 1 rest)
    else if isBreak ch then some ('\n', next 1 rest)
    else none
  | [] => none

/-- past an end of a line, if one is next -/
def skipLine (c : Cursor) : Cursor :=
  match c.lineEnd? with
  | some (_, c) => c
  | none => c

/-- past the characters that satisfy a test, none of which ends a line -/
def skipWhile (p : Char → Bool) (c : Cursor) : Cursor := c.skips (c.rest.takeWhile p).length

def blanks (c : Cursor) : Cursor := c.skipWhile isBlank

def comment (c : Cursor) : Cursor := c.skipWhile (!isBreak ·)

/-- Three hyphens or three points at the start of a line, alone: the marks between documents. -/
def atDocumentMark (mark : Char) (c : Cursor) : Bool :=
  c.column == 0 &&
    match c.rest with
    | x :: y :: z :: rest => x == mark && y == mark && z == mark && isGap rest
    | _ => false

/-- does a mark between documents stand here -/
def atBoundary (c : Cursor) : Bool := c.atDocumentMark '-' || c.atDocumentMark '.'

end Cursor

end OrderDesk.Settings.Yaml
