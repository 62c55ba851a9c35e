import OrderDesk.Number.Literal
import OrderDesk.Settings.Yaml.Cursor

/-!
# Scalars of a settings file

A scalar may go on over several lines. Between two lines of a plain or quoted scalar a single end of
a line counts as a blank, and of several the first is dropped; a block of text says in its header
how its lines are joined and what happens to the ends of lines after it.

* `Gap`             blanks and ends of lines inside a scalar, and what they count for;
* `quoted?`         a quoted scalar;
* `plain?`          a plain scalar;
* `BlockHeader`     how a block of text is read;
* `block?`          a block of text.

Each reader gives the characters and the place after them, `none` for a broken scalar. Fuel of twice
the characters that are left, and a few more, is enough for each.
-/

namespace OrderDesk.Settings.Yaml

/-- Blanks and ends of lines between two parts of a scalar: the blanks as long as no line has ended,
the first end of a line and the further ones, all in reading order. An escaped end of a line leaves
no `first` but starts a new line. -/
structure Gap where
  blanks : List Char := []
  first : Option Char := none
  more : List Char := []
  newLine : Bool := false
  deriving Inhabited

namespace Gap

/-- What a gap counts for: its blanks, or its ends of lines, of which a single line feed is a blank
and the first of several is dropped. -/
def text (g : Gap) : List Char :=
  if g.newLine then
    match g.first with
    | some '\n' => if g.more.isEmpty then [' '] else g.more
    | some c => c :: g.more
    | none => g.more
  else g.blanks

def push (g : Gap) (c : Char) : Gap :=
  if g.newLine then { g with more := g.more ++ [c] }
  else { blanks := [], first := some c, more := g.more, newLine := true }

/-- Reads blanks and ends of lines; a tab in a line that is not yet `indent` deep is refused. -/
def read? (indent : Nat) : Nat → Gap → Cursor → Option (Gap × Cursor)
  | 0, _, _ => none
  | fuel + 1, g, c =>
    match c.peek? with
    | none => some (g, c)
    | some ch =>
      if isBlank ch then
        if g.newLine then
          if c.column < indent && ch == '\t' then none else read? indent fuel g c.skip
        else read? indent fuel { g with blanks := g.blanks ++ [ch] } c.skip
      else
        match c.lineEnd? with
        | some (b, c') => read? indent fuel (g.push b) c'
        | none => some (g, c)

end Gap

def escape? (c : Char) : Option Char :=
  match c with
  | '0' => some (Char.ofNat 0)
  | 'a' => some (Char.ofNat 7)
  | 'b' => some (Char.ofNat 8)
  | 't' | '\t' => some '\t'
  | 'n' => some '\n'
  | 'v' => some (Char.ofNat 11)
  | 'f' => some (Char.ofNat 12)
  | 'r' => some '\r'
  | 'e' => some (Char.ofNat 27)
  | ' ' | '"' | '\'' | '\\' => some c
  | 'N' => some (Char.ofNat 0x85)
  | '_' => some (Char.ofNat 0xA0)
  | 'L' => some (Char.ofNat 0x2028)
  | 'P' => some (Char.ofNat 0x2029)
  | _ => none

/-- the number of digits that a letter of an escape asks for -/
def codeLength? (c : Char) : Option Nat :=
  match c with
  | 'x' => some 2
  | 'u' => some 4
  | 'U' => some 8
  | _ => none

/-- the character of a code in base sixteen, none for a surrogate and beyond the last one -/
def codeChar? (cs : List Char) : Option Char := do
  let n ← Literal.digitsIn? 16 cs
  if (0xD800 ≤ n ∧ n ≤ 0xDFFF) ∨ 0x10FFFF < n then none else some (Char.ofNat n)

/-- one escape after its backslash, and the place after it -/
def escaped? (c : Cursor) : Option (Char × Cursor) := do
  let letter ← c.peek?
  match codeLength? letter with
  | some n =>
    let digits := (c.rest.drop 1).take n
    if digits.length = n then some (← codeChar? digits, c.skips (n + 1)) else none
  | none => some (← escape? letter, c.skip)

/-- How a run of characters without blanks ended: at the closing quote, at a gap, or at an escaped
end of a line. -/
inductive RunEnd where
  | closed
  | gap
  | escapedBreak

/-- characters of a quoted scalar up to a blank, an end of a line or the closing quote -/
def quotedRun? (single : Bool) :
    Nat → List Char → Cursor → Option (List Char × RunEnd × Cursor)
  | 0, _, _ => none
  | fuel + 1, acc, c =>
    match c.rest with
    | [] => some (acc, .gap, c)
    | ch :: rest =>
      if isBlank ch || isBreak ch then some (acc, .gap, c)
      else if single then
        if ch = '\'' then
          if rest.head? = some '\'' then quotedRun? single fuel ('\'' :: acc) c.skip.skip
          else some (acc, .closed, c)
        else quotedRun? single fuel (ch :: acc) c.skip
      else if ch = '"' then some (acc, .closed, c)
      else if ch = '\\' then
        if rest.head?.any isBreak then some (acc, .escapedBreak, c.skip.skipLine)
        else
          match escaped? c.skip with
          | some (d, c') => quotedRun? single fuel (d :: acc) c'
          | none => none
      else quotedRun? single fuel (ch :: acc) c.skip

/-- A quoted scalar after its opening quote. A mark between documents and the end of the file are
refused inside. -/
def quotedRest? (single : Bool) : Nat → List Char → Cursor → Option (List Char × Cursor)
  | 0, _, _ => none
  | fuel + 1, acc, c => do
    if c.atBoundary || c.rest.isEmpty then none
    else
      let (acc, ending, c) ← quotedRun? single fuel acc c
      let go := fun (g : Gap) => do
        let (g, c) ← Gap.read? 0 fuel g c
        quotedRest? single fuel (g.text.reverse ++ acc) c
      match ending with
      | .closed => some (acc.reverse, c.skip)
      | .gap => go {}
      | .escapedBreak => go { newLine := true }

/-- a quoted scalar, at its opening quote -/
def quoted? (fuel : Nat) (single : Bool) (c : Cursor) : Option (List Char × Cursor) :=
  quotedRest? single fuel [] c.skip

/-- does a plain scalar end before these characters -/
def endsPlain (inFlow : Bool) : List Char → Bool
  | ':' :: rest => Cursor.isGap rest
  | c :: _ => inFlow && (c == ',' || c == '?' || c == '[' || c == ']' || c.toNat == 0x7B ||
      c.toNat == 0x7D)
  | [] => true

/-- characters of a plain scalar up to a blank, an end of a line or a mark that ends it -/
def plainRun (inFlow : Bool) : Nat → List Char → Cursor → List Char × Cursor
  | 0, acc, c => (acc, c)
  | fuel + 1, acc, c =>
    match c.rest with
    | [] => (acc, c)
    | ch :: _ =>
      if isBlank ch || isBreak ch || endsPlain inFlow c.rest then (acc, c)
      else plainRun inFlow fuel (ch :: acc) c.skip

/-- A plain scalar after `acc` and a gap: its characters, whether a new line was started after the
last of them, and the place after the blanks that follow. -/
def plainRest? (inFlow : Bool) (indent : Nat) :
    Nat → List Char → Gap → Cursor → Option (List Char × Bool × Cursor)
  | 0, _, _, _ => none
  | fuel + 1, acc, g, c =>
    if c.atBoundary || c.sees '#' then some (acc.reverse, g.newLine, c)
    else
      let (run, c) := plainRun inFlow fuel [] c
      let (acc, g) := if run.isEmpty then (acc, g) else (run ++ g.text.reverse ++ acc, {})
      if c.atBlank || c.atBreak then
        match Gap.read? indent fuel g c with
        | none => none
        | some (g, c) =>
          if !inFlow && c.column < indent then some (acc.reverse, g.newLine, c)
          else plainRest? inFlow indent fuel acc g c
      else some (acc.reverse, g.newLine, c)

/-- a plain scalar; its further lines are at least `indent` deep outside of brackets -/
def plain? (fuel : Nat) (inFlow : Bool) (indent : Nat) (c : Cursor) :
    Option (List Char × Bool × Cursor) :=
  plainRest? inFlow indent fuel [] {} c

/-- What happens to the ends of lines after a block of text. -/
inductive Chomp where
  | clip
  | strip
  | keep
  deriving DecidableEq, Repr

/-- How a block of text is read: are its lines joined, what happens to the ends of lines after it,
and how much deeper than its parent it is, when that is said. -/
structure BlockHeader where
  chomp : Chomp := .clip
  depth : Option Nat := none
  deriving Inhabited

/-- the mark for the ends of lines after a block -/
def chompMark? (c : Cursor) : Option Chomp :=
  if c.sees '+' then some .keep else if c.sees '-' then some .strip else none

/-- the mark for the depth of a block: a digit; `none` for zero, `some none` for no digit -/
def depthMark? (c : Cursor) : Option (Option Nat) :=
  match c.peek? with
  | some ch =>
    if ch.isDigit then (if ch = '0' then none else some (some (ch.toNat - 48))) else some none
  | none => some none

/-- the marks of a block after its first character, in either order -/
def blockHeader? (c : Cursor) : Option (BlockHeader × Cursor) := do
  match chompMark? c with
  | some chomp =>
    match ← depthMark? c.skip with
    | some d => some (⟨chomp, some d⟩, c.skip.skip)
    | none => some (⟨chomp, none⟩, c.skip)
  | none =>
    match ← depthMark? c with
    | some d =>
      match chompMark? c.skip with
      | some chomp => some (⟨chomp, some d⟩, c.skip.skip)
      | none => some (⟨.clip, some d⟩, c.skip)
    | none => some ({}, c)

/-- Indentation and empty lines inside a block: the ends of lines, how deep the deepest line was,
and the place of the next line that holds something. Depth zero stands for one not yet known; a tab
in the indentation is refused. -/
def blockBreaks? (depth : Nat) :
    Nat → (most : Nat) → List Char → Cursor → Option (Nat × List Char × Cursor)
  | 0, _, _, _ => none
  | fuel + 1, most, breaks, c =>
    let spaces := (c.rest.takeWhile (· == ' ')).length
    let c := c.skips (if depth = 0 then spaces else min spaces (depth - c.column))
    let most := max most c.column
    if (depth = 0 || c.column < depth) && c.sees '\t' then none
    else
      match c.lineEnd? with
      | some (b, c) => blockBreaks? depth fuel most (breaks ++ [b]) c
      | none => some (most, breaks, c)

/-- The lines of a block at `depth`: `lead` is the end of the last line, `breaks` the ends of the
empty lines since, and `wasBlank` says whether the last line started with a blank. -/
def blockLines? (folded : Bool) (chomp : Chomp) (depth : Nat) :
    Nat → (acc lead breaks : List Char) → (wasBlank : Bool) → Cursor → Option (List Char × Cursor)
  | 0, _, _, _, _, _ => none
  | fuel + 1, acc, lead, breaks, wasBlank, c =>
    if c.column = depth && !c.rest.isEmpty then
      let blank := c.atBlank
      let between :=
        if folded && !wasBlank && !blank && lead == ['\n'] then
          (if breaks.isEmpty then [' '] else [])
        else lead
      let line := c.rest.takeWhile (!isBreak ·)
      let c := c.comment
      let (lead, c) := match c.lineEnd? with
        | some (b, c) => ([b], c)
        | none => ([], c)
      match blockBreaks? depth fuel 0 [] c with
      | none => none
      | some (_, breaks', c) =>
        blockLines? folded chomp depth fuel
          (line.reverse ++ breaks.reverse ++ between.reverse ++ acc) lead breaks' blank c
    else
      let tail := match chomp with
        | .strip => []
        | .clip => lead
        | .keep => lead ++ breaks
      some (acc.reverse ++ tail, c)

/-- The rest of a header line: blanks and a comment. -/
def headerEnd? (c : Cursor) : Option Cursor :=
  let c := c.blanks
  let c := if c.sees '#' then c.comment else c
  if c.atLineEnd then some c.skipLine else none

/-- A block of text, at its first character, inside a block that is `parent` deep. Without a depth
of its own it is as deep as the deepest of its first empty lines or its first line. -/
def block? (fuel : Nat) (folded : Bool) (parent : Int) (c : Cursor) :
    Option (List Char × Cursor) := do
  let (header, c) ← blockHeader? c.skip
  let c ← headerEnd? c
  let known := match header.depth with
    | some d => (max parent 0).toNat + d
    | none => 0
  let (most, breaks, c) ← blockBreaks? known fuel 0 [] c
  let depth := if known = 0 then max most (max (parent + 1).toNat 1) else known
  blockLines? folded header.chomp depth fuel [] [] breaks false c

end OrderDesk.Settings.Yaml
