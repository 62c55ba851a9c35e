import OrderDesk.Settings.Yaml.Scalar
import OrderDesk.Text.Octets

/-!
# Tokens of a settings file

Indentation becomes tokens that open and close blocks. A key is recognised by the colon after it:
a place where a key may start is kept until the colon is found, on the same line and not more than
1024 characters on.

* `Token`              the words of a file;
* `PossibleKey`        a place where a key may have started;
* `Scanner`            the file so far: tokens not yet taken, open blocks and brackets;
* `Scanner.fetch?`     reads on to the next token;
* `Scanner.peek?`      the next token, with as many read ahead as it takes to tell keys;
* `Scanner.take`       without that token.

A broken file gives `none`, and only what was read so far can be found broken.
-/

namespace OrderDesk.Settings.Yaml

/-- A word of a settings file. -/
inductive Token where
  | fileStart
  | fileEnd
  | version (major minor : Nat)
  | tagHandle (handle expansion : List Char)
  | documentStart
  | documentEnd
  | blockList
  | blockMap
  | blockEnd
  | openList
  | closeList
  | openMap
  | closeMap
  | item
  | comma
  | key
  | value
  | alias (name : String)
  | anchor (name : String)
  | tag (handle suffix : List Char)
  | scalar (plain : Bool) (text : String)
  deriving DecidableEq, Repr, Inhabited

/-- A place where a key may have started: the number of its first token, whether the block needs a
key there, and where it is. -/
structure PossibleKey where
  required : Bool
  number : Nat
  index : Nat
  line : Nat
  column : Nat
  deriving DecidableEq, Repr

/-- A file that is being read. `taken` counts the tokens that are gone from the queue, `indent` is
the column of the innermost block, `level` counts open brackets, and `keys` has a possible key for
each level, the innermost first. `fuel` is enough for any reader of the file. -/
structure Scanner where
  here : Cursor
  fuel : Nat
  queue : List Token := [.fileStart]
  taken : Nat := 0
  indent : Int := -1
  indents : List Int := []
  level : Nat := 0
  keys : List (Option PossibleKey) := [none]
  keyAllowed : Bool := true
  deriving Inhabited

namespace Scanner

/-- how deep blocks and brackets may be nested -/
def maxDepth : Nat := 10000

/-- a token at the end of the queue -/
def push (s : Scanner) (t : Token) : Scanner := { s with queue := s.queue ++ [t] }

/-- a token before the one of a number -/
def insert (s : Scanner) (number : Nat) (t : Token) : Scanner :=
  let n := number - s.taken
  { s with queue := s.queue.take n ++ t :: s.queue.drop n }

/-- the possible key of the innermost level -/
def key? (s : Scanner) : Option PossibleKey := s.keys.head?.join

/-- the scanner with another possible key on the innermost level -/
def setKey (s : Scanner) (k : Option PossibleKey) : Scanner := { s with keys := k :: s.keys.drop 1 }

/-- gives up the possible key, which the block must not need -/
def dropKey? (s : Scanner) : Option Scanner :=
  match s.key? with
  | some k => if k.required then none else some (s.setKey none)
  | none => some s

/-- can a colon here still belong to a possible key -/
def reaches (s : Scanner) (k : PossibleKey) : Bool :=
  s.here.line ≤ k.line && s.here.index ≤ k.index + 1024

/-- notes that a key may start here -/
def saveKey? (s : Scanner) : Option Scanner :=
  if s.keyAllowed then do
    let s ← s.dropKey?
    some (s.setKey (some {
      required := s.level == 0 && s.indent == s.here.column
      number := s.taken + s.queue.length
      index := s.here.index
      line := s.here.line
      column := s.here.column }))
  else some s

/-- closes the blocks that are deeper than a column -/
def unroll (s : Scanner) (column : Int) : Scanner :=
  if 0 < s.level then s else go s.indents s
where
  /-- one block after the other -/
  go : List Int → Scanner → Scanner
    | [], s => s
    | i :: is, s =>
      if column < s.indent then go is { s.push .blockEnd with indent := i, indents := is } else s

/-- opens a block at a column that is deeper than the innermost one; the token goes before the one
of a number, or to the end -/
def roll? (s : Scanner) (column : Nat) (number : Option Nat) (t : Token) : Option Scanner :=
  if 0 < s.level || (column : Int) ≤ s.indent then some s
  else if maxDepth ≤ s.indents.length then none
  else
    let s := { s with indents := s.indent :: s.indents, indent := column }
    some (match number with
      | some n => s.insert n t
      | none => s.push t)

def advance (s : Scanner) (n : Nat) : Scanner := { s with here := s.here.skips n }

/-- Past the comments that follow a comment: the place is at the end of a comment line, and lines
that hold nothing but blanks, tabs too, or a comment are passed over up to the last comment. Only
line feeds and carriage returns end lines here. -/
def moreComments : Nat → Cursor → Cursor
  | 0, c => c
  | fuel + 1, c =>
    let gap := (c.rest.drop 1).takeWhile fun ch => isBlank ch || ch == '\n' || ch == '\r'
    if 511 ≤ gap.length || !(c.sees '\n' || c.sees '\r') then c
    else if (c.rest.drop (gap.length + 1)).head? = some '#' then
      moreComments fuel ((toMark (gap.length + 2) c).comment)
    else c
where
  /-- past blanks and ends of lines up to a comment -/
  toMark : Nat → Cursor → Cursor
    | 0, c => c
    | n + 1, c =>
      if c.sees '#' then c
      else
        match c.lineEnd? with
        | some (_, c) => toMark n c
        | none => toMark n c.skip

/-- Past blanks, comments and ends of lines to the next token. Outside of brackets a tab is passed
over only where no key may start, and a new line may start a key. -/
def toToken : Nat → Scanner → Scanner
  | 0, s => s
  | fuel + 1, s =>
    let c := s.here
    let c := if c.column = 0 && c.rest.head?.any (·.toNat == 0xFEFF) then c.skip else c
    let c := c.skipWhile fun ch => ch == ' ' || ((0 < s.level || !s.keyAllowed) && ch == '\t')
    let c := if c.sees '#' then moreComments s.fuel c.comment else c
    match c.lineEnd? with
    | some (_, c) => toToken fuel { s with here := c, keyAllowed := s.keyAllowed || s.level == 0 }
    | none => { s with here := c }

def lineComment (s : Scanner) : Scanner :=
  if s.here.fresh then s
  else
    let c := s.here.blanks
    if c.sees '#' && c.index < s.here.index + 512 then { s with here := c.comment } else s

/-- the end of the file: every block is closed -/
def fetchEnd? (s : Scanner) : Option Scanner := do
  let s := if s.here.column = 0 then s
    else { s with here := { s.here with column := 0, line := s.here.line + 1 } }
  let s ← (s.unroll (-1)).dropKey?
  some ({ s with keyAllowed := false }.push .fileEnd)

/-- a mark between documents -/
def fetchBoundary? (s : Scanner) (t : Token) : Option Scanner := do
  let s ← (s.unroll (-1)).dropKey?
  some (({ s with keyAllowed := false }.advance 3).push t)

/-- one part of a version number: one or two digits -/
def versionPart? (c : Cursor) : Option (Nat × Cursor) := do
  let ds := c.rest.takeWhile Char.isDigit
  let n ← Word.ofDigits? ds
  if 2 < ds.length then none else some (n, c.skips ds.length)

def versionDirective? (c : Cursor) : Option (Token × Cursor) := do
  let (major, c) ← versionPart? c.blanks
  if !c.sees '.' then none
  else
    let (minor, c) ← versionPart? c.skip
    some (.version major minor, c)

/-- a handle of tags: an exclamation mark, letters, and possibly another mark -/
def handle (c : Cursor) : List Char × Cursor :=
  let word := (c.rest.drop 1).takeWhile isWord
  let c := c.skips (word.length + 1)
  if c.sees '!' then ('!' :: word ++ ['!'], c.skip) else ('!' :: word, c)

/-- the characters of addresses, apart from the percent sign of an escape -/
def isAddress (c : Char) : Bool :=
  isWord c || [';', '/', '?', ':', '@', '&', '=', '+', '$', ',', '.', '!', '~', '*', '\'', '(', ')',
    '[', ']'].contains c

/-- one octet written as a percent sign and two digits -/
def octet? : List Char → Option (UInt8 × List Char)
  | '%' :: x :: y :: rest => do
    let n ← Literal.digitsIn? 16 [x, y]
    some (UInt8.ofNat n, rest)
  | _ => none

/-- how many octets a character takes, by its first octet; none for an octet that starts none -/
def width? (b : UInt8) : Option Nat :=
  if b < 0x80 then some 1
  else if b &&& 0xE0 == 0xC0 then some 2
  else if b &&& 0xF0 == 0xE0 then some 3
  else if b &&& 0xF8 == 0xF0 then some 4
  else none

/-- a number of octets that go on with a character -/
def tailOctets? : Nat → List Char → Option (List UInt8 × List Char)
  | 0, cs => some ([], cs)
  | n + 1, cs => do
    let (b, cs) ← octet? cs
    if b &&& 0xC0 != 0x80 then none
    else
      let (bs, cs) ← tailOctets? n cs
      some (b :: bs, cs)

/-- a character written as escaped octets -/
def escapedChar? (cs : List Char) : Option (List Char × List Char) := do
  let (b, cs) ← octet? cs
  let (bs, cs) ← tailOctets? ((← width? b) - 1) cs
  some (Octets.lossy (b :: bs), cs)

/-- an address: its characters, escapes resolved, and how many characters it takes -/
def address? : Nat → List Char → Option (List Char × Nat)
  | 0, _ => some ([], 0)
  | fuel + 1, cs =>
    match cs with
    | [] => some ([], 0)
    | c :: rest =>
      if c = '%' then
        match escapedChar? cs with
        | none => none
        | some (ds, cs') =>
          (address? fuel cs').map fun (a, n) => (ds ++ a, n + (cs.length - cs'.length))
      else if isAddress c then (address? fuel rest).map fun (a, n) => (c :: a, n + 1)
      else some ([], 0)

/-- an address with at least one character, and the place after it -/
def someAddress? (c : Cursor) : Option (List Char × Cursor) := do
  let (a, n) ← address? c.rest.length c.rest
  if n = 0 then none else some (a, c.skips n)

/-- the handle and its expansion after `%TAG` -/
def tagDirective? (c : Cursor) : Option (Token × Cursor) := do
  let c := c.blanks
  if !c.sees '!' then none
  else
    let (h, c) := handle c
    if h.getLast? != some '!' || !c.atBlank then none
    else
      let (a, c) ← someAddress? c.blanks
      if Cursor.isGap c.rest then some (.tagHandle h a, c) else none

/-- a directive: a percent sign, its name and its value, alone in a line -/
def fetchDirective? (s : Scanner) : Option Scanner := do
  let s ← (s.unroll (-1)).dropKey?
  let word := (s.here.rest.drop 1).takeWhile isWord
  let c := s.here.skips (word.length + 1)
  if word.isEmpty || !Cursor.isGap c.rest then none
  else
    let (t, c) ← if word = "YAML".toList then versionDirective? c
      else if word = "TAG".toList then tagDirective? c
      else none
    let c := c.blanks
    let c := if c.sees '#' then c.comment else c
    if c.atLineEnd then some ({ s with keyAllowed := false, here := c.skipLine }.push t) else none

def fetchOpen? (s : Scanner) (t : Token) : Option Scanner := do
  let s ← s.saveKey?
  if maxDepth ≤ s.level then none
  else
    let s := { s with keys := none :: s.keys, level := s.level + 1, keyAllowed := true }
    some ((s.advance 1).push t)

def fetchClose? (s : Scanner) (t : Token) : Option Scanner := do
  let s ← s.dropKey?
  let s := if s.level = 0 then s else { s with keys := s.keys.drop 1, level := s.level - 1 }
  some (({ s with keyAllowed := false }.advance 1).push t)

/-- a comma between the parts of a bracket -/
def fetchComma? (s : Scanner) : Option Scanner := do
  let s ← s.dropKey?
  some (({ s with keyAllowed := true }.advance 1).push .comma)

/-- the hyphen of an item; it opens a block where one may start -/
def fetchItem? (s : Scanner) : Option Scanner := do
  let s ← if 0 < s.level then some s
    else if !s.keyAllowed then none
    else s.roll? s.here.column none .blockList
  let s ← s.dropKey?
  some (({ s with keyAllowed := true }.advance 1).push .item)

/-- the question mark of a key -/
def fetchKey? (s : Scanner) : Option Scanner := do
  let s ← if 0 < s.level then some s
    else if !s.keyAllowed then none
    else s.roll? s.here.column none .blockMap
  let s ← s.dropKey?
  some (({ s with keyAllowed := s.level == 0 }.advance 1).push .key)

/-- The colon of a value. After a possible key it turns what follows that place into a key; else it
opens a block where one may start. -/
def fetchValue? (s : Scanner) : Option Scanner := do
  let found := s.key?.filter s.reaches
  let s ← match found with
    | some k => do
      let s := s.insert k.number .key
      let s ← s.roll? k.column (some k.number) .blockMap
      some { s.setKey none with keyAllowed := false }
    | none =>
      if s.key?.any (·.required) then none
      else
        let s := s.setKey none
        if 0 < s.level then some { s with keyAllowed := false }
        else if !s.keyAllowed then none
        else s.roll? s.here.column none .blockMap
  some ((s.advance 1).push .value)

/-- may a character follow the name of an anchor -/
def endsName (cs : List Char) : Bool :=
  Cursor.isGap cs || cs.head?.any fun c =>
    ['?', ':', ',', ']', '%', '@'].contains c || c.toNat == 0x7D || c.toNat == 0x60

def fetchName? (s : Scanner) (t : String → Token) : Option Scanner := do
  let s ← s.saveKey?
  let name := (s.here.rest.drop 1).takeWhile isWord
  let c := s.here.skips (name.length + 1)
  if name.isEmpty || !endsName c.rest then none
  else some ({ s with keyAllowed := false, here := c }.push (t (String.ofList name)))

/-- a tag: an address in angle brackets, a handle with a suffix, or a suffix alone -/
def tag? (c : Cursor) : Option (Token × Cursor) := do
  if (c.rest.drop 1).head? = some '<' then
    let (a, c) ← someAddress? c.skip.skip
    if c.sees '>' then some (.tag [] a, c.skip) else none
  else
    let (h, c') := handle c
    if 1 < h.length && h.getLast? = some '!' then
      let (a, c'') ← someAddress? c'
      some (.tag h a, c'')
    else
      let (a, n) ← address? c'.rest.length c'.rest
      let suffix := h.drop 1 ++ a
      some (if suffix.isEmpty then .tag [] ['!'] else .tag ['!'] suffix, c'.skips n)

/-- a tag, which a blank or an end of a line must follow -/
def fetchTag? (s : Scanner) : Option Scanner := do
  let s ← s.saveKey?
  let (t, c) ← tag? s.here
  if Cursor.isGap c.rest then some ({ s with keyAllowed := false, here := c }.push t) else none

def fetchBlock? (s : Scanner) (folded : Bool) : Option Scanner := do
  let s ← s.dropKey?
  let (cs, c) ← block? s.fuel folded s.indent s.here
  some ({ s with keyAllowed := true, here := c }.push (.scalar false (String.ofList cs)))

def fetchQuoted? (s : Scanner) (single : Bool) : Option Scanner := do
  let s ← s.saveKey?
  let (cs, c) ← quoted? s.fuel single s.here
  some ({ s with keyAllowed := false, here := c }.push (.scalar false (String.ofList cs)))

def fetchPlain? (s : Scanner) : Option Scanner := do
  let s ← s.saveKey?
  let (cs, newLine, c) ← plain? s.fuel (0 < s.level) (s.indent + 1).toNat s.here
  some ({ s with keyAllowed := newLine, here := c }.push (.scalar true (String.ofList cs)))

/-- the characters that start no plain scalar -/
def isIndicator (c : Char) : Bool :=
  ['-', '?', ':', ',', '[', ']', '#', '&', '*', '!', '|', '>', '\'', '"', '%', '@'].contains c ||
    c.toNat == 0x7B || c.toNat == 0x7D || c.toNat == 0x60

/-- the token that starts with a character, which is no blank and no end of a line -/
def fetchAt? (s : Scanner) (ch : Char) (rest : List Char) : Option Scanner :=
  if ch = '[' then s.fetchOpen? .openList
  else if ch.toNat = 0x7B then s.fetchOpen? .openMap
  else if ch = ']' then s.fetchClose? .closeList
  else if ch.toNat = 0x7D then s.fetchClose? .closeMap
  else if ch = ',' then s.fetchComma?
  else if ch = '-' && Cursor.isGap rest then s.fetchItem?
  else if ch = '?' && (0 < s.level || Cursor.isGap rest) then s.fetchKey?
  else if ch = ':' && (0 < s.level || Cursor.isGap rest) then s.fetchValue?
  else if ch = '*' then s.fetchName? .alias
  else if ch = '&' then s.fetchName? .anchor
  else if ch = '!' then s.fetchTag?
  else if ch = '|' && s.level = 0 then s.fetchBlock? false
  else if ch = '>' && s.level = 0 then s.fetchBlock? true
  else if ch = '\'' then s.fetchQuoted? true
  else if ch = '"' then s.fetchQuoted? false
  else if !isIndicator ch && !isBlank ch then s.fetchPlain?
  else if ch = '-' || ch = '?' || ch = ':' then s.fetchPlain?
  else none

/-- Reads on to the next token. -/
def fetch? (s : Scanner) : Option Scanner :=
  let s := toToken s.fuel s
  let s := s.unroll s.here.column
  match s.here.rest with
  | [] => s.fetchEnd?
  | ch :: rest =>
    if s.here.column = 0 && ch = '%' then s.fetchDirective?
    else if s.here.atDocumentMark '-' then s.fetchBoundary? .documentStart
    else if s.here.atDocumentMark '.' then s.fetchBoundary? .documentEnd
    else do
      let s ← s.fetchAt? ch rest
      -- a comment after the hyphen of an item belongs to what follows
      some (if s.queue.getLast? = some .item then s else s.lineComment)

/-- Reads on until the queue has two tokens after the next one, and as long as the next one may
turn out to start a key. -/
def fill? : Nat → Scanner → Option Scanner
  | 0, _ => none
  | fuel + 1, s =>
    if s.queue.length < 3 then s.fetch?.bind (fill? fuel)
    else
      match s.keys.findSome? fun k => k.filter (·.number == s.taken) with
      | none => some s
      | some k =>
        if s.reaches k then s.fetch?.bind (fill? fuel)
        else if k.required then none
        else some s

/-- the next token, and the scanner that has it in its queue -/
def peek? (s : Scanner) : Option (Token × Scanner) := do
  let s ← fill? s.fuel s
  some (← s.queue.head?, s)

def take (s : Scanner) : Scanner := { s with queue := s.queue.drop 1, taken := s.taken + 1 }

end Scanner

/-- The scanner of a text, none when it holds a character that no file may hold. A byte order mark
in front is no part of the text. -/
def Scanner.ofText? (cs : List Char) : Option Scanner :=
  if cs.all isAllowed then
    some {
      here := { rest := if cs.head?.any (·.toNat == 0xFEFF) then cs.drop 1 else cs }
      fuel := 2 * cs.length + 8 }
  else none

end OrderDesk.Settings.Yaml
