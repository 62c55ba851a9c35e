import OrderDesk.Number.Literal
import OrderDesk.Settings.Tree
import OrderDesk.Text.Base64
import OrderDesk.Time.Stamp

/-!
# What scalars of a settings file stand for

A tag names the kind of a scalar; without one the spelling of a plain scalar decides.

* `Tag`             the tags with a meaning of their own, in short form;
* `isMoment`        dates, alone or with a time of day;
* `spelled`         the kind and value that a spelling has by itself;
* `resolve?`        the kind and value of a scalar with a tag, none when the two disagree.
-/

namespace OrderDesk.Settings.Yaml

namespace Tag

def text : String := "!!str"

def null : String := "!!null"

def bool : String := "!!bool"

def int : String := "!!int"

def float : String := "!!float"

def moment : String := "!!timestamp"

def binary : String := "!!binary"

/-- the key that takes over the members of other maps -/
def merge : String := "!!merge"

/-- what the long form of a standard tag starts with -/
def standard : List Char := "tag:yaml.org,2002:".toList

def short (tag : List Char) : String :=
  if tag.take standard.length = standard then String.ofList ('!' :: '!' :: tag.drop standard.length)
  else String.ofList tag

end Tag

/-- a date without a time of day: a year of four digits, a month and a day that it has; and what
follows -/
def date? (cs : List Char) : Option (List Char) := do
  let (y, cs) ← Stamp.digits? 4 cs
  let (m, cs) ← Stamp.oneOrTwo? (← Stamp.mark? '-' cs)
  let (d, cs) ← Stamp.oneOrTwo? (← Stamp.mark? '-' cs)
  if m < 1 || 12 < m || d < 1 || Calendar.daysIn y m < d then none else some cs

/-- a time of day with an optional fraction of a second, and what follows -/
def clock? (cs : List Char) : Option (List Char) := do
  let (h, cs) ← Stamp.oneOrTwo? cs
  let (m, cs) ← Stamp.oneOrTwo? (← Stamp.mark? ':' cs)
  let (s, cs) ← Stamp.oneOrTwo? (← Stamp.mark? ':' cs)
  if 23 < h || 59 < m || 59 < s then none else some (Stamp.fraction cs).2

/-- Is this a date: alone, with a time of day after blanks, or with one after a `T` and an
offset. -/
def isMoment (cs : List Char) : Bool :=
  match date? cs with
  | none => false
  | some [] => true
  | some (c :: rest) =>
    if c = 'T' ∨ c = 't' then ((clock? rest).bind Stamp.offset?).isSome
    else c == ' ' && (clock? (rest.dropWhile (· == ' '))) == some []

/-- an optional sign, digits with an optional point, an optional exponent -/
def isDecimal (cs : List Char) : Bool :=
  let body := (Word.splitSign cs).2
  let whole := body.takeWhile Char.isDigit
  let rest := body.drop whole.length
  let (point, frac, rest) := match rest with
    | '.' :: r => (true, r.takeWhile Char.isDigit, r.dropWhile Char.isDigit)
    | r => (false, [], r)
  let mantissaOk := !whole.isEmpty || (point && !frac.isEmpty)
  let exponentOk := match rest with
    | [] => true
    | c :: r =>
      let ds := (Word.splitSign r).2
      (c == 'e' || c == 'E') && !ds.isEmpty && ds.all Char.isDigit
  mantissaOk && exponentOk

/-- a whole number after a base mark that may have a sign of its own behind it -/
def markedWhole? (cs : List Char) : Option Int :=
  match cs with
  | '0' :: 'b' :: rest => Literal.wholeIn? 2 rest
  | '-' :: '0' :: 'b' :: rest => Literal.wholeIn? 2 ('-' :: rest)
  | '0' :: 'o' :: rest => Literal.wholeIn? 8 rest
  | '-' :: '0' :: 'o' :: rest => Literal.wholeIn? 8 ('-' :: rest)
  | _ => none

/-- a whole number: with a sign within 64 bits, without one it may fill all of them -/
def anyWhole? (cs : List Char) : Option Int :=
  match Literal.whole? cs with
  | some v => some v
  | none =>
    (Literal.natural? cs).bind fun n => if n < Nat.pow 2 64 then some (n : Int) else none

/-- a number whose underscores are passed over -/
def number? (cs : List Char) : Option (String × Tree) :=
  let bare := cs.filter (· != '_')
  match anyWhole? bare with
  | some v => some (Tag.int, .int v)
  | none =>
    match if isDecimal bare then Real64.parse? bare else none with
    | some x => some (Tag.float, .float x)
    | none => (markedWhole? bare).map fun v => (Tag.int, .int v)

/-- the spellings with a value of their own -/
def word? (s : String) : Option (String × Tree) :=
  if ["", "~", "null", "Null", "NULL"].contains s then some (Tag.null, .null)
  else if ["true", "True", "TRUE"].contains s then some (Tag.bool, .bool true)
  else if ["false", "False", "FALSE"].contains s then some (Tag.bool, .bool false)
  else if [".nan", ".NaN", ".NAN"].contains s then some (Tag.float, .float .undefined)
  else if [".inf", ".Inf", ".INF", "+.inf", "+.Inf", "+.INF"].contains s then
    some (Tag.float, .float (.infinite false))
  else if ["-.inf", "-.Inf", "-.INF"].contains s then some (Tag.float, .float (.infinite true))
  else none

/-- The kind and value that a spelling has by itself; dates count where `moments` says so. -/
def spelled (moments : Bool) (s : String) : String × Tree :=
  match word? s with
  | some r => r
  | none =>
    let cs := s.toList
    let found := match cs with
      | [] => none
      | c :: _ =>
        if c = '.' then (Real64.parse? cs).map fun x => (Tag.float, Tree.float x)
        else if c.isDigit || c == '+' || c == '-' then
          if moments && isMoment cs then some (Tag.moment, Tree.moment) else number? cs
        else none
    found.getD (Tag.text, .text s)

/-- The kind and value of a scalar with a tag in short form, or with none. A tag without a meaning
here makes it a text; a whole number may stand for a number with a fraction; for the rest, tag and
spelling must agree. -/
def resolve? (tag : String) (s : String) : Option (String × Tree) :=
  let known := ["", Tag.text, Tag.bool, Tag.int, Tag.float, Tag.null, Tag.moment]
  if !known.contains tag then
    some (tag, .text s)
  else if tag = Tag.text then some (Tag.text, .text s)
  else
    let (kind, t) := spelled (tag == "" || tag == Tag.moment) s
    if tag = "" ∨ tag = kind then some (kind, t)
    else
      match t with
      | .int v =>
        if tag = Tag.float ∧ Word.InRange v then
          (Binary64.ofRatio? (v < 0) v.natAbs 1).map fun x => (Tag.float, .float (.finite x))
        else none
      | _ => none

end OrderDesk.Settings.Yaml
