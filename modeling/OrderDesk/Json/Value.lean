import OrderDesk.Json.Doc
import OrderDesk.Number.Binary64
import OrderDesk.Text.Quoted

/-!
# Values of documents and how they are written

* `Value`          what a document means, or what is to be written;
* `Doc.value?`     the meaning of a document: numbers are binary numbers of 64 bits, the last of
                   several members of one name counts, members are sorted by name;
* `Doc.kept`       the same with numbers as they are spelled;
* `quote`          a string between quotes;
* `Value.render`   the text of a value, without blanks.

The writer has one choice, the `Style`.
-/

namespace OrderDesk.Json

/-- A value. `raw` is a string given by its octets, which need not be valid; `spelled` is a number
as it was written. -/
inductive Value where
  | null
  | bool (b : Bool)
  | int (n : Int)
  | num (x : Binary64)
  | spelled (s : String)
  | str (s : String)
  | raw (bs : Octets)
  | arr (items : List Value)
  | obj (members : List (String × Value))
  deriving Inhabited

/-- puts a member into a list sorted by name, in the place of one of the same name -/
def insertMember (key : String) (v : Value) : List (String × Value) → List (String × Value)
  | [] => [(key, v)]
  | (k, w) :: rest =>
    if key < k then (key, v) :: (k, w) :: rest
    else if key = k then (key, v) :: rest
    else (k, w) :: insertMember key v rest

mutual

/-- the meaning of a document, `none` when a number is too large -/
def Doc.value? : Doc → Option Value
  | .null => some .null
  | .bool b => some (.bool b)
  | .num s => (Binary64.parseJson? s).map .num
  | .str s => some (.str (unescape s))
  | .arr ds => (valuesOf? ds).map .arr
  | .obj ms => (membersOf? [] ms).map .obj

/-- the meanings of a list of documents -/
def valuesOf? : List Doc → Option (List Value)
  | [] => some []
  | d :: ds =>
    match d.value?, valuesOf? ds with
    | some v, some vs => some (v :: vs)
    | _, _ => none

/-- the members of an object put one after the other into `acc` -/
def membersOf? (acc : List (String × Value)) :
    List (List Char × Doc) → Option (List (String × Value))
  | [] => some acc
  | (k, d) :: ms =>
    match d.value? with
    | some v => membersOf? (insertMember (unescape k) v acc) ms
    | none => none

end

mutual

/-- the meaning of a document, numbers kept as they are spelled -/
def Doc.kept : Doc → Value
  | .null => .null
  | .bool b => .bool b
  | .num s => .spelled (String.ofList s)
  | .str s => .str (unescape s)
  | .arr ds => .arr (keptItems ds)
  | .obj ms => .obj (keptMembers [] ms)

/-- the meanings of a list of documents -/
def keptItems : List Doc → List Value
  | [] => []
  | d :: ds => d.kept :: keptItems ds

/-- the members of an object put one after the other into `acc` -/
def keptMembers (acc : List (String × Value)) : List (List Char × Doc) → List (String × Value)
  | [] => acc
  | (k, d) :: ms => keptMembers (insertMember (unescape k) d.kept acc) ms

end

/-- the member of a name, the last one of several -/
def Doc.member? (name : String) : Doc → Option Doc
  | .obj ms => (ms.reverse.find? fun (k, _) => unescape k == name).map Prod.snd
  | _ => none

/-- the items of a list, none of anything else -/
def Doc.items : Doc → List Doc
  | .arr ds => ds
  | _ => []

/-- How texts are written: in a document, where markup characters are escapes; bare, where they
stand for themselves; in a log line, which has fewer short escapes. -/
inductive Style where
  | document
  | bare
  | line
  deriving DecidableEq, Repr

def shortEscape? (style : Style) (n : Nat) : Option Char :=
  if n = 10 then some 'n'
  else if n = 13 then some 'r'
  else if n = 9 then some 't'
  else if n = 8 ∧ style ≠ .line then some 'b'
  else if n = 12 ∧ style ≠ .line then some 'f'
  else none

/-- is a character written as an escape of four digits -/
def needsEscape (style : Style) (c : Char) : Bool :=
  c.toNat < 0x20 || c.toNat = 0x2028 || c.toNat = 0x2029 ||
    (style == .document && (c = '<' || c = '>' || c = '&'))

/-- one character of a string; `none` is a stray octet -/
def quoteChar (style : Style) : Option Char → List Char
  | none => [Char.ofNat 0xFFFD]
  | some c =>
    if c = '"' then ['\\', '"']
    else if c = '\\' then ['\\', '\\']
    else match shortEscape? style c.toNat with
      | some e => ['\\', e]
      | none => if needsEscape style c then '\\' :: 'u' :: Text.hexDigits 4 c.toNat else [c]

def quoteWith (style : Style) (cs : List (Option Char)) : String :=
  String.ofList ('"' :: cs.flatMap (quoteChar style) ++ ['"'])

def quote (style : Style) (s : String) : String := quoteWith style (s.toList.map some)

/-- the style inside a value of its own: a log line writes these bare -/
def Style.inner : Style → Style
  | .line => .bare
  | s => s

mutual

def Value.render (style : Style) : Value → String
  | .null => "null"
  | .bool b => if b then "true" else "false"
  | .int n => toString n
  | .num x => x.text
  | .spelled s => s
  | .str s => quote style s
  | .raw bs => quoteWith style (Octets.decode bs)
  | .arr vs => "[" ++ renderItems style.inner vs ++ "]"
  | .obj ms => "\x7b" ++ renderMembers style.inner ms ++ "\x7d"

def renderItems (style : Style) : List Value → String
  | [] => ""
  | [v] => v.render style
  | v :: vs => v.render style ++ "," ++ renderItems style vs

def renderMembers (style : Style) : List (String × Value) → String
  | [] => ""
  | [(k, v)] => quote style k ++ ":" ++ v.render style
  | (k, v) :: ms => quote style k ++ ":" ++ v.render style ++ "," ++ renderMembers style ms

end

def Value.text (v : Value) : String := v.render .document

/-- an object whose members are sorted by name -/
def Value.sorted (ms : List (String × Value)) : Value :=
  .obj (ms.foldl (fun acc (k, v) => insertMember k v acc) [])

end OrderDesk.Json
