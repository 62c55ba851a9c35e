import OrderDesk.Http.Form
import OrderDesk.Text.Case
import OrderDesk.Time.Span
import OrderDesk.Time.Zone

/-!
# The address of a server

`user:password@network(place)/database?name=value&name=value`, where everything but the slash may be
left out. An option has to have a value of its kind.

* `ServerOptions.read?`     takes in one option;
* `ServerOptions.holds`     can the options stand together;
* `networkOf?`              the network and the place;
* `ServerAddress.parse?`    reads an address.
-/

namespace OrderDesk.Store

/-- The options that count beyond their own value. -/
structure ServerOptions where
  encryption : String := ""
  publicKey : String := ""
  collation : String := ""
  fillsIn : Bool := false
  deriving DecidableEq, Repr, Inhabited

namespace ServerOptions

/-- the options that are on or off -/
def switches : List String :=
  ["allowAllFiles", "allowCleartextPasswords", "allowFallbackToPlaintext", "allowNativePasswords",
   "allowOldPasswords", "checkConnLiveness", "clientFoundRows", "columnsWithAlias",
   "interpolateParams", "multiStatements", "parseTime", "rejectReadOnly"]

/-- the options that are lengths of time -/
def lengths : List String := ["timeTruncate", "readTimeout", "timeout", "writeTimeout"]

/-- the options that are not supported -/
def unknownKinds : List String := ["compress", "strict"]

/-- on or off, in one of four spellings each -/
def switch? (value : String) : Option Bool :=
  if ["1", "true", "TRUE", "True"].contains value then some true
  else if ["0", "false", "FALSE", "False"].contains value then some false
  else none

/-- an escaped value, where a plus sign is a blank -/
def escaped? (value : String) : Option String :=
  (Http.unescape? true (Octets.ofText value)).map Octets.lossyText

/-- the name of a way to encrypt: on, off, one of two usual ones in any casing, or another -/
def encryption? (value : String) : Option String :=
  match switch? value with
  | some b => some (if b then "true" else "false")
  | none =>
    let small := Text.lower value
    if ["skip-verify", "preferred"].contains small then some small else escaped? value

/-- takes in one option, `none` if its value is not of its kind -/
def read? (o : ServerOptions) (name value : String) : Option ServerOptions :=
  if unknownKinds.contains name then none
  else if switches.contains name then
    (switch? value).map fun b => if name = "interpolateParams" then { o with fillsIn := b } else o
  else if lengths.contains name then (Span.parse? value).map fun _ => o
  else if name = "maxAllowedPacket" then (Word.parseInt? value).map fun _ => o
  else if name = "charset" then some o
  else if name = "collation" then some { o with collation := value }
  else if name = "tls" then (encryption? value).map fun v => { o with encryption := v }
  else do
    let v ← escaped? value
    if name = "loc" then if Zone.isZoneName v then some o else none
    else if name = "serverPubKey" then some { o with publicKey := v }
    else some o

/-- takes in all options of a text; one without an equals sign does not count -/
def readAll? (text : String) : Option ServerOptions :=
  (text.splitOn "&").foldlM (fun o piece =>
    match piece.splitOn "=" with
    | name :: v :: vs => o.read? name ("=".intercalate (v :: vs))
    | _ => some o) {}

/-- the collations in which a backslash can be a part of a character -/
def riskyCollations : List String :=
  ["big5_chinese_ci", "sjis_japanese_ci", "gbk_chinese_ci", "big5_bin", "gb2312_bin", "gbk_bin",
   "sjis_bin", "cp932_japanese_ci", "cp932_bin", "gb18030_chinese_ci", "gb18030_bin",
   "gb18030_unicode_520_ci"]

/-- Can the options stand together: values are filled in under a safe collation only, the way to
encrypt is a known one, and no key is known by name. -/
def holds (o : ServerOptions) : Bool :=
  !(o.fillsIn && riskyCollations.contains o.collation) && o.publicKey == "" &&
    ["", "false", "true", "skip-verify", "preferred"].contains o.encryption

end ServerOptions

/-- Where a server is, and which of its databases is meant. -/
structure ServerAddress where
  network : String
  place : String
  database : String
  options : ServerOptions
  deriving DecidableEq, Repr, Inhabited

/-- what stands before the last mark, and what after it; without a mark there is nothing -/
def splitAtLast (mark : Char) (cs : List Char) : Option (List Char × List Char) :=
  if cs.contains mark then
    let tail := (cs.reverse.takeWhile (· != mark)).reverse
    some (cs.take (cs.length - tail.length - 1), tail)
  else none

def afterUser (cs : List Char) : List Char :=
  match splitAtLast '@' cs with
  | some (_, rest) => rest
  | none => cs

/-- The network and the place, which stands in brackets. Without a place the network has to be one
that has a usual place; without a network it is the usual one. -/
def networkOf? (cs : List Char) : Option (String × String) :=
  let network := String.ofList (cs.takeWhile (· != '('))
  let network := if network = "" then "tcp" else network
  match cs.dropWhile (· != '(') with
  | [] => usual? network
  | _ :: rest =>
    if rest.getLast? = some ')' then
      let place := String.ofList rest.dropLast
      if place = "" then usual? network else some (network, place)
    else none
where
  /-- the usual place of a network -/
  usual? (network : String) : Option (String × String) :=
    if network = "tcp" then some (network, "127.0.0.1:3306")
    else if network = "unix" then some (network, "/tmp/mysql.sock")
    else none

def ServerAddress.parse? (s : String) : Option ServerAddress := do
  let (left, right) ← if s = "" then some ([], []) else splitAtLast '/' s.toList
  let (network, place) ← networkOf? (afterUser left)
  let options ← ServerOptions.readAll? (String.ofList ((right.dropWhile (· != '?')).drop 1))
  let name := String.ofList (right.takeWhile (· != '?'))
  let database ← Http.unescape? false (Octets.ofText name)
  if options.holds then some ⟨network, place, Octets.lossyText database, options⟩ else none

end OrderDesk.Store
