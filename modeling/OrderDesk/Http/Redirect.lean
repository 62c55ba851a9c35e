import OrderDesk.Http.Answer
import OrderDesk.Text.Path

/-!
# Sending a request elsewhere

* `tidyAddress`       a tidy path, where a slash at the end stays;
* `Request.outerPath` where a proxy says that the service lies;
* `locationOf`        the address to go to: the query goes along;
* `sendElsewhere`     the response that says so.
-/

namespace OrderDesk.Http

/-- A response. -/
structure Response where
  status : Nat
  headers : List (String × String)
  body : Octets
  deriving Inhabited

def Answer.response (a : Answer) : Response := ⟨a.status, a.headers, a.body.getD []⟩

/-- a tidy path, where a slash at the end stays -/
def tidyAddress (path : Octets) : Octets :=
  let tidy := Path.tidy path
  let slash := some (0x2F : UInt8)
  if path.getLast? = slash ∧ tidy.getLast? ≠ slash then tidy ++ [0x2F] else tidy

/-- letters, digits, hyphens, and slashes one at a time -/
def safeOctets : Octets → Octets
  | [] => []
  | b :: bs =>
    let rest := safeOctets bs
    if b = 0x2F then (if rest.head? = some 0x2F then rest else b :: rest)
    else if b = 0x2D ∨ (b < 0x80 ∧ (Char.ofNat b.toNat).isAlphanum) then b :: rest
    else rest

/-- The path below which the outside sees this service, as the nearest proxy tells it. -/
def Request.outerPath (r : Request) : Octets :=
  let told := Path.tidy (Octets.ofText (r.header "X-Forwarded-Prefix"))
  if told = [0x2E] then [] else safeOctets told ++ [0x2F]

/-- does an address begin with the name of a host -/
def namesHost (address : Octets) : Bool :=
  address.take 2 == [0x2F, 0x2F] && (address.drop 2).head? != some 0x2F

/-- The address to go to. It is tidied, except where it begins with the name of a host; if it does
not begin at the root it counts from where the request was. -/
def locationOf (r : Request) (path : Octets) : Octets :=
  let path := r.outerPath ++ path
  let query := match r.query with
    | none => []
    | some q => 0x3F :: q
  let address := Octets.ofText (escapePath path) ++ query
  if namesHost address then address
  else
    let address := if address.head? = some 0x2F then address else Path.folder path ++ address
    tidyAddress (address.takeWhile (· != 0x3F)) ++ address.dropWhile (· != 0x3F)

/-- an address in a header: octets beyond the basic ones are escaped -/
def headerText (bs : Octets) : String :=
  String.ofList (bs.flatMap fun b =>
    if b < 0x80 then [Char.ofNat b.toNat] else '%' :: Text.hexDigits 2 b.toNat)

/-- an address in a page: the marks of the page are escaped -/
def pageText (bs : Octets) : Octets :=
  bs.flatMap fun b =>
    if b = 0x26 then Octets.ofText "&amp;" else if b = 0x3C then Octets.ofText "&lt;"
    else if b = 0x3E then Octets.ofText "&gt;" else if b = 0x22 then Octets.ofText "&#34;"
    else if b = 0x27 then Octets.ofText "&#39;" else [b]

/-- The response that sends a request elsewhere; a page says so to those who read. -/
def sendElsewhere (r : Request) (path : Octets) : Response :=
  let location := locationOf r path
  if r.method = "GET" then
    ⟨301, [("Location", headerText location), ("Content-Type", "text/html; charset=utf-8")],
      Octets.ofText "<a href=\"" ++ pageText location ++
        Octets.ofText "\">Moved Permanently</a>.\n\n"⟩
  else ⟨307, [("Location", headerText location)], []⟩

end OrderDesk.Http
