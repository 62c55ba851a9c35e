import OrderDesk.Access.Client
import OrderDesk.Digest.Hmac
import OrderDesk.Json.Value
import OrderDesk.Settings.Basic
import OrderDesk.Text.Base64
import OrderDesk.Time.Stamp

/-!
# Signed tokens

A token is three parts with dots between them: a header that names the algorithm, the claims, and
a keyed digest of both.

* `Algorithm`        the keyed digests that are accepted, by their exact names;
* `sign`             a token from its header and claims;
* `issue`            the token of a client at a time;
* `verify?`          the claims of a token that holds under the settings at a time;
* `Claims.perms`, `Claims.client?`      what a request is checked against.
-/

namespace OrderDesk.Access

open Json (Value)

/-- The keyed digests that are accepted. -/
inductive Algorithm where
  | hs256
  | hs384
  | hs512
  deriving DecidableEq, Repr

def Algorithm.ofName? (name : String) : Option Algorithm :=
  if name = "HS256" then some .hs256
  else if name = "HS384" then some .hs384
  else if name = "HS512" then some .hs512
  else none

def Algorithm.mac : Algorithm → Octets → Octets → Octets
  | .hs256 => Hmac.sha256
  | .hs384 => Hmac.sha384
  | .hs512 => Hmac.sha512

/-- the two signed parts -/
def signedPart (header claims : Octets) : String :=
  Base64.encodeUrl header ++ "." ++ Base64.encodeUrl claims

def sign (a : Algorithm) (key : Octets) (header claims : Octets) : String :=
  let part := signedPart header claims
  part ++ "." ++ Base64.encodeUrl (a.mac key (Octets.ofText part))

/-- Claims by name. -/
abbrev Claims := List (String × Value)

/-- the header of the tokens that are issued -/
def issuedHeader : Value := .obj [("alg", .str "HS256"), ("typ", .str "JWT")]

/-- the claims of a client's token, in the order of their names -/
def issuedClaims (c : Settings) (client : Client) (now : Stamp) : Value :=
  .obj [("aud", .str c.security.audience), ("clientID", .str client.id),
    ("exp", .int (now.addNanos c.tokenLife).seconds), ("iat", .int now.seconds),
    ("iss", .str c.security.issuer), ("nbf", .int now.seconds),
    ("perms", .arr (client.perms.map .str))]

def issue (c : Settings) (client : Client) (now : Stamp) : String :=
  sign .hs256 (Octets.ofText c.security.jwtSecret) (Octets.ofText issuedHeader.text)
    (Octets.ofText (issuedClaims c client now).text)

/-- the object that a part spells -/
def members? (part : String) : Option Claims := do
  let bs ← Base64.decodeUrl? part
  match ← (Json.readWhole? (Octets.lossy bs)).bind Json.Doc.value? with
  | .obj ms => some ms
  | .null => some []
  | _ => none

def parts? (raw : String) : Option (String × String × String) :=
  match raw.toList.splitOn '.' with
  | [a, b, c] => some (String.ofList a, String.ofList b, String.ofList c)
  | _ => none

/-- the seconds between the first year and the epoch of the claims -/
def epoch : Int := 62135596800

/-- A moment that a claim names, in seconds since the first year: the second that it lies in, which
begins before a negative number that is not whole. A number beyond a word is the least one. -/
def moment (x : Binary64) : Int :=
  let n := if Word.InRange x.truncate then x.truncate else -Int.pow 2 63
  Word.wrap ((if x.fractionNanos < 0 then n - 1 else n) + epoch)

/-- the seconds by which clocks may differ -/
def leeway : Int := 30

/-- A claim on a moment: absent, a moment, or neither. Zero counts as absent. -/
inductive MomentClaim where
  | absent
  | at (seconds : Int)
  | invalid

def momentClaim (claims : Claims) (name : String) : MomentClaim :=
  match claims.lookup name with
  | none => .absent
  | some (.num x) => if x.mant = 0 then .absent else .at (moment x)
  | some _ => .invalid

/-- has a token not yet run out -/
def unexpired (claims : Claims) (now : Int) : Bool :=
  match momentClaim claims "exp" with
  | .absent => true
  | .at t => now + epoch < min (t + leeway) (Int.pow 2 63 - 1)
  | .invalid => false

def begun (claims : Claims) (now : Int) : Bool :=
  match momentClaim claims "nbf" with
  | .absent => true
  | .at t => max (t - leeway) (-Int.pow 2 63 + 1) ≤ now + epoch
  | .invalid => false

/-- the texts of a list, `none` when one is something else -/
def texts? : List Value → Option (List String)
  | [] => some []
  | .str s :: vs => (texts? vs).map (s :: ·)
  | _ :: _ => none

/-- whom a token is meant for -/
def audience? (claims : Claims) : Option (List String) :=
  match claims.lookup "aud" with
  | some (.str s) => some [s]
  | some (.arr vs) => texts? vs
  | _ => some []

/-- is a token meant for us, if we have a name -/
def forAudience (expected : String) (claims : Claims) : Bool :=
  expected = "" || match audience? claims with
    | some as => as.contains expected
    | none => false

/-- is a token from our issuer, if we have one -/
def fromIssuer (expected : String) (claims : Claims) : Bool :=
  expected = "" || match claims.lookup "iss" with
    | some (.str s) => s == expected
    | _ => false

/-- do the claims hold under the settings at a time, given in seconds since 1970 -/
def claimsHold (c : Settings.Security) (now : Int) (claims : Claims) : Bool :=
  unexpired claims now && begun claims now && forAudience c.audience claims &&
    fromIssuer c.issuer claims

/-- the claims of a token that holds under the settings at a time -/
def verify? (c : Settings.Security) (now : Int) (raw : String) : Option Claims := do
  let (h, p, s) ← parts? raw
  let header ← members? h
  let claims ← members? p
  let signature ← Base64.decodeUrl? s
  let a ← match header.lookup "alg" with
    | some (.str name) => Algorithm.ofName? name
    | _ => none
  let mac := a.mac (Octets.ofText c.jwtSecret) (Octets.ofText (h ++ "." ++ p))
  if signature = mac ∧ claimsHold c now claims = true then some claims else none

def Claims.perms (claims : Claims) : List String :=
  match claims.lookup "perms" with
  | some (.arr vs) => vs.filterMap fun
    | .str s => if s = "" then none else some s
    | _ => none
  | _ => []

/-- do the claims carry every permission of a list -/
def Claims.permit (claims : Claims) (required : List String) : Bool :=
  required.all fun p => (Claims.perms claims).contains p

def Claims.client? (claims : Claims) : Option String :=
  match claims.lookup "clientID" with
  | some (.str s) => some s
  | _ => none

end OrderDesk.Access
