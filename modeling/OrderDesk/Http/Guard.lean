import OrderDesk.Access.Token
import OrderDesk.Http.Answer
import OrderDesk.Time.Span

/-!
# Who may do what

* `bearer?`           the token that a request carries;
* `require`           lets a request pass whose token holds and carries the permissions, with the
                      client it names;
* `issueToken`        answers a client's id and secret with a token.
-/

namespace OrderDesk.Http

open Json (Value)

/-- the answer to a request that may not pass -/
def turnAway (status : Nat) (code why : String) : Answer :=
  { (Answer.json status (.obj [("error", .str code), ("error_description", .str why)])).withHeader
      "Www-Authenticate"
      ("Bearer error=\"" ++ code ++ "\", error_description=\"" ++ why ++ "\"") with code }

def bearer? (r : Request) : Option String :=
  let auth := r.header "Authorization"
  if auth.startsWith "Bearer " then some (String.ofList (auth.toList.drop 7)) else none

/-- The client that a request's token names, if the token holds and carries the permissions; the
client has the empty name when the token names none. -/
def require (c : Settings.Security) (now : Int) (perms : List String) (r : Request) :
    Except Answer (Option String) :=
  match bearer? r with
  | none => .error (turnAway 401 "invalid_request" "missing bearer token")
  | some raw =>
    match Access.verify? c now raw with
    | none => .error (turnAway 401 "invalid_token" "invalid jwt")
    | some claims =>
      if Access.Claims.permit claims perms then .ok (Access.Claims.client? claims)
      else .error (turnAway 403 "insufficient_scope" "missing required permissions")

def unknownClient : Answer := .json 401 (.obj [("error", .str "invalid client")])

/-- answers a client's id and secret with a token -/
def issueToken (c : Settings) (clients : List Access.Client) (now : Stamp) (r : Request) : Answer :=
  let pairs := r.formPairs
  match (first pairs "client_id").toText?, (first pairs "client_secret").toText? with
  | some id, some secret =>
    if id = "" ∨ secret = "" then unknownClient
    else match Access.authenticate clients id secret with
      | none => unknownClient
      | some client =>
        .json 200 (.obj [("access_token", .str (Access.issue c client now)),
          ("expires_in", .int (Span.seconds c.tokenLife)), ("token_type", .str "Bearer")])
  | _, _ => unknownClient

end OrderDesk.Http
