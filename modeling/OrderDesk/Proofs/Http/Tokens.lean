import OrderDesk.Proofs.Access.Issued
import OrderDesk.Proofs.Http.Permission

/-!
# From the token to the check

The handler that issues tokens and the check in front of the routes share nothing but the text of
the token. A client that shows its id and secret gets a token, and this token lets requests pass
for exactly the permissions of the client, under the settings it was issued under.

* `Asks`                    a request shows the id and the secret of a client;
* `issueToken_of_asks`      it is answered with a token;
* `bearer?_of_header`       the check finds the token in a request that carries it;
* `token_opens_exactly`     what the token lets pass, and what it does not.
-/

namespace OrderDesk.Http

open Access (Client Strange)

/-! ## asking -/

/-- The form of a request shows the id and the secret of a client. -/
structure Asks (r : Request) (client : Client) : Prop where
  id : first r.formPairs "client_id" = Octets.ofText client.id
  secret : first r.formPairs "client_secret" = Octets.ofText client.secret

/-- The clients have this one under its id, and it may ask: it is enabled, and neither its id nor
its secret is empty. -/
structure Enrolled (clients : List Client) (client : Client) : Prop where
  found : Access.find? clients client.id = some client
  enabled : client.enabled = true
  id : client.id ≠ ""
  secret : client.secret ≠ ""

variable {c : Settings} {clients : List Client} {client : Client} {now : Stamp} {asking : Request}

theorem authenticate_of_enrolled (h : Enrolled clients client) :
    Access.authenticate clients client.id client.secret = some client := by
  unfold Access.authenticate
  rw [h.found, Option.bind_eq_bind, Option.bind_some, h.enabled]
  exact if_pos (by simp)

/-- who shows the id and the secret of a client gets its token -/
theorem issueToken_of_asks (h : Enrolled clients client) (hasks : Asks asking client) :
    issueToken c clients now asking = .json 200 (.obj [
      ("access_token", .str (Access.issue c client now)),
      ("expires_in", .int (Span.seconds c.tokenLife)), ("token_type", .str "Bearer")]) := by
  have hshown : ¬ (client.id = "" ∨ client.secret = "") := by simp [h.id, h.secret]
  unfold issueToken
  simp only [hasks.id, hasks.secret, Octets.toText?_ofText, if_neg hshown,
    authenticate_of_enrolled h]

/-! ## showing the token -/

section
variable {s : Settings.Security} {t : Int} {perms : List String} {r : Request} {raw : String}
  {claims : Access.Claims}

theorem bearer?_of_header (h : r.header "Authorization" = "Bearer " ++ raw) :
    bearer? r = some raw := by
  have hstarts : ("Bearer " ++ raw).startsWith "Bearer " = true :=
    String.startsWith_string_iff.mpr ⟨raw.toList, by simp⟩
  unfold bearer?
  rw [h]
  dsimp only
  rw [if_pos hstarts, String.toList_append]
  exact congrArg some (String.ofList_toList)

theorem require_invalid (hraw : bearer? r = some raw) (hnone : Access.verify? s t raw = none) :
    require s t perms r = .error (turnAway 401 "invalid_token" "invalid jwt") := by
  unfold require
  rw [hraw]
  dsimp only
  rw [hnone]

theorem require_short (hraw : bearer? r = some raw) (hclaims : Access.verify? s t raw = some claims)
    (hlacks : Access.Claims.permit claims perms = false) : require s t perms r
      = .error (turnAway 403 "insufficient_scope" "missing required permissions") := by
  unfold require
  rw [hraw]
  dsimp only
  rw [hclaims]
  exact if_neg (by simp [hlacks])

end

/-- **An issued token lets pass exactly what its client may do.** A client shows its id and secret at
a moment whose seconds, and those of the end of the token's life, a number of a document holds
exactly. Its token, shown under the same settings at any time from half a minute before that moment
until half a minute after the end, passes where one of the client's permissions is asked for, under
the client's name, and is told that it lacks the permission everywhere else. Where the issuer or the
audience is another, it is never accepted. -/
theorem token_opens_exactly (hlife : 1 ≤ c.security.ttl ∧ c.security.ttl ≤ 153722867)
    (hnanos : now.nanos < 1000000000) (hfirst : -2 ^ 53 < now.seconds)
    (hlast : now.seconds + 60 * c.security.ttl < 2 ^ 53)
    (henrolled : Enrolled clients client) (hasks : Asks asking client) :
    ∃ token, issueToken c clients now asking = .json 200 (.obj [("access_token", .str token),
        ("expires_in", .int (Span.seconds c.tokenLife)), ("token_type", .str "Bearer")]) ∧
      ∀ r : Request, r.header "Authorization" = "Bearer " ++ token →
        (∀ (t : Int) (p : String), now.seconds - 30 ≤ t →
          t < now.seconds + 60 * c.security.ttl + 30 → p ≠ "" →
          require c.security t [p] r = if p ∈ client.perms then .ok (some client.id)
            else .error (turnAway 403 "insufficient_scope" "missing required permissions")) ∧
        ∀ (s : Settings.Security) (t : Int) (perms : List String), Strange c.security s →
          require s t perms r = .error (turnAway 401 "invalid_token" "invalid jwt") := by
  have hend := Access.addNanos_tokenLife hnanos hlife
  have hstart : now.seconds.natAbs < 2 ^ 53 := by omega
  have hstop : (now.addNanos c.tokenLife).seconds.natAbs < 2 ^ 53 := by omega
  obtain ⟨stop, start, hcounts, hcounts', hverify⟩ := Access.verify?_issue client hstart hstop
  refine ⟨Access.issue c client now, issueToken_of_asks henrolled hasks, fun r hr => ⟨?_, ?_⟩⟩
  · intro t p hfrom hto hp
    have hraw := bearer?_of_header hr
    have hhold : Access.claimsHold c.security t (Access.issuedAs c.security client stop start) = true :=
      Access.claimsHold_issuedAs hcounts hcounts' hstop hstart hfrom (by omega)
    have hclaims := (hverify c.security t).2 rfl hhold
    have hpermit : Access.Claims.permit (Access.issuedAs c.security client stop start) [p]
        = decide (p ∈ client.perms) := Access.permit_issuedAs hp
    by_cases hmay : p ∈ client.perms
    · rw [if_pos hmay]
      exact require_ok hraw hclaims (hpermit.trans (decide_eq_true hmay))
    · rw [if_neg hmay]
      exact require_short hraw hclaims (hpermit.trans (decide_eq_false hmay))
  · intro s t perms hstrange
    exact require_invalid (bearer?_of_header hr)
      ((hverify s t).1 (Access.not_claimsHold_of_strange hstrange t))

/-! ## a client that reads orders -/

/-- settings under which tokens live as long as they can -/
def longLived : Settings where
  security := { jwtSecret := "k", issuer := "desk", audience := "shop", ttl := 153722867 }

/-- a moment of the year 2024 -/
def inMay : Stamp := ⟨1714564800, 999999999, 0⟩

/-- a client that may read orders and nothing else -/
def analyst : Client := ⟨"svc-analytics", "ana-secret", [Access.ordersRead], true⟩

def analystAsks : Request :=
  ⟨"POST", Octets.ofText "/token", none, [("Content-Type", "application/x-www-form-urlencoded")],
    Octets.ofText "client_id=svc-analytics&client_secret=ana-secret"⟩

def shows (token : String) : Request :=
  ⟨"GET", Octets.ofText "/v1/orders", none, [("Authorization", "Bearer " ++ token)], []⟩

/-- in the last second of its token the client reads orders, and writes none; another audience does
not know the token -/
theorem analyst_reads_orders : ∃ token,
    issueToken longLived Access.registered inMay analystAsks = .json 200 (.obj [
      ("access_token", .str token), ("expires_in", .int (Span.seconds longLived.tokenLife)),
      ("token_type", .str "Bearer")]) ∧
    require longLived.security 10937936819 [Access.ordersRead] (shows token)
      = .ok (some "svc-analytics") ∧
    require longLived.security 10937936819 [Access.ordersWrite] (shows token)
      = .error (turnAway 403 "insufficient_scope" "missing required permissions") ∧
    require { longLived.security with audience := "mart" } 1714564800 [Access.ordersRead] (shows token)
      = .error (turnAway 401 "invalid_token" "invalid jwt") := by
  have henrolled : Enrolled Access.registered analyst := ⟨rfl, rfl, by decide, by decide⟩
  have hasks : Asks analystAsks analyst := ⟨by decide +kernel, by decide +kernel⟩
  obtain ⟨token, hissued, hopens⟩ := @token_opens_exactly longLived Access.registered analyst inMay
    analystAsks (by decide) (by decide) (by decide) (by decide) henrolled hasks
  obtain ⟨hown, hstrange⟩ := hopens (shows token) rfl
  refine ⟨token, hissued, ?_, ?_, ?_⟩
  · exact (hown 10937936819 Access.ordersRead (by decide) (by decide) (by decide)).trans
      (if_pos (by decide))
  · exact (hown 10937936819 Access.ordersWrite (by decide) (by decide) (by decide)).trans
      (if_neg (by decide))
  · exact hstrange _ _ _ (.inr ⟨by decide, by decide⟩)

end OrderDesk.Http
