import OrderDesk.Proofs.Access.Token
import OrderDesk.Proofs.Json.Meanings
import OrderDesk.Proofs.Text.Base64
import OrderDesk.Proofs.Text.Octets

/-!
# Tokens that are issued

What is signed is read back: a token splits into the parts it was put together from, and its claims
are those that were written. The claims of a client's token hold under the settings it was issued
under, from half a minute before it was issued until half a minute after it ran out.

* `parts?_sign`              a signed token splits into its parts;
* `members?_encodeUrl`       a part that spells a written object is read as what the object means;
* `verify?_sign`             a signed token is accepted if its digest is right and its claims hold;
* `issuedAs`                 the claims that a client's token is read as;
* `verify?_issue`            a client's token is accepted if they hold;
* `claimsHold_issuedAs`      under its own settings they hold all its life;
* `not_claimsHold_of_strange`    under a strange issuer or audience they never hold.
-/

namespace OrderDesk.Access

open Json (Value Means)

/-! ## signing and checking -/

section
variable {a : Algorithm} {key header claims : Octets}

theorem dot_notMem_encodeUrl (bs : Octets) : '.' ∉ (Base64.encodeUrl bs).toList := fun h =>
  Base64.ne_of_urlSafe (Base64.encodeUrl_safe h) (by decide) rfl

theorem parts?_sign : parts? (sign a key header claims)
    = some (Base64.encodeUrl header, Base64.encodeUrl claims,
        Base64.encodeUrl (a.mac key (Octets.ofText (signedPart header claims)))) := by
  have htext : (sign a key header claims).toList = ['.'].intercalate
      [(Base64.encodeUrl header).toList, (Base64.encodeUrl claims).toList,
        (Base64.encodeUrl (a.mac key (Octets.ofText (signedPart header claims)))).toList] := by
    simp [sign, signedPart, List.intercalate]
  unfold parts?
  rw [htext, List.splitOn_intercalate '.' (by simp [dot_notMem_encodeUrl]) (by simp)]
  simp only [String.ofList_toList]

end

section
variable {v : Value} {ms : Claims}

/-- a part that spells a written object is read as what the object means -/
theorem members?_encodeUrl (hfits : v.fits Json.maxDepth = true)
    (hms : v.doc.value? = some (.obj ms)) :
    members? (Base64.encodeUrl (Octets.ofText v.text)) = some ms := by
  unfold members?
  simp only [Base64.decodeUrl?_encodeUrl, Octets.lossy_ofText, Json.readWhole?_text hfits,
    Option.bind_eq_bind, Option.bind_some, hms]

/-- **A signed token is accepted exactly if its digest is right and its claims hold.** -/
theorem verify?_sign (c : Settings.Security) (now : Int) (key : Octets) {a : Algorithm}
    {header claims : Value} {hs ms : Claims} {name : String}
    (hheader : members? (Base64.encodeUrl (Octets.ofText header.text)) = some hs)
    (hclaims : members? (Base64.encodeUrl (Octets.ofText claims.text)) = some ms)
    (halg : hs.lookup "alg" = some (.str name)) (hname : Algorithm.ofName? name = some a) :
    verify? c now (sign a key (Octets.ofText header.text) (Octets.ofText claims.text))
      = let part := Octets.ofText
          (signedPart (Octets.ofText header.text) (Octets.ofText claims.text))
        if a.mac key part = a.mac (Octets.ofText c.jwtSecret) part ∧ claimsHold c now ms = true
        then some ms else none := by
  unfold verify?
  simp only [parts?_sign, hheader, hclaims, halg, hname, Base64.decodeUrl?_encodeUrl,
    Option.bind_eq_bind, Option.bind_some]
  rfl

end

/-! ## the claims of a client's token -/

/-- the claims that a client's token is read as: the binary numbers `stop` and `start` stand for
when it runs out and when it was issued -/
def issuedAs (c : Settings.Security) (client : Client) (stop start : Binary64) : Claims :=
  [("aud", .str c.audience), ("clientID", .str client.id), ("exp", .num stop), ("iat", .num start),
    ("iss", .str c.issuer), ("nbf", .num start), ("perms", .arr (client.perms.map .str))]

section
variable {c : Settings} {client : Client} {now : Stamp} {stop start : Binary64}

theorem members?_issuedHeader :
    members? (Base64.encodeUrl (Octets.ofText issuedHeader.text))
      = some [("alg", .str "HS256"), ("typ", .str "JWT")] := by
  refine members?_encodeUrl rfl (Json.value?_doc_obj ?_ ?_)
  · exact .cons ⟨rfl, Json.value?_doc_str _⟩ (.cons ⟨rfl, Json.value?_doc_str _⟩ .nil)
  · unfold Json.Rising
    decide

theorem issuedClaims_fits : (issuedClaims c client now).fits Json.maxDepth = true := by
  have hperms : Json.fitsItems (Json.maxDepth - 2) (client.perms.map .str) = true :=
    Json.fitsItems_map (fun _ => rfl) client.perms
  simpa [issuedClaims, Value.fits, Json.fitsMembers, Json.maxDepth] using hperms

theorem members?_issuedClaims (client : Client) (hstart : now.seconds.natAbs < 2 ^ 53)
    (hstop : (now.addNanos c.tokenLife).seconds.natAbs < 2 ^ 53) :
    ∃ stop start : Binary64, stop.Counts (now.addNanos c.tokenLife).seconds ∧
      start.Counts now.seconds ∧
      members? (Base64.encodeUrl (Octets.ofText (issuedClaims c client now).text))
        = some (issuedAs c.security client stop start) := by
  obtain ⟨start, hs, hstart⟩ := Json.value?_doc_int hstart
  obtain ⟨stop, hu, hstop⟩ := Json.value?_doc_int hstop
  refine ⟨stop, start, hstop, hstart, members?_encodeUrl issuedClaims_fits ?_⟩
  refine Json.value?_doc_obj ?_ ?_
  · exact .cons ⟨rfl, Json.value?_doc_str _⟩ (.cons ⟨rfl, Json.value?_doc_str _⟩
      (.cons ⟨rfl, hu⟩ (.cons ⟨rfl, hs⟩ (.cons ⟨rfl, Json.value?_doc_str _⟩
        (.cons ⟨rfl, hs⟩ (.cons ⟨rfl, Json.value?_doc_texts _⟩ .nil))))))
  · show ["aud", "clientID", "exp", "iat", "iss", "nbf", "perms"].Pairwise (· < ·)
    decide

theorem verify?_issue (client : Client) (hstart : now.seconds.natAbs < 2 ^ 53)
    (hstop : (now.addNanos c.tokenLife).seconds.natAbs < 2 ^ 53) :
    ∃ stop start : Binary64, stop.Counts (now.addNanos c.tokenLife).seconds ∧
      start.Counts now.seconds ∧ ∀ (s : Settings.Security) (t : Int),
        (claimsHold s t (issuedAs c.security client stop start) = false →
          verify? s t (issue c client now) = none) ∧
        (s = c.security → claimsHold s t (issuedAs c.security client stop start) = true →
          verify? s t (issue c client now) = some (issuedAs c.security client stop start)) := by
  obtain ⟨stop, start, hstop, hstart, hclaims⟩ := members?_issuedClaims client hstart hstop
  refine ⟨stop, start, hstop, hstart, fun s t => ?_⟩
  have hcheck := verify?_sign s t (Octets.ofText c.security.jwtSecret) members?_issuedHeader hclaims
    rfl rfl
  refine ⟨fun hstrange => hcheck.trans (if_neg fun h => ?_), ?_⟩
  · rw [hstrange] at h
    cases h.2
  · rintro rfl hhold
    exact hcheck.trans (if_pos ⟨rfl, hhold⟩)

end

/-! ## when they hold -/

section
variable {claims : Claims} {name : String} {x : Binary64} {n t : Int} (hx : x.Counts n)
  (hn : n.natAbs < 2 ^ 53)
include hx hn

theorem moment_of_counts : moment x = n + epoch := by
  have hword : Int.pow 2 63 = 9223372036854775808 := rfl
  have hepoch : epoch = 62135596800 := rfl
  have hrange : Word.InRange n ∧ Word.InRange (n + epoch) := by
    unfold Word.InRange
    omega
  unfold moment
  dsimp only
  rw [hx.truncate, if_pos hrange.1, hx.fraction, if_neg (lt_irrefl 0),
    Word.wrap_of_inRange hrange.2]

theorem momentClaim_of_counts (h : claims.lookup name = some (.num x)) :
    momentClaim claims name = if n = 0 then .absent else .at (n + epoch) := by
  unfold momentClaim
  rw [h]
  dsimp only
  rw [moment_of_counts hx hn]
  simp only [hx.mant]

theorem unexpired_of_counts (h : claims.lookup "exp" = some (.num x)) (ht : t < n + 30) :
    unexpired claims t = true := by
  unfold unexpired
  rw [momentClaim_of_counts hx hn h]
  -- the moment zero counts as none, and then there is no end
  by_cases hzero : n = 0
  · rw [if_pos hzero]
  · rw [if_neg hzero]
    have hword : Int.pow 2 63 = 9223372036854775808 := rfl
    have hepoch : epoch = 62135596800 := rfl
    have hleeway : leeway = 30 := rfl
    exact decide_eq_true (by omega)

theorem begun_of_counts (h : claims.lookup "nbf" = some (.num x)) (ht : n - 30 ≤ t) :
    begun claims t = true := by
  unfold begun
  rw [momentClaim_of_counts hx hn h]
  by_cases hzero : n = 0
  · rw [if_pos hzero]
  · rw [if_neg hzero]
    have hword : Int.pow 2 63 = 9223372036854775808 := rfl
    have hepoch : epoch = 62135596800 := rfl
    have hleeway : leeway = 30 := rfl
    exact decide_eq_true (by omega)

end

section
variable {c s : Settings.Security} {client : Client} {stop start : Binary64}

theorem forAudience_issuedAs {expected : String} :
    forAudience expected (issuedAs c client stop start) = true ↔
      expected = "" ∨ expected = c.audience := by
  have haudience : audience? (issuedAs c client stop start) = some [c.audience] := rfl
  simp [forAudience, haudience]

theorem fromIssuer_issuedAs {expected : String} :
    fromIssuer expected (issuedAs c client stop start) = true ↔
      expected = "" ∨ expected = c.issuer := by
  have hissuer : (issuedAs c client stop start).lookup "iss" = some (.str c.issuer) := rfl
  unfold fromIssuer
  rw [hissuer, Bool.or_eq_true, decide_eq_true_iff]
  exact or_congr_right (beq_iff_eq.trans eq_comm)

/-- **Under its own settings a token holds all its life**, half a minute before and after included. -/
theorem claimsHold_issuedAs {first last t : Int} (hstop : stop.Counts last)
    (hstart : start.Counts first) (hlast : last.natAbs < 2 ^ 53) (hfirst : first.natAbs < 2 ^ 53)
    (hfrom : first - 30 ≤ t) (hto : t < last + 30) :
    claimsHold c t (issuedAs c client stop start) = true := by
  unfold claimsHold
  rw [unexpired_of_counts hstop hlast rfl hto, begun_of_counts hstart hfirst rfl hfrom,
    forAudience_issuedAs.mpr (.inr rfl), fromIssuer_issuedAs.mpr (.inr rfl)]
  rfl

/-- The settings have an issuer or an audience, and it is another. -/
def Strange (c s : Settings.Security) : Prop :=
  (s.issuer ≠ "" ∧ s.issuer ≠ c.issuer) ∨ (s.audience ≠ "" ∧ s.audience ≠ c.audience)

theorem not_claimsHold_of_strange (h : Strange c s) (t : Int) :
    claimsHold s t (issuedAs c client stop start) = false := by
  rw [Bool.eq_false_iff]
  intro hhold
  simp only [claimsHold, Bool.and_eq_true] at hhold
  obtain ⟨⟨-, haudience⟩, hissuer⟩ := hhold
  rcases h with ⟨hnamed, hother⟩ | ⟨hnamed, hother⟩
  · exact (fromIssuer_issuedAs.mp hissuer).elim hnamed hother
  · exact (forAudience_issuedAs.mp haudience).elim hnamed hother

/-! ## what they permit -/

theorem mem_perms_issuedAs {p : String} (hp : p ≠ "") :
    p ∈ Claims.perms (issuedAs c client stop start) ↔ p ∈ client.perms := by
  have hperms : (issuedAs c client stop start).lookup "perms"
      = some (.arr (client.perms.map .str)) := rfl
  unfold Claims.perms
  rw [hperms]
  dsimp only
  rw [List.filterMap_map, List.mem_filterMap]
  constructor
  · rintro ⟨q, hq, hkept⟩
    obtain ⟨-, hsame⟩ := Option.ite_none_left_eq_some.mp hkept
    rwa [← Option.some.inj hsame]
  · exact fun hmem => ⟨p, hmem, if_neg hp⟩

theorem permit_issuedAs {p : String} (hp : p ≠ "") :
    Claims.permit (issuedAs c client stop start) [p] = decide (p ∈ client.perms) := by
  simp [Claims.permit, mem_perms_issuedAs hp]

end

/-! ## how long a token lives -/

/-- a token of `n` minutes runs out after `60 * n` seconds, if that many fit a length of time -/
theorem tokenLife_eq {c : Settings} (h : 1 ≤ c.security.ttl ∧ c.security.ttl ≤ 153722867) :
    c.tokenLife = c.security.ttl * 60 * 1000000000 := by
  have hword : Int.pow 2 63 = 9223372036854775808 := rfl
  have hlength : c.security.ttl * (60 * Settings.second) = c.security.ttl * 60 * 1000000000 := by
    rw [show Settings.second = 1000000000 from rfl, Int.mul_assoc]
  unfold Settings.tokenLife
  rw [hlength]
  exact Word.wrap_of_inRange (by unfold Word.InRange; omega)

theorem addNanos_tokenLife {c : Settings} {now : Stamp} (hnanos : now.nanos < 1000000000)
    (h : 1 ≤ c.security.ttl ∧ c.security.ttl ≤ 153722867) :
    (now.addNanos c.tokenLife).seconds = now.seconds + 60 * c.security.ttl := by
  rw [tokenLife_eq h]
  show now.seconds + (now.nanos + c.security.ttl * 60 * 1000000000).fdiv 1000000000 = _
  rw [Int.fdiv_eq_ediv_of_nonneg _ (by decide)]
  omega

end OrderDesk.Access
