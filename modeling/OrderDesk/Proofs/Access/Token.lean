import OrderDesk.Access.Token

/-!
# Tokens that hold

* `eq_of_parts?`            a token is three parts with dots between them;
* `Genuine`                 a token was signed with our key, is meant for us, and holds now;
* `genuine_of_verify?`      every token that is accepted is genuine;
* `Claims.lists_of_permit`  claims permit only what they list.
-/

namespace OrderDesk.Access

open Json (Value)

variable {c : Settings.Security} {now : Int} {raw : String} {claims : Claims}

theorem eq_of_parts? {head payload mark : String} (h : parts? raw = some (head, payload, mark)) :
    raw = head ++ "." ++ payload ++ "." ++ mark := by
  unfold parts? at h
  split at h
  case h_2 => cases h
  case h_1 a b d hsplit =>
    simp only [Option.some.injEq, Prod.mk.injEq] at h
    obtain ⟨rfl, rfl, rfl⟩ := h
    have hjoin : ['.'].intercalate [a, b, d] = raw.toList := by
      rw [← hsplit]
      exact List.intercalate_splitOn '.'
    apply String.toList_injective
    rw [← hjoin]
    simp [List.intercalate]

/-! ## what the claims have to say -/

/-- A claim on a moment is absent, or names one that meets a condition. -/
def MomentClaim.Meets (p : Int → Prop) : MomentClaim → Prop
  | .absent => True
  | .at t => p t
  | .invalid => False

/-- A token and its claims: it was signed with our key by a keyed digest, comes from our issuer and
is meant for us where we have names for them, has not run out and has begun, give or take thirty
seconds. -/
structure Genuine (c : Settings.Security) (now : Int) (raw : String) (claims : Claims) : Prop where
  signed : ∃ head payload mark header name a, raw = head ++ "." ++ payload ++ "." ++ mark ∧
    members? head = some header ∧ members? payload = some claims ∧
    header.lookup "alg" = some (.str name) ∧ Algorithm.ofName? name = some a ∧
    Base64.decodeUrl? mark
      = some (a.mac (Octets.ofText c.jwtSecret) (Octets.ofText (head ++ "." ++ payload)))
  fromIssuer : c.issuer = "" ∨ claims.lookup "iss" = some (.str c.issuer)
  forUs : c.audience = "" ∨ claims.lookup "aud" = some (.str c.audience) ∨
    ∃ vs, claims.lookup "aud" = some (.arr vs) ∧ .str c.audience ∈ vs
  unexpired : (momentClaim claims "exp").Meets fun t => now + epoch < t + 30
  begun : (momentClaim claims "nbf").Meets fun t => t - 30 ≤ now + epoch

theorem meets_of_unexpired (h : unexpired claims now = true) :
    (momentClaim claims "exp").Meets fun t => now + epoch < t + 30 := by
  unfold unexpired at h
  cases hm : momentClaim claims "exp" with
  | absent => trivial
  | «at» t =>
    rw [hm] at h
    have hlt : now + epoch < min (t + leeway) (Int.pow 2 63 - 1) := of_decide_eq_true h
    show now + epoch < t + leeway
    omega
  | invalid =>
    rw [hm] at h
    cases h

theorem meets_of_begun (h : begun claims now = true) :
    (momentClaim claims "nbf").Meets fun t => t - 30 ≤ now + epoch := by
  unfold begun at h
  cases hm : momentClaim claims "nbf" with
  | absent => trivial
  | «at» t =>
    rw [hm] at h
    have hle : max (t - leeway) (-Int.pow 2 63 + 1) ≤ now + epoch := of_decide_eq_true h
    show t - leeway ≤ now + epoch
    omega
  | invalid =>
    rw [hm] at h
    cases h

theorem mem_of_texts? {vs : List Value} {as : List String} {a : String} (h : texts? vs = some as)
    (ha : a ∈ as) : .str a ∈ vs := by
  induction vs generalizing as with
  | nil =>
    cases h
    cases ha
  | cons v vs ih =>
    cases v with
    | str s =>
      obtain ⟨rest, hrest, rfl⟩ := Option.map_eq_some_iff.mp h
      rcases List.mem_cons.mp ha with rfl | hmem
      · exact List.mem_cons_self
      · exact List.mem_cons_of_mem _ (ih hrest hmem)
    | _ => cases h

theorem of_forAudience {expected : String} (h : forAudience expected claims = true) :
    expected = "" ∨ claims.lookup "aud" = some (.str expected) ∨
      ∃ vs, claims.lookup "aud" = some (.arr vs) ∧ .str expected ∈ vs := by
  rcases Bool.or_eq_true_iff.mp h with hnone | hlisted
  · exact .inl (of_decide_eq_true hnone)
  · refine .inr ?_
    unfold audience? at hlisted
    cases haud : claims.lookup "aud" with
    | none => simp [haud] at hlisted
    | some v =>
      cases v with
      | str s =>
        have hs : expected = s := by simpa [haud] using hlisted
        exact .inl (by rw [hs])
      | arr vs =>
        rw [haud] at hlisted
        cases ht : texts? vs with
        | none => simp [ht] at hlisted
        | some as => exact .inr ⟨vs, rfl, mem_of_texts? ht (by simpa [ht] using hlisted)⟩
      | _ => simp [haud] at hlisted

theorem of_fromIssuer {expected : String} (h : fromIssuer expected claims = true) :
    expected = "" ∨ claims.lookup "iss" = some (.str expected) := by
  rcases Bool.or_eq_true_iff.mp h with hnone | hsame
  · exact .inl (of_decide_eq_true hnone)
  · refine .inr ?_
    split at hsame
    case h_1 s hs => rw [hs, eq_of_beq hsame]
    case h_2 => cases hsame

/-- **A token that is accepted is genuine.** -/
theorem genuine_of_verify? (h : verify? c now raw = some claims) : Genuine c now raw claims := by
  unfold verify? at h
  obtain ⟨⟨head, payload, mark⟩, hparts, h⟩ := Option.bind_eq_some_iff.mp h
  obtain ⟨header, hheader, h⟩ := Option.bind_eq_some_iff.mp h
  obtain ⟨read, hread, h⟩ := Option.bind_eq_some_iff.mp h
  obtain ⟨signature, hsignature, h⟩ := Option.bind_eq_some_iff.mp h
  split at h
  case h_2 => cases h
  case h_1 name hname =>
    obtain ⟨a, ha, h⟩ := Option.bind_eq_some_iff.mp h
    obtain ⟨⟨hmac, hclaims⟩, hread'⟩ := Option.ite_none_right_eq_some.mp h
    obtain rfl : read = claims := Option.some.inj hread'
    simp only [claimsHold, Bool.and_eq_true] at hclaims
    obtain ⟨⟨⟨hexp, hnbf⟩, haud⟩, hiss⟩ := hclaims
    exact ⟨⟨head, payload, mark, header, name, a, eq_of_parts? hparts, hheader, hread, hname, ha,
      hmac ▸ hsignature⟩, of_fromIssuer hiss, of_forAudience haud, meets_of_unexpired hexp,
      meets_of_begun hnbf⟩

/-! ## permissions -/

/-- The claims list a permission. -/
def Claims.Lists (claims : Claims) (p : String) : Prop :=
  ∃ vs, claims.lookup "perms" = some (.arr vs) ∧ .str p ∈ vs

theorem Claims.lists_of_mem {p : String} (h : p ∈ Claims.perms claims) : Claims.Lists claims p := by
  unfold Claims.perms at h
  split at h
  case h_2 => cases h
  case h_1 vs hvs =>
    obtain ⟨v, hv, hp⟩ := List.mem_filterMap.mp h
    refine ⟨vs, hvs, ?_⟩
    split at hp
    case h_2 => cases hp
    case h_1 s =>
      split at hp
      · cases hp
      · rwa [← Option.some.inj hp]

theorem Claims.lists_of_permit {required : List String} (h : Claims.permit claims required = true)
    {p : String} (hp : p ∈ required) : Claims.Lists claims p :=
  Claims.lists_of_mem (List.contains_iff_mem.mp (List.all_eq_true.mp h p hp))

end OrderDesk.Access
