import OrderDesk.Http.Serve
import OrderDesk.Proofs.Http.Redaction
import OrderDesk.Proofs.Json.Parallel
import OrderDesk.Proofs.Text.Cuts

/-!
# Secrets in the access log

A body is cut before it is redacted, and what is no document after the cut is logged as it is. So the
log hides what sensitive members hold exactly if what is left of the body is a document.

* `Twins`               two bodies that differ in what sensitive members hold as strings;
* `Twins.parallel`      wherever they are cut, they are read side by side;
* `blind_scrub`         a scrubbed value does not show such strings;
* `Twins.scrubbed`      so the values of both are the same when they are scrubbed;
* `logged_alike_iff`    when the log of both is the same.
-/

namespace OrderDesk.Http

open Json (Doc Value Parallel Owing Blanks IsSpelling Held Blind valuesOf? membersOf? insertMember)
open Octets (lossy stray)

/-! ## two bodies -/

/-- The same bodies, but for the strings that members with sensitive names hold, of which each is as
long as the other. -/
inductive Twins : Octets → Octets → Prop
  | same (t : Octets) : Twins t t
  | text {t s b b' : Octets} (ht : '"' ∉ lossy t) (hs : IsSpelling (lossy s)) (h : Twins b b') :
    Twins (t ++ 0x22 :: (s ++ 0x22 :: b)) (t ++ 0x22 :: (s ++ 0x22 :: b'))
  | secret {t k u w x y b b' : Octets} (ht : '"' ∉ lossy t) (hk : IsSpelling (lossy k))
    (hsensitive : isSensitive (Json.unescape (lossy k)) = true) (hu : Blanks (lossy u))
    (hw : Blanks (lossy w)) (hx : IsSpelling (lossy x)) (hy : IsSpelling (lossy y))
    (hlength : x.length = y.length) (h : Twins b b') :
    Twins (t ++ 0x22 :: (k ++ 0x22 :: (u ++ 0x3A :: (w ++ 0x22 :: (x ++ 0x22 :: b)))))
      (t ++ 0x22 :: (k ++ 0x22 :: (u ++ 0x3A :: (w ++ 0x22 :: (y ++ 0x22 :: b')))))

variable {b b' : Octets}

theorem Twins.symm (h : Twins b b') : Twins b' b := by
  induction h with
  | same t => exact .same t
  | text ht hs _ ih => exact .text ht hs ih
  | secret ht hk hsensitive hu hw hx hy hlength _ ih =>
    exact .secret ht hk hsensitive hu hw hy hx hlength.symm ih

theorem Twins.length_eq (h : Twins b b') : b.length = b'.length := by
  induction h with
  | same => rfl
  | text _ _ _ ih => simp only [List.length_append, List.length_cons, ih]
  | secret _ _ _ _ _ _ _ hlength _ ih =>
    simp only [List.length_append, List.length_cons, hlength, ih]

/-! ## cutting -/

theorem lossy_quote (t r : Octets) : lossy (t ++ 0x22 :: r) = lossy t ++ '"' :: lossy r := by
  rw [Octets.lossy_append t (by decide), Octets.lossy_some (Octets.lead_one (by decide))]
  rfl

theorem lossy_colon (t r : Octets) : lossy (t ++ 0x3A :: r) = lossy t ++ ':' :: lossy r := by
  rw [Octets.lossy_append t (by decide), Octets.lossy_some (Octets.lead_one (by decide))]
  rfl

/-- a cut goes through a first part, or leaves it whole and goes through what follows -/
theorem cut_cases (p : Octets) (n : Nat) : (∀ b, (p ++ b).take n = p.take n) ∨
    ∃ m, ∀ b, (p ++ b).take n = p ++ b.take m := by
  rcases Nat.le_total n p.length with h | h
  · exact .inl fun b => List.take_append_of_le_length h
  · exact .inr ⟨n - p.length, fun b => by rw [List.take_append, List.take_of_length_le h]⟩

theorem Parallel.chars {S : String → Bool} {t cs cs' : List Char} (ht : '"' ∉ t)
    (h : Parallel S cs cs') : Parallel S (t ++ cs) (t ++ cs') := by
  induction t with
  | nil => exact h
  | cons c t ih =>
    exact .char (fun hc => ht (hc ▸ List.mem_cons_self))
      (ih fun hmem => ht (List.mem_cons_of_mem _ hmem))

/-- a string that is cut has no end -/
theorem cut_open {x : Octets} (hx : IsSpelling (lossy x)) (n : Nat) :
    Json.readString? [] (lossy (x.take n)) = none := by
  obtain ⟨cs, j, hcs, hcut⟩ := Octets.lossy_take x n
  rw [hcut]
  refine hx.cut hcs fun hmem => ?_
  have hstray := List.eq_of_mem_replicate hmem
  revert hstray
  decide

/-- **Wherever twins are cut**, they are read side by side. -/
theorem Twins.parallel (h : Twins b b') (n : Nat) :
    Parallel isSensitive (lossy (b.take n)) (lossy (b'.take n)) := by
  induction h generalizing n with
  | same t => exact .same _
  | @text t s b b' ht hs _ ih =>
    obtain ⟨p, hp⟩ : ∃ p : Octets, ∀ r, t ++ 0x22 :: (s ++ 0x22 :: r) = p ++ r :=
      ⟨t ++ 0x22 :: (s ++ [0x22]), fun r => by simp⟩
    rw [hp b, hp b']
    rcases cut_cases p n with hcut | ⟨m, hcut⟩
    · rw [hcut, hcut]
      exact .same _
    · rw [hcut, hcut, ← hp, ← hp]
      simp only [lossy_quote]
      exact Parallel.chars ht (.text hs (ih m))
  | @secret t k u w x y b b' ht hk hsensitive hu hw hx hy hlength _ ih =>
    obtain ⟨p, hp⟩ : ∃ p : Octets,
        ∀ r, t ++ 0x22 :: (k ++ 0x22 :: (u ++ 0x3A :: (w ++ 0x22 :: r))) = p ++ r :=
      ⟨t ++ 0x22 :: (k ++ 0x22 :: (u ++ 0x3A :: (w ++ [0x22]))), fun r => by simp⟩
    rw [hp (x ++ 0x22 :: b), hp (y ++ 0x22 :: b')]
    rcases cut_cases p n with hcut | ⟨m, hcut⟩
    · rw [hcut, hcut]
      exact .same _
    · rw [hcut, hcut, ← hp, ← hp]
      simp only [lossy_quote, lossy_colon]
      refine Parallel.chars ht (.name hk hsensitive ?_)
      rcases Nat.lt_or_ge x.length m with hm | hm
      · -- the cut is behind what the member holds and its closing quote
        obtain ⟨j, rfl⟩ : ∃ j, m = x.length + (j + 1) := ⟨m - x.length - 1, by omega⟩
        rw [List.take_length_add_append, hlength, List.take_length_add_append, List.take_succ_cons,
          List.take_succ_cons, lossy_quote, lossy_quote]
        exact .held hu hw hx hy (ih j)
      · rw [List.take_append_of_le_length hm, List.take_append_of_le_length (hlength ▸ hm)]
        exact .cut hu hw (cut_open hx m) (cut_open hy m)

/-! ## scrubbing -/

/-- documents that are worth the same when their values are scrubbed -/
def Alike (d d' : Doc) : Prop := d.value?.map scrub = d'.value?.map scrub

theorem valuesOf?_scrubbed {ds ds' : List Doc} (h : List.Forall₂ Alike ds ds') :
    (valuesOf? ds).map (List.map scrub) = (valuesOf? ds').map (List.map scrub) := by
  have hcons : ∀ d ds, (valuesOf? (d :: ds)).map (List.map scrub)
      = (d.value?.map scrub).bind fun v => ((valuesOf? ds).map (List.map scrub)).map (v :: ·) := by
    intro d ds
    rw [valuesOf?]
    cases d.value? <;> cases valuesOf? ds <;> rfl
  induction h with
  | nil => rfl
  | cons hd _ ih => rw [hcons, hcons, ih, hd]

/-- what a member shows does not depend on more than what it holds when it is scrubbed -/
theorem shown_of_held {m m' : List Char × Doc} (h : Held isSensitive Alike m m') :
    m.2.value?.map (shown (Json.unescape m.1)) = m'.2.value?.map (shown (Json.unescape m.1)) := by
  rcases h with ⟨-, h | ⟨hsensitive, x, y, hx, hy⟩⟩
  · have hshown : shown (Json.unescape m.1)
        = (fun w => if isSensitive (Json.unescape m.1) then mask else w) ∘ scrub := by
      funext w
      rw [Function.comp_apply, shown]
    rw [hshown, ← Option.map_map, ← Option.map_map, h]
  · have hmask : shown (Json.unescape m.1) = fun _ => mask := funext fun w => if_pos hsensitive
    rw [hx, hy, hmask]
    rfl

theorem scrubMembers_insertMember (k : String) (v : Value) (ms : List (String × Value)) :
    scrubMembers (insertMember k v ms) = insertMember k (shown k v) (scrubMembers ms) := by
  rw [scrubMembers_eq, scrubMembers_eq]
  exact Json.insertMember_map shown

theorem membersOf?_scrubbed {ms ms' : List (List Char × Doc)} {acc acc' : List (String × Value)}
    (h : List.Forall₂ (Held isSensitive Alike) ms ms') (hacc : scrubMembers acc = scrubMembers acc') :
    (membersOf? acc ms).map scrubMembers = (membersOf? acc' ms').map scrubMembers := by
  induction h generalizing acc acc' with
  | nil => exact congrArg some hacc
  | @cons m m' ms ms' hm _ ih =>
    have hshown := shown_of_held hm
    obtain ⟨k, d⟩ := m
    obtain ⟨k', d'⟩ := m'
    obtain rfl : k = k' := hm.1
    dsimp only at hshown
    rw [membersOf?, membersOf?]
    cases hd : d.value? with
    | none =>
      rw [hd, Option.map_none, eq_comm, Option.map_eq_none_iff] at hshown
      rw [hshown]
    | some v =>
      rw [hd, Option.map_some, eq_comm, Option.map_eq_some_iff] at hshown
      obtain ⟨v', hd', hv⟩ := hshown
      rw [hd']
      exact ih (by rw [scrubMembers_insertMember, scrubMembers_insertMember, hacc, hv])

/-- **A scrubbed value does not show** which strings sensitive members hold. -/
theorem blind_scrub : Blind isSensitive Alike where
  refl _ := rfl
  arr ds ds' h := by
    have hmap : ∀ ds, (Doc.arr ds).value?.map scrub
        = ((valuesOf? ds).map (List.map scrub)).map Value.arr := fun ds => by
      rw [Doc.value?, Option.map_map, Option.map_map]
      exact congrArg (fun f => (valuesOf? ds).map f) (funext scrub_arr)
    unfold Alike
    rw [hmap, hmap, valuesOf?_scrubbed h]
  obj ms ms' h := by
    have hmap : ∀ ms, (Doc.obj ms).value?.map scrub
        = ((membersOf? [] ms).map scrubMembers).map Value.obj := fun ms => by
      rw [Doc.value?, Option.map_map, Option.map_map]
      rfl
    unfold Alike
    rw [hmap, hmap, membersOf?_scrubbed h rfl]

/-- **Twins have the same value** when they are scrubbed, or none, wherever they are cut. -/
theorem Twins.scrubbed (h : Twins b b') (n : Nat) :
    (accepted? (b.take n)).map scrub = (accepted? (b'.take n)).map scrub := by
  unfold accepted?
  cases hd : Json.readWhole? (lossy (b.take n)) with
  | some d =>
    obtain ⟨d', hd', halike⟩ := Json.readWhole?_parallel blind_scrub (h.parallel n) hd
    rw [hd']
    exact halike
  | none =>
    cases hd' : Json.readWhole? (lossy (b'.take n)) with
    | none => rfl
    | some d' =>
      obtain ⟨d, hsome, -⟩ := Json.readWhole?_parallel blind_scrub (h.symm.parallel n) hd'
      rw [hd] at hsome
      cases hsome

/-! ## the log -/

theorem redact_take (h : Twins b b') (n : Nat) : redact (b.take n) = redact (b'.take n) ↔
    (accepted? (b.take n)).isSome = true ∨ b.take n = b'.take n := by
  have hscrubbed := h.scrubbed n
  cases ha : accepted? (b.take n) with
  | some v =>
    rw [ha, Option.map_some, eq_comm, Option.map_eq_some_iff] at hscrubbed
    obtain ⟨v', ha', hv⟩ := hscrubbed
    rw [redact_of_accepted ha, redact_of_accepted ha', hv]
    exact iff_of_true rfl (.inl rfl)
  | none =>
    rw [ha, Option.map_none, eq_comm, Option.map_eq_none_iff] at hscrubbed
    rw [redact_of_refused ha, redact_of_refused hscrubbed]
    exact ⟨.inr, fun h => h.resolve_left nofun⟩

theorem loggedRequest_eq (r : Request) : loggedRequest r =
    if isJson (r.header "Content-Type") then
      redact (r.body.take loggedLimit) ++ (if loggedLimit < r.body.length then cutMark else [])
    else [] := by
  unfold loggedRequest cap
  split
  · by_cases hlong : loggedLimit < r.body.length
    · simp only [if_pos hlong, if_true]
    · simp only [if_neg hlong, List.take_of_length_le (Nat.not_lt.mp hlong), Bool.false_eq_true,
        if_false]
  · rfl

/-- **When the access log hides secrets.** Two requests with the same headers, whose bodies differ in
what sensitive members hold as strings and in nothing else, are logged alike exactly if their bodies
are not logged at all, or what is left of them by the cut is a document whose numbers are in range,
or that is the same of both. Otherwise their secrets are in the log. -/
theorem logged_alike_iff {r r' : Request} (hheaders : r.headers = r'.headers)
    (hbodies : Twins r.body r'.body) : loggedRequest r = loggedRequest r' ↔
      isJson (r.header "Content-Type") = false ∨
      (accepted? (r.body.take loggedLimit)).isSome = true ∨
      r.body.take loggedLimit = r'.body.take loggedLimit := by
  have hheader : r'.header "Content-Type" = r.header "Content-Type" := by
    unfold Request.header
    rw [hheaders]
  rw [loggedRequest_eq, loggedRequest_eq, hheader, ← hbodies.length_eq, ← redact_take hbodies]
  cases isJson (r.header "Content-Type") with
  | false => exact iff_of_true rfl (.inl rfl)
  | true => simp only [if_true, List.append_cancel_right_eq, Bool.true_eq_false, false_or]

/-! ## a token in the log -/

theorem json_places : ∀ k < 15, (⟨k⟩ : String.Pos.Raw).atEnd "application/json" = false ∧
    String.Pos.Raw.next "application/json" ⟨k⟩ = ⟨k + 1⟩ ∧
    (⟨k + 1⟩ : String.Pos.Raw).atEnd "application/json" = false := by
  decide +kernel

/-- a text is split at itself, from any of its characters on -/
theorem split_json (n : Nat) : ∀ k, k + n = 15 →
    String.splitOnAux "application/json" "application/json" 0 ⟨k⟩ ⟨k⟩ [] = ["", ""] := by
  induction n with
  | zero =>
    intro k hk
    obtain rfl : k = 15 := by omega
    have hlast : (⟨15⟩ : String.Pos.Raw).atEnd "application/json" = false ∧
        String.Pos.Raw.next "application/json" ⟨15⟩ = ⟨16⟩ ∧
        (⟨16⟩ : String.Pos.Raw).atEnd "application/json" = true := by decide +kernel
    rw [String.splitOnAux]
    simp only [hlast.1, hlast.2.1, hlast.2.2, beq_self_eq_true, if_true, Bool.false_eq_true, if_false]
    rw [String.splitOnAux]
    simp only [hlast.2.2, if_true]
    decide +kernel
  | succ n ih =>
    intro k hk
    obtain ⟨hhere, hnext, hthere⟩ := json_places k (by omega)
    rw [String.splitOnAux]
    simp only [hhere, hnext, hthere, beq_self_eq_true, if_true, Bool.false_eq_true, if_false]
    exact ih (k + 1) (by omega)

theorem isJson_json : isJson "application/json" = true := by
  have hsplit : "application/json".splitOn "application/json" = ["", ""] := by
    have hne : ("application/json" == "") = false := by decide
    unfold String.splitOn
    rw [hne]
    exact split_json 15 0 rfl
  unfold isJson
  rw [hsplit]
  rfl

/-- a request with a token of two letters in its body -/
def tokenRequest (token rest : String) : Request :=
  ⟨"POST", Octets.ofText "/v1/orders", none, [("Content-Type", "application/json")],
    Octets.ofText "\x7b" ++ 0x22 :: (Octets.ofText "token" ++ 0x22 :: ([] ++ 0x3A ::
      ([] ++ 0x22 :: (Octets.ofText token ++ 0x22 :: Octets.ofText rest))))⟩

theorem tokenRequest_twins {x y rest : String} (hx : IsSpelling (lossy (Octets.ofText x)))
    (hy : IsSpelling (lossy (Octets.ofText y)))
    (hlength : (Octets.ofText x).length = (Octets.ofText y).length) :
    Twins (tokenRequest x rest).body (tokenRequest y rest).body := by
  have hquote : '"' ∉ lossy (Octets.ofText "\x7b") := by decide +kernel
  have hname : IsSpelling (lossy (Octets.ofText "token")) := by
    rw [Octets.lossy_ofText]
    unfold IsSpelling
    decide +kernel
  have hsensitive : isSensitive (Json.unescape (lossy (Octets.ofText "token"))) = true := by
    decide +kernel
  have hblanks : Blanks (lossy []) := by
    rw [Octets.lossy_nil]
    exact fun _ h => nomatch h
  exact .secret hquote hname hsensitive hblanks hblanks hx hy hlength (.same _)

theorem spelling_ab_xy : IsSpelling (lossy (Octets.ofText "ab")) ∧
    IsSpelling (lossy (Octets.ofText "xy")) := by
  rw [Octets.lossy_ofText, Octets.lossy_ofText]
  unfold IsSpelling
  decide +kernel

variable {token rest : String}

theorem tokenRequest_type :
    (tokenRequest token rest).header "Content-Type" = "application/json" := by
  unfold Request.header tokenRequest
  simp

/-- two tokens that the log does not tell apart -/
theorem tokens_hidden : (tokenRequest "ab" "\x7d").headers = (tokenRequest "xy" "\x7d").headers ∧
    Twins (tokenRequest "ab" "\x7d").body (tokenRequest "xy" "\x7d").body ∧
    (tokenRequest "ab" "\x7d").body ≠ (tokenRequest "xy" "\x7d").body ∧
    loggedRequest (tokenRequest "ab" "\x7d") = loggedRequest (tokenRequest "xy" "\x7d") := by
  have hheaders : (tokenRequest "ab" "\x7d").headers = (tokenRequest "xy" "\x7d").headers := rfl
  have htwins : Twins (tokenRequest "ab" "\x7d").body (tokenRequest "xy" "\x7d").body :=
    tokenRequest_twins spelling_ab_xy.1 spelling_ab_xy.2 (by decide +kernel)
  have haccepted : (accepted? ((tokenRequest "ab" "\x7d").body.take loggedLimit)).isSome = true := by
    decide +kernel
  exact ⟨hheaders, htwins, by decide +kernel,
    (logged_alike_iff hheaders htwins).mpr (.inr (.inl haccepted))⟩

/-- two tokens that the log tells apart, since a number of the body is out of range -/
theorem tokens_logged : (tokenRequest "ab" ",\"n\":1e999\x7d").headers
      = (tokenRequest "xy" ",\"n\":1e999\x7d").headers ∧
    Twins (tokenRequest "ab" ",\"n\":1e999\x7d").body (tokenRequest "xy" ",\"n\":1e999\x7d").body ∧
    loggedRequest (tokenRequest "ab" ",\"n\":1e999\x7d")
      ≠ loggedRequest (tokenRequest "xy" ",\"n\":1e999\x7d") := by
  refine ⟨rfl, tokenRequest_twins spelling_ab_xy.1 spelling_ab_xy.2 (by decide +kernel), ?_⟩
  rw [loggedRequest_eq, loggedRequest_eq, tokenRequest_type, tokenRequest_type, isJson_json]
  decide +kernel

end OrderDesk.Http
