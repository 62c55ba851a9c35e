import OrderDesk.Http.Redact
import OrderDesk.Proofs.Json.Places

/-!
# Redaction

A body that is a document is logged as its value, in which every member with a sensitive name holds
a mask, at every depth. Everything else is as it was, so what is logged does not depend on what such
members held.

* `accepted?`               the value of a body that is a document;
* `Clean`                   a place that is not inside a sensitive member;
* `at?_scrub`, `node_scrub`        what is seen at a clean place;
* `Redacts`                 a value with masks in the place of what sensitive members held;
* `Redacts.unique`          there is only one;
* `redaction_exact`         the whole of it.
-/

namespace OrderDesk.Http

open Json (Value Step Node lookup_of_mem)

/-! ## scrubbing -/

/-- what a member holds after redaction -/
def shown (name : String) (v : Value) : Value := if isSensitive name then mask else scrub v

theorem scrubItems_eq (vs : List Value) : scrubItems vs = vs.map scrub := by
  induction vs with
  | nil => rfl
  | cons v vs ih => rw [scrubItems, ih, List.map_cons]

theorem scrubMembers_eq (ms : List (String × Value)) :
    scrubMembers ms = ms.map fun m => (m.1, shown m.1 m.2) := by
  induction ms with
  | nil => rfl
  | cons m ms ih =>
    obtain ⟨k, v⟩ := m
    rw [scrubMembers, ih, List.map_cons]
    rfl

section
variable {v w w' : Value} {p : List Step} {name : String}

theorem scrub_arr (vs : List Value) : scrub (.arr vs) = .arr (vs.map scrub) := by
  rw [scrub, scrubItems_eq]

theorem scrub_obj (ms : List (String × Value)) :
    scrub (.obj ms) = .obj (ms.map fun m => (m.1, shown m.1 m.2)) := by
  rw [scrub, scrubMembers_eq]

theorem scrub_leaf (h : v.isLeaf = true) : scrub v = v := by
  cases v with
  | arr | obj => cases h
  | _ => rfl

theorem shown_idem (h : scrub (scrub v) = scrub v) : shown name (shown name v) = shown name v := by
  unfold shown
  split
  · rfl
  · exact h

/-- **A scrubbed value has nothing left to scrub.** -/
theorem scrub_idem (v : Value) : scrub (scrub v) = scrub v := by
  induction v using Value.by_parts with
  | leaf v h => rw [scrub_leaf h, scrub_leaf h]
  | arr vs ih =>
    rw [scrub_arr, scrub_arr, List.map_map]
    exact congrArg Value.arr (List.map_congr_left fun v hv => ih v hv)
  | obj ms ih =>
    rw [scrub_obj, scrub_obj, List.map_map]
    refine congrArg Value.obj (List.map_congr_left fun m hm => ?_)
    rw [Function.comp_apply, shown_idem (ih m hm)]

theorem tidy_scrub (h : v.Tidy) : (scrub v).Tidy := by
  induction h with
  | leaf h =>
    rw [scrub_leaf h]
    exact .leaf h
  | arr _ ih =>
    rw [scrub_arr]
    refine .arr fun v hv => ?_
    obtain ⟨u, hu, rfl⟩ := List.mem_map.mp hv
    exact ih u hu
  | obj hn _ ih =>
    rw [scrub_obj]
    refine .obj (by rwa [List.map_map]) fun m hm => ?_
    obtain ⟨u, hu, rfl⟩ := List.mem_map.mp hm
    unfold shown
    split
    · exact .leaf rfl
    · exact ih u hu

/-! ## places -/

/-- A step into a sensitive member. -/
def Hidden : Step → Prop
  | .item _ => False
  | .member name => isSensitive name = true

/-- A place that is not inside a sensitive member. -/
def Clean (p : List Step) : Prop := ∀ s ∈ p, ¬ Hidden s

/-- what is seen of a value that is scrubbed, but for what its parts hold -/
theorem node_scrub (v : Value) : (scrub v).node = v.node := by
  induction v using Value.by_parts with
  | leaf v h => rw [scrub_leaf h]
  | arr vs => simp [scrub_arr, Value.node]
  | obj ms => simp [scrub_obj, Value.node]

theorem lookup_shown (ms : List (String × Value)) (name : String) :
    (ms.map fun m => (m.1, shown m.1 m.2)).lookup name = (ms.lookup name).map (shown name) := by
  induction ms with
  | nil => rfl
  | cons m ms ih =>
    obtain ⟨k, v⟩ := m
    rw [List.map_cons, List.lookup_cons, List.lookup_cons]
    cases hk : name == k with
    | true => rw [eq_of_beq hk]; rfl
    | false => exact ih

theorem child?_scrub_member (v : Value) (name : String) :
    (scrub v).child? (.member name) = (v.child? (.member name)).map (shown name) := by
  induction v using Value.by_parts with
  | leaf v h => rw [scrub_leaf h, Value.child?_of_leaf h]; rfl
  | arr vs => rw [scrub_arr]; rfl
  | obj ms => rw [scrub_obj]; exact lookup_shown ms name

theorem child?_scrub {s : Step} (hs : ¬ Hidden s) (v : Value) :
    (scrub v).child? s = (v.child? s).map scrub := by
  cases s with
  | item i =>
    induction v using Value.by_parts with
    | leaf v h => rw [scrub_leaf h, Value.child?_of_leaf h]; rfl
    | arr vs => rw [scrub_arr]; exact List.getElem?_map
    | obj ms => rw [scrub_obj]; rfl
  | member name =>
    have hshown : shown name = scrub := funext fun w => if_neg hs
    rw [child?_scrub_member, hshown]

/-- **At a clean place** there is what was there, scrubbed. -/
theorem at?_scrub (hp : Clean p) (v : Value) : (scrub v).at? p = (v.at? p).map scrub := by
  induction p generalizing v with
  | nil => rfl
  | cons s p ih =>
    rw [Value.at?, Value.at?, child?_scrub (hp s List.mem_cons_self), Option.bind_map,
      Option.map_bind]
    exact congrArg _ (funext fun w => ih (fun s hs => hp s (List.mem_cons_of_mem _ hs)) w)

/-- The value `w` is the value `v` with a mask in the place of what sensitive members held. -/
structure Redacts (v w : Value) : Prop where
  seen : ∀ p, Clean p → (w.at? p).map Value.node = (v.at? p).map Value.node
  masked : ∀ p name, Clean p → isSensitive name = true →
    w.at? (p ++ [.member name]) = (v.at? (p ++ [.member name])).map fun _ => mask

theorem redacts_scrub (v : Value) : Redacts v (scrub v) where
  seen p hp := by
    rw [at?_scrub hp, Option.map_map]
    exact congrArg (fun g => (v.at? p).map g) (funext node_scrub)
  masked p name hp hname := by
    have hmask : shown name = fun _ => mask := funext fun w => if_pos hname
    rw [Value.at?_append, Value.at?_append, at?_scrub hp, Option.bind_map, Option.map_bind]
    refine congrArg _ (funext fun u => ?_)
    show ((scrub u).child? (.member name)).bind some = ((u.child? (.member name)).bind some).map _
    rw [child?_scrub_member, Option.bind_fun_some, Option.bind_fun_some, hmask]

/-- a place is clean, or it is in a sensitive member that is at a clean place -/
theorem clean_or_inside (p : List Step) :
    Clean p ∨ ∃ q name r, p = q ++ .member name :: r ∧ Clean q ∧ isSensitive name = true := by
  induction p with
  | nil => exact .inl fun _ hs => nomatch hs
  | cons s p ih =>
    by_cases hs : Hidden s
    · cases s with
      | item i => exact hs.elim
      | member name => exact .inr ⟨[], name, p, rfl, fun _ h => (nomatch h), hs⟩
    · have hcons : ∀ q, Clean q → Clean (s :: q) := fun q hq t ht => by
        rcases List.mem_cons.mp ht with rfl | ht
        · exact hs
        · exact hq t ht
      rcases ih with hp | ⟨q, name, r, rfl, hq, hname⟩
      · exact .inl (hcons p hp)
      · exact .inr ⟨s :: q, name, r, rfl, hcons q hq, hname⟩

/-- **There is only one way to redact a value.** -/
theorem Redacts.unique (hw : w.Tidy) (hw' : w'.Tidy) (h : Redacts v w) (h' : Redacts v w') :
    w = w' := by
  refine Value.eq_of_nodes hw hw' fun p => ?_
  rcases clean_or_inside p with hp | ⟨q, name, r, rfl, hq, hname⟩
  · rw [h.seen p hp, h'.seen p hp]
  · rw [← List.singleton_append, ← List.append_assoc, Value.at?_append, Value.at?_append w',
      h.masked q name hq hname, h'.masked q name hq hname]

/-- whether an object has a member is seen of the object -/
def memberOf (name : String) (x : Value) : Node → Option Value
  | .obj names => if name ∈ names then some x else none
  | _ => none

theorem lookup_memberOf (ms : List (String × Value)) (name : String) (x : Value) :
    (ms.lookup name).map (fun _ => x) = if name ∈ ms.map Prod.fst then some x else none := by
  induction ms with
  | nil => rfl
  | cons m ms ih =>
    obtain ⟨k, w⟩ := m
    by_cases hk : name = k
    · simp [hk]
    · have hne : (name == k) = false := beq_eq_false_iff_ne.mpr hk
      rw [List.lookup_cons, hne, ih]
      have hmem : name ∈ ((k, w) :: ms).map Prod.fst ↔ name ∈ ms.map Prod.fst := by simp [hk]
      simp only [hmem]

theorem child?_memberOf (v : Value) (name : String) (x : Value) :
    (v.child? (.member name)).map (fun _ => x) = memberOf name x v.node := by
  induction v using Value.by_parts with
  | leaf v h => rw [Value.child?_of_leaf h, Value.node_of_leaf h]; rfl
  | arr vs => rfl
  | obj ms =>
    exact lookup_memberOf ms name x

/-- what is seen at the clean places decides what a value is redacted to -/
theorem Redacts.of_seen {v' : Value} (h : Redacts v w)
    (hsame : ∀ p, Clean p → (v'.at? p).map Value.node = (v.at? p).map Value.node) :
    Redacts v' w where
  seen p hp := (h.seen p hp).trans (hsame p hp).symm
  masked p name hp hname := by
    have hthere : ∀ u : Value, (u.at? (p ++ [.member name])).map (fun _ => mask)
        = ((u.at? p).map Value.node).bind (memberOf name mask) := fun u => by
      rw [Value.at?_append, Option.map_bind, Option.bind_map]
      refine congrArg _ (funext fun a => ?_)
      exact (congrArg _ (Option.bind_fun_some _)).trans (child?_memberOf a name mask)
    rw [h.masked p name hp hname, hthere, hthere, hsame p hp]

end

/-! ## bodies -/

/-- the value of a body that is a document whose numbers are in range -/
def accepted? (body : Octets) : Option Value :=
  (Json.readWhole? (Octets.lossy body)).bind Json.Doc.value?

theorem redact_of_accepted {body : Octets} {v : Value} (h : accepted? body = some v) :
    redact body = Octets.ofText (scrub v).text := by
  unfold accepted? at h
  unfold redact
  rw [h]

theorem redact_of_refused {body : Octets} (h : accepted? body = none) : redact body = body := by
  unfold accepted? at h
  unfold redact
  rw [h]

theorem tidy_of_accepted {body : Octets} {v : Value} (h : accepted? body = some v) : v.Tidy := by
  obtain ⟨d, -, hd⟩ := Option.bind_eq_some_iff.mp h
  exact Json.tidy_of_value? hd

/-- **Redaction is exact.** A body that is a document is logged as the text of its value, with a mask
in the place of whatever a sensitive member held, at every depth, and with everything else as it
was: of all values there is one of that kind only. What two bodies differ in inside such members
does not show, and there is nothing left to be redacted. -/
theorem redaction_exact {body : Octets} {v : Value} (h : accepted? body = some v) :
    redact body = Octets.ofText (scrub v).text ∧
    Redacts v (scrub v) ∧ (∀ w : Value, w.Tidy → Redacts v w → w = scrub v) ∧
    scrub (scrub v) = scrub v ∧
    ∀ body' v', accepted? body' = some v' →
      (∀ p, Clean p → (v'.at? p).map Value.node = (v.at? p).map Value.node) →
      redact body' = redact body := by
  have htidy : v.Tidy := tidy_of_accepted h
  have hunique : ∀ w : Value, w.Tidy → Redacts v w → w = scrub v := fun w hw hr =>
    hr.unique hw (tidy_scrub htidy) (redacts_scrub v)
  refine ⟨redact_of_accepted h, redacts_scrub v, hunique, scrub_idem v,
    fun body' v' h' hsame => ?_⟩
  have htidy' : v'.Tidy := tidy_of_accepted h'
  have hsame' : Redacts v (scrub v') :=
    (redacts_scrub v').of_seen fun p hp => (hsame p hp).symm
  rw [redact_of_accepted h, redact_of_accepted h', hunique _ (tidy_scrub htidy') hsame']

/-! ## a body with secrets -/

/-- a body with a secret in a list, one that is an object, and a name in other letters -/
def secretive : Octets := Octets.ofText
  "\x7b\"a\":[\x7b\"TOKEN\":1,\"n\":2\x7d],\"secret\":\x7b\"x\":[]\x7d,\"to\u212Aen\":\"t\"\x7d"

theorem secretive_redacted : ∃ v, accepted? secretive = some v ∧ Redacts v (scrub v) ∧
    redact secretive = Octets.ofText (scrub v).text ∧ redact secretive = Octets.ofText
      ("\x7b\"a\":[\x7b\"TOKEN\":\"***redacted***\",\"n\":2\x7d],\"secret\":\"***redacted***\"," ++
        "\"to\u212Aen\":\"***redacted***\"\x7d") := by
  have hsome : (accepted? secretive).isSome = true := by decide +kernel
  obtain ⟨v, hv⟩ := Option.isSome_iff_exists.mp hsome
  obtain ⟨htext, hredacts, -⟩ := redaction_exact hv
  exact ⟨v, hv, hredacts, htext, by decide +kernel⟩

end OrderDesk.Http
