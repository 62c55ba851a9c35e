import OrderDesk.Proofs.Json.Documents

/-!
# Reading two texts side by side

Two texts that are the same, but for the strings that members of certain names hold, are read side by
side: one is a document exactly if the other is, and the documents differ in those strings only.

* `readString?_local`       a string is read up to its closing quote, whatever follows;
* `Parallel`                the same texts, but for the strings of certain members;
* `Owing`                   the same where the name of such a member has been read;
* `Blind`                   a relation of documents that does not see those strings;
* `Carried`                 a reader reads the same of both;
* `readWhole?_parallel`     so does the whole reader, for documents that are blindly the same.
-/

namespace OrderDesk.Json

/-! ## strings -/

/-- **A string is read up to its closing quote**, whatever follows, and whatever was read before. -/
theorem readString?_local {acc cs out r : List Char} (h : readString? acc cs = some (out, r)) :
    ∃ s, out = acc.reverse ++ s ∧ cs = s ++ '"' :: r ∧
      ∀ acc' r', readString? acc' (s ++ '"' :: r') = some (acc'.reverse ++ s, r') := by
  -- on the length, since an escape takes two characters or six at once
  induction hlength : cs.length using Nat.strongRecOn generalizing acc cs with
  | _ n ih =>
  subst hlength
  cases cs with
  | nil => cases h
  | cons c cs =>
  rw [readString?.eq_def] at h
  dsimp only at h
  split at h
  case isTrue hquote =>
    obtain ⟨rfl, rfl⟩ := Prod.mk.inj (Option.some.inj h)
    refine ⟨[], (List.append_nil _).symm, by rw [hquote, List.nil_append], fun acc' r' => ?_⟩
    rw [List.nil_append, readString?.eq_def, List.append_nil]
    rfl
  case isFalse hquote =>
  split at h
  case isTrue => cases h
  case isFalse hlow =>
  split at h
  case isFalse hstroke =>
    obtain ⟨s, rfl, rfl, hread⟩ := ih _ (by simp only [List.length_cons]; omega) h rfl
    refine ⟨c :: s, by simp, rfl, fun acc' r' => ?_⟩
    rw [List.cons_append, readString?.eq_def]
    simp [hquote, hlow, hstroke, hread]
  case isTrue hstroke =>
  subst hstroke
  cases cs with
  | nil => cases h
  | cons e rest =>
  dsimp only at h
  split at h
  case isTrue he =>
    obtain ⟨s, rfl, rfl, hread⟩ := ih _ (by simp only [List.length_cons]; omega) h rfl
    refine ⟨'\\' :: e :: s, by simp, rfl, fun acc' r' => ?_⟩
    rw [List.cons_append, List.cons_append, readString?.eq_def]
    simp [he, hread]
  case isFalse hshort =>
  split at h
  case isFalse => cases h
  case isTrue hu =>
  subst hu
  split at h
  case h_2 => cases h
  case h_1 w x y z rest =>
    obtain ⟨hhex, h⟩ := Option.ite_none_right_eq_some.mp h
    obtain ⟨s, rfl, rfl, hread⟩ := ih _ (by simp only [List.length_cons]; omega) h rfl
    refine ⟨'\\' :: 'u' :: w :: x :: y :: z :: s, by simp, rfl, fun acc' r' => ?_⟩
    simp only [List.cons_append]
    rw [readString?.eq_def]
    simp [hhex, hshort, hread]

/-- The characters are those of a string between its quotes. -/
def IsSpelling (s : List Char) : Prop := readString? [] (s ++ ['"']) = some (s, [])

theorem IsSpelling.read {s : List Char} (h : IsSpelling s) (r : List Char) :
    readString? [] (s ++ '"' :: r) = some (s, r) := by
  obtain ⟨s', hs, -, hread⟩ := readString?_local h
  obtain rfl : s = s' := hs
  exact hread [] r

/-- a part of a string, and characters that are no quotes, are no string to its end -/
theorem IsSpelling.cut {s p t : List Char} (h : IsSpelling s) (hp : p <+: s) (ht : '"' ∉ t) :
    readString? [] (p ++ t) = none := by
  cases hread : readString? [] (p ++ t) with
  | none => rfl
  | some found =>
    exfalso
    obtain ⟨out, r⟩ := found
    obtain ⟨s', -, hsplit, hlocal⟩ := readString?_local hread
    -- the quote that ends it would be in the part, and so the string itself would end there
    have hin : s' ++ ['"'] <+: p := by
      rcases List.append_eq_append_iff.mp hsplit with ⟨a, -, rfl⟩ | ⟨a, rfl, hrest⟩
      · exact absurd (List.mem_append_right a List.mem_cons_self) ht
      · cases a with
        | nil =>
          obtain rfl : '"' :: r = t := hrest
          exact absurd List.mem_cons_self ht
        | cons c a =>
          obtain ⟨rfl, -⟩ := List.cons.inj hrest
          exact ⟨a, by simp⟩
    obtain ⟨rest, rfl⟩ := hin.trans hp
    have htwice := h.read []
    rw [List.append_assoc, List.append_assoc, List.singleton_append, hlocal] at htwice
    have hlength := congrArg List.length (Prod.mk.inj (Option.some.inj htwice)).1
    simp at hlength

/-! ## two texts -/

/-- Blanks. -/
def Blanks (u : List Char) : Prop := ∀ c ∈ u, isSpace c = true

mutual

/-- The same texts, but for the strings that members with names in `S` hold; if the texts are cut,
they may be cut inside such strings. -/
inductive Parallel (S : String → Bool) : List Char → List Char → Prop
  | same (t : List Char) : Parallel S t t
  | char {c : Char} {cs cs' : List Char} (hc : c ≠ '"') (h : Parallel S cs cs') :
    Parallel S (c :: cs) (c :: cs')
  | text {s cs cs' : List Char} (hs : IsSpelling s) (h : Parallel S cs cs') :
    Parallel S ('"' :: (s ++ '"' :: cs)) ('"' :: (s ++ '"' :: cs'))
  | name {s cs cs' : List Char} (hs : IsSpelling s) (hS : S (unescape s) = true)
    (h : Owing S cs cs') : Parallel S ('"' :: (s ++ '"' :: cs)) ('"' :: (s ++ '"' :: cs'))

/-- The same texts behind the name of such a member. -/
inductive Owing (S : String → Bool) : List Char → List Char → Prop
  | held {u w x y cs cs' : List Char} (hu : Blanks u) (hw : Blanks w) (hx : IsSpelling x)
    (hy : IsSpelling y) (h : Parallel S cs cs') :
    Owing S (u ++ ':' :: (w ++ '"' :: (x ++ '"' :: cs))) (u ++ ':' :: (w ++ '"' :: (y ++ '"' :: cs')))
  | cut {u w x y : List Char} (hu : Blanks u) (hw : Blanks w) (hx : readString? [] x = none)
    (hy : readString? [] y = none) :
    Owing S (u ++ ':' :: (w ++ '"' :: x)) (u ++ ':' :: (w ++ '"' :: y))

end

variable {S : String → Bool} {cs cs' t t' r r' : List Char} {c : Char}

theorem Parallel.nil (h : Parallel S [] t) : t = [] := by
  cases h
  rfl

/-- the same character is in front of both -/
theorem Parallel.front (h : Parallel S (c :: cs) t) : ∃ cs', t = c :: cs' := by
  cases h with
  | same => exact ⟨_, rfl⟩
  | char => exact ⟨_, rfl⟩
  | text => exact ⟨_, rfl⟩
  | name => exact ⟨_, rfl⟩

theorem Parallel.lacks (h : Parallel S cs cs') (hne : ∀ rest, cs ≠ c :: rest) (rest : List Char) :
    cs' ≠ c :: rest := by
  rintro rfl
  cases cs with
  | nil => cases h.nil
  | cons d cs =>
    obtain ⟨_, heq⟩ := h.front
    exact hne cs (by rw [(List.cons.inj heq).1])

theorem Parallel.rest (hc : c ≠ '"') (h : Parallel S (c :: cs) (c :: cs')) : Parallel S cs cs' := by
  cases h with
  | same => exact .same _
  | char _ h => exact h
  | text => exact absurd rfl hc
  | name => exact absurd rfl hc

/-- a string is read in both, and is no secret -/
theorem Parallel.string {s : List Char} (h : Parallel S ('"' :: cs) ('"' :: cs'))
    (hread : readString? [] cs = some (s, r)) : ∃ r', readString? [] cs' = some (s, r') ∧
      (Parallel S r r' ∨ S (unescape s) = true ∧ Owing S r r') := by
  cases h with
  | same => exact ⟨r, hread, .inl (.same r)⟩
  | char hc => exact absurd rfl hc
  | text hs h =>
    rw [hs.read] at hread
    obtain ⟨rfl, rfl⟩ := Prod.mk.inj (Option.some.inj hread)
    exact ⟨_, hs.read _, .inl h⟩
  | name hs hS h =>
    rw [hs.read] at hread
    obtain ⟨rfl, rfl⟩ := Prod.mk.inj (Option.some.inj hread)
    exact ⟨_, hs.read _, .inr ⟨hS, h⟩⟩

theorem skip_blanks {u : List Char} (hu : Blanks u) (hc : isSpace c = false) :
    skip (u ++ c :: cs) = c :: cs := by
  unfold skip
  rw [List.dropWhile_append_of_pos hu, List.dropWhile_cons_of_neg (by simp [hc])]

/-- behind the name of such a member there is a colon, and behind that a string, if it is whole -/
theorem Owing.colon (h : Owing S r r') : ∃ t t' z z', skip r = ':' :: t ∧ skip r' = ':' :: t' ∧
    skip t = '"' :: z ∧ skip t' = '"' :: z' ∧ z'.length + 2 ≤ r'.length ∧
    ∀ x q, readString? [] z = some (x, q) →
      ∃ y q', readString? [] z' = some (y, q') ∧ Parallel S q q' := by
  cases h with
  | held hu hw hx hy h =>
    refine ⟨_, _, _, _, skip_blanks hu (by decide), skip_blanks hu (by decide),
      skip_blanks hw (by decide), skip_blanks hw (by decide), ?_, fun x q hread => ?_⟩
    · simp only [List.length_append, List.length_cons]
      omega
    · rw [hx.read] at hread
      obtain ⟨-, rfl⟩ := Prod.mk.inj (Option.some.inj hread)
      exact ⟨_, _, hy.read _, h⟩
  | cut hu hw hx hy =>
    refine ⟨_, _, _, _, skip_blanks hu (by decide), skip_blanks hu (by decide),
      skip_blanks hw (by decide), skip_blanks hw (by decide), ?_, fun x q hread => ?_⟩
    · simp only [List.length_append, List.length_cons]
      omega
    · rw [hx] at hread
      cases hread

/-! ## readers -/

/-- A run of characters that has no quote in it is the same in both. -/
theorem Parallel.span {p : Char → Bool} (hp : p '"' = false) (h : Parallel S cs cs') :
    cs.takeWhile p = cs'.takeWhile p ∧ Parallel S (cs.dropWhile p) (cs'.dropWhile p) := by
  induction cs generalizing cs' with
  | nil =>
    obtain rfl := h.nil
    exact ⟨rfl, .same _⟩
  | cons c cs ih =>
    obtain ⟨cs', rfl⟩ := h.front
    cases hc : p c with
    | true =>
      have hne : c ≠ '"' := by
        rintro rfl
        rw [hp] at hc
        cases hc
      obtain ⟨htake, hdrop⟩ := ih (h.rest hne)
      simp only [List.takeWhile_cons, List.dropWhile_cons, hc, if_true]
      exact ⟨congrArg _ htake, hdrop⟩
    | false => simpa [List.takeWhile_cons, List.dropWhile_cons, hc] using h

theorem Parallel.skip (h : Parallel S cs cs') : Parallel S (skip cs) (skip cs') :=
  (h.span (p := isSpace) (by decide)).2

theorem length_skip (cs : List Char) : (skip cs).length ≤ cs.length :=
  (List.dropWhile_sublist isSpace).length_le

/-- What a reader reads of a text, it reads of a parallel one, and what is left is parallel. -/
def Carried {α : Type} (S : String → Bool) (f : List Char → Option (α × List Char)) : Prop :=
  ∀ cs cs' a r, Parallel S cs cs' → f cs = some (a, r) →
    ∃ r', f cs' = some (a, r') ∧ Parallel S r r' ∧ r'.length ≤ cs'.length

/-- what is made of what was read is made of it in both -/
theorem Carried.map {α β : Type} {f : List Char → Option (α × List Char)} (hf : Carried S f)
    (g : α → β) : Carried S fun cs => (f cs).map fun (a, r) => (g a, r) := by
  intro cs cs' b r h hread
  obtain ⟨⟨a, q⟩, ha, heq⟩ := Option.map_eq_some_iff.mp hread
  obtain ⟨rfl, rfl⟩ := Prod.mk.inj heq
  obtain ⟨r', hr, hpar, hlen⟩ := hf _ _ _ _ h ha
  exact ⟨r', Option.map_eq_some_iff.mpr ⟨(a, r'), hr, rfl⟩, hpar, hlen⟩

theorem digits?_carried : Carried S digits? := by
  intro cs cs' ds r h hread
  obtain ⟨htake, hdrop⟩ := h.span (p := Char.isDigit) (by decide)
  unfold digits? at hread ⊢
  rw [← htake]
  split at hread
  · cases hread
  · obtain ⟨rfl, rfl⟩ := Prod.mk.inj (Option.some.inj hread)
    exact ⟨_, rfl, hdrop, (List.dropWhile_sublist _).length_le⟩

theorem wholePart?_carried : Carried S wholePart? := by
  intro cs cs' ds r h hread
  unfold wholePart? at hread
  split at hread
  · next rest =>
    obtain ⟨rfl, rfl⟩ := Prod.mk.inj (Option.some.inj hread)
    obtain ⟨rest', rfl⟩ := h.front
    exact ⟨rest', rfl, h.rest (by decide), by simp⟩
  · next hne =>
    obtain ⟨r', hr, hpar, hlen⟩ := digits?_carried _ _ _ _ h hread
    refine ⟨r', ?_, hpar, hlen⟩
    unfold wholePart?
    split
    · exact absurd rfl (h.lacks hne _)
    · exact hr

theorem fractionPart?_carried : Carried S fractionPart? := by
  intro cs cs' ds r h hread
  unfold fractionPart? at hread
  split at hread
  · next rest =>
    obtain ⟨rest', rfl⟩ := h.front
    obtain ⟨r', hr, hpar, hlen⟩ := digits?_carried.map ('.' :: ·) _ _ _ _ (h.rest (by decide)) hread
    exact ⟨r', hr, hpar, Nat.le_succ_of_le hlen⟩
  · next hne =>
    obtain ⟨rfl, rfl⟩ := Prod.mk.inj (Option.some.inj hread)
    refine ⟨cs', ?_, h, le_rfl⟩
    unfold fractionPart?
    split
    · exact absurd rfl (h.lacks hne _)
    · rfl

theorem exponentPart?_carried : Carried S exponentPart? := by
  intro cs cs' ds r h hread
  cases cs with
  | nil =>
    obtain rfl := h.nil
    exact ⟨r, hread, .same r, (Prod.mk.inj (Option.some.inj hread)).2 ▸ le_rfl⟩
  | cons c rest =>
    obtain ⟨rest', rfl⟩ := h.front
    unfold exponentPart? at hread ⊢
    dsimp only at hread ⊢
    by_cases hmark : c = 'e' ∨ c = 'E'
    · have hrest : Parallel S rest rest' := h.rest (by rintro rfl; revert hmark; decide)
      rw [if_pos hmark] at hread ⊢
      cases rest with
      | nil => cases hread
      | cons s rest =>
        obtain ⟨rest', rfl⟩ := hrest.front
        dsimp only at hread ⊢
        by_cases hsign : s = '+' ∨ s = '-'
        · rw [if_pos hsign] at hread ⊢
          obtain ⟨r', hr, hpar, hlen⟩ := digits?_carried.map (c :: s :: ·) _ _ _ _
            (hrest.rest (by rintro rfl; revert hsign; decide)) hread
          exact ⟨r', hr, hpar, by simp only [List.length_cons]; omega⟩
        · rw [if_neg hsign] at hread ⊢
          obtain ⟨r', hr, hpar, hlen⟩ := digits?_carried.map (c :: ·) _ _ _ _ hrest hread
          exact ⟨r', hr, hpar, Nat.le_succ_of_le hlen⟩
    · rw [if_neg hmark] at hread ⊢
      obtain ⟨rfl, rfl⟩ := Prod.mk.inj (Option.some.inj hread)
      exact ⟨_, rfl, h, le_rfl⟩

theorem unsigned?_carried : Carried S unsigned? := by
  intro cs cs' ds r h hread
  obtain ⟨⟨w, r₁⟩, hw, hread⟩ := Option.bind_eq_some_iff.mp hread
  obtain ⟨⟨f, r₂⟩, hf, hread⟩ := Option.bind_eq_some_iff.mp hread
  obtain ⟨⟨e, r₃⟩, he, heq⟩ := Option.bind_eq_some_iff.mp hread
  obtain ⟨rfl, rfl⟩ := Prod.mk.inj (Option.some.inj heq)
  obtain ⟨r₁', hw', hpar₁, hlen₁⟩ := wholePart?_carried _ _ _ _ h hw
  obtain ⟨r₂', hf', hpar₂, hlen₂⟩ := fractionPart?_carried _ _ _ _ hpar₁ hf
  obtain ⟨r₃', he', hpar₃, hlen₃⟩ := exponentPart?_carried _ _ _ _ hpar₂ he
  refine ⟨r₃', ?_, hpar₃, by omega⟩
  unfold unsigned?
  simp only [hw', hf', he', Option.bind_eq_bind, Option.bind_some]

theorem number?_carried : Carried S number? := by
  intro cs cs' ds r h hread
  unfold number? at hread
  split at hread
  · next rest =>
    obtain ⟨rest', rfl⟩ := h.front
    obtain ⟨r', hr, hpar, hlen⟩ :=
      unsigned?_carried.map ('-' :: ·) _ _ _ _ (h.rest (by decide)) hread
    exact ⟨r', hr, hpar, Nat.le_succ_of_le hlen⟩
  · next hne =>
    obtain ⟨r', hr, hpar, hlen⟩ := unsigned?_carried _ _ _ _ h hread
    refine ⟨r', ?_, hpar, hlen⟩
    unfold number?
    split
    · exact absurd rfl (h.lacks hne _)
    · exact hr

/-- a word without a quote is read of both -/
theorem word?_carried {ws : List Char} (hws : '"' ∉ ws) (h : Parallel S cs cs')
    (hread : word? ws cs = some r) :
    ∃ r', word? ws cs' = some r' ∧ Parallel S r r' ∧ r'.length ≤ cs'.length := by
  induction ws generalizing cs cs' with
  | nil =>
    obtain rfl := Option.some.inj hread
    exact ⟨cs', rfl, h, le_rfl⟩
  | cons w ws ih =>
    cases cs with
    | nil => cases hread
    | cons c cs =>
      obtain ⟨cs', rfl⟩ := h.front
      obtain ⟨rfl, htail⟩ := Option.ite_none_right_eq_some.mp hread
      have hne : w ≠ '"' := fun heq => hws (heq ▸ List.mem_cons_self)
      obtain ⟨r', hr, hpar, hlen⟩ := ih (fun hmem => hws (List.mem_cons_of_mem _ hmem)) (h.rest hne)
        htail
      exact ⟨r', (if_pos rfl).trans hr, hpar, by rw [List.length_cons]; omega⟩

/-! ## documents -/

section
variable {A : Doc → Doc → Prop}

/-- Members of one name that hold documents related by `A`, or strings if the name is in `S`. -/
def Held (S : String → Bool) (A : Doc → Doc → Prop) (m m' : List Char × Doc) : Prop :=
  m.1 = m'.1 ∧ (A m.2 m'.2 ∨ S (unescape m.1) = true ∧ ∃ x y, m.2 = .str x ∧ m'.2 = .str y)

/-- A relation of documents that does not see which strings members with names in `S` hold. -/
structure Blind (S : String → Bool) (A : Doc → Doc → Prop) : Prop where
  refl : ∀ d, A d d
  arr : ∀ ds ds', List.Forall₂ A ds ds' → A (.arr ds) (.arr ds')
  obj : ∀ ms ms', List.Forall₂ (Held S A) ms ms' → A (.obj ms) (.obj ms')

/-- what is left of two texts after a document: either may go on with what a name is owed -/
def Left (S : String → Bool) (r r' : List Char) : Prop := Parallel S r r' ∨ Owing S r r'

theorem Left.parallel (h : Left S r r') (hne : ∀ t, skip r ≠ ':' :: t) : Parallel S r r' := by
  rcases h with h | h
  · exact h
  · obtain ⟨t, _, _, _, ht, -⟩ := h.colon
    exact absurd ht (hne t)

/-! The fuel of the second reader is what its text takes; the first one has just read its own. -/

/-- documents are read side by side -/
def SideValues (S : String → Bool) (A : Doc → Doc → Prop) (fuel : Nat) : Prop :=
  ∀ (room fuel' : Nat) (cs cs' : List Char) (d : Doc) (r : List Char), Parallel S cs cs' →
    value? fuel room cs = some (d, r) → 2 * cs'.length ≤ fuel' →
    ∃ d' r', value? fuel' room cs' = some (d', r') ∧ A d d' ∧ Left S r r' ∧ r'.length ≤ cs'.length

/-- so are the items of a list, up to its end -/
def SideItems (S : String → Bool) (A : Doc → Doc → Prop) (fuel : Nat) : Prop :=
  ∀ (room fuel' : Nat) (acc acc' : List Doc) (cs cs' : List Char) (ds : List Doc) (r : List Char),
    List.Forall₂ A acc acc' → Parallel S cs cs' → items? fuel room acc cs = some (ds, r) →
    2 * cs'.length + 1 ≤ fuel' → ∃ ds' r', items? fuel' room acc' cs' = some (ds', r') ∧
      List.Forall₂ A ds ds' ∧ Parallel S r r' ∧ r'.length ≤ cs'.length

/-- so are the members of an object, up to its end -/
def SideMembers (S : String → Bool) (A : Doc → Doc → Prop) (fuel : Nat) : Prop :=
  ∀ (room fuel' : Nat) (acc acc' : List (List Char × Doc)) (cs cs' : List Char)
    (ms : List (List Char × Doc)) (r : List Char),
    List.Forall₂ (Held S A) acc acc' → Parallel S cs cs' → members? fuel room acc cs = some (ms, r) →
    2 * cs'.length + 1 ≤ fuel' → ∃ ms' r', members? fuel' room acc' cs' = some (ms', r') ∧
      List.Forall₂ (Held S A) ms ms' ∧ Parallel S r r' ∧ r'.length ≤ cs'.length

variable {fuel : Nat}

theorem sideItems_succ (hvalues : SideValues S A fuel) (hitems : SideItems S A fuel) :
    SideItems S A (fuel + 1) := by
  intro room fuel' acc acc' cs cs' ds r hacc h hread hfuel
  obtain ⟨fuel', rfl⟩ : ∃ n, fuel' = n + 1 := ⟨fuel' - 1, by omega⟩
  rw [items?] at hread ⊢
  cases hv : value? fuel room cs with
  | none => simp [hv] at hread
  | some found =>
    obtain ⟨d, rest⟩ := found
    rw [hv] at hread
    obtain ⟨d', rest', hv', hA, hleft, hlen⟩ := hvalues room fuel' cs cs' d rest h hv (by omega)
    rw [hv']
    dsimp only at hread ⊢
    have hrest : Parallel S rest rest' := hleft.parallel fun t ht => by simp [ht] at hread
    have hskip := hrest.skip
    have hlength := length_skip rest'
    split at hread
    · next q hq =>
      rw [hq] at hskip
      obtain ⟨q', hq'⟩ := hskip.front
      rw [hq'] at hskip hlength ⊢
      rw [List.length_cons] at hlength
      have hlength' := length_skip q'
      obtain ⟨ds', r', hi, hds, hpar, hlen'⟩ := hitems room fuel' (d :: acc) (d' :: acc') _ _ ds r
        (.cons hA hacc) (hskip.rest (by decide)).skip hread (by omega)
      exact ⟨ds', r', hi, hds, hpar, by omega⟩
    · next q hq =>
      rw [hq] at hskip
      obtain ⟨q', hq'⟩ := hskip.front
      rw [hq'] at hskip hlength ⊢
      rw [List.length_cons] at hlength
      obtain ⟨rfl, rfl⟩ := Prod.mk.inj (Option.some.inj hread)
      exact ⟨_, q', rfl, List.rel_reverse (.cons hA hacc), hskip.rest (by decide), by omega⟩
    · cases hread

/-- what a member holds, be it owed or not -/
theorem side_member (hvalues : SideValues S A fuel) {key rest rest' t q : List Char} {d : Doc}
    {room fuel' : Nat} (hcase : Parallel S rest rest' ∨ S (unescape key) = true ∧ Owing S rest rest')
    (ht : skip rest = ':' :: t) (hv : value? fuel room (skip t) = some (d, q))
    (hfuel : 2 * rest'.length ≤ fuel') : ∃ t' d' q', skip rest' = ':' :: t' ∧
      value? fuel' room (skip t') = some (d', q') ∧ Held S A (key, d) (key, d') ∧ Left S q q' ∧
      q'.length ≤ rest'.length := by
  rcases hcase with h | ⟨hS, h⟩
  · have hskip := h.skip
    rw [ht] at hskip
    obtain ⟨t', ht'⟩ := hskip.front
    rw [ht'] at hskip
    have hlength := length_skip rest'
    have hlength' := length_skip t'
    rw [ht', List.length_cons] at hlength
    obtain ⟨d', q', hv', hA, hleft, hlen⟩ := hvalues room fuel' _ _ d q
      (hskip.rest (by decide)).skip hv (by omega)
    exact ⟨t', d', q', ht', hv', ⟨rfl, .inl hA⟩, hleft, by omega⟩
  · obtain ⟨t₁, t', z, z', ht₁, ht', hz, hz', hlen, hstring⟩ := h.colon
    obtain rfl : t = t₁ := (List.cons.inj (ht.symm.trans ht₁)).2
    rw [hz] at hv
    cases fuel with
    | zero => cases hv
    | succ fuel =>
      rw [value?_string] at hv
      obtain ⟨⟨x, p⟩, hx, heq⟩ := Option.map_eq_some_iff.mp hv
      obtain ⟨rfl, rfl⟩ := Prod.mk.inj heq
      obtain ⟨y, q', hy, hpar⟩ := hstring x p hx
      obtain ⟨fuel', rfl⟩ : ∃ n, fuel' = n + 1 := ⟨fuel' - 1, by omega⟩
      obtain ⟨w, -, hsplit, -⟩ := readString?_local hy
      refine ⟨t', .str y, q', ht', ?_, ⟨rfl, .inr ⟨hS, x, y, rfl, rfl⟩⟩, .inl hpar, ?_⟩
      · rw [hz', value?_string, hy]
        rfl
      · rw [hsplit, List.length_append, List.length_cons] at hlen
        omega

theorem sideMembers_succ (hvalues : SideValues S A fuel) (hmembers : SideMembers S A fuel) :
    SideMembers S A (fuel + 1) := by
  intro room fuel' acc acc' cs cs' ms r hacc h hread hfuel
  obtain ⟨fuel', rfl⟩ : ∃ n, fuel' = n + 1 := ⟨fuel' - 1, by omega⟩
  unfold members? at hread
  split at hread
  case h_2 => cases hread
  case h_1 rest =>
  obtain ⟨rest', rfl⟩ := h.front
  split at hread
  case h_1 => cases hread
  case h_2 key rest₁ hs =>
  obtain ⟨rest₁', hs', hcase⟩ := h.string hs
  split at hread
  case h_2 => cases hread
  case h_1 t ht =>
  split at hread
  case h_1 => cases hread
  case h_2 d q hv =>
  obtain ⟨w, -, hsplit, -⟩ := readString?_local hs'
  rw [List.length_cons] at hfuel
  have hlength : rest₁'.length + 1 ≤ rest'.length := by
    rw [hsplit, List.length_append, List.length_cons]
    omega
  obtain ⟨t', d', q', ht', hv', hheld, hleft, hlen⟩ :=
    side_member hvalues hcase ht hv (show 2 * rest₁'.length ≤ fuel' by omega)
  rw [members?]
  simp only [hs', ht', hv']
  have hpar : Parallel S q q' := hleft.parallel fun t ht => by simp [ht] at hread
  have hskip := hpar.skip
  have hlength' := length_skip q'
  split at hread
  · next p hp =>
    rw [hp] at hskip
    obtain ⟨p', hp'⟩ := hskip.front
    rw [hp'] at hskip hlength' ⊢
    rw [List.length_cons] at hlength'
    have hlength'' := length_skip p'
    obtain ⟨ms', r', hm, hms, hrest, hlen'⟩ := hmembers room fuel' ((key, d) :: acc)
      ((key, d') :: acc') _ _ ms r (.cons hheld hacc) (hskip.rest (by decide)).skip hread (by omega)
    exact ⟨ms', r', hm, hms, hrest, by rw [List.length_cons]; omega⟩
  · next c p hne hp =>
    rw [hp] at hskip
    obtain ⟨p', hp'⟩ := hskip.front
    rw [hp'] at hskip hlength' ⊢
    rw [List.length_cons] at hlength'
    obtain ⟨rfl, heq⟩ := Option.ite_none_right_eq_some.mp hread
    obtain ⟨rfl, rfl⟩ := Prod.mk.inj (Option.some.inj heq)
    refine ⟨_, p', ?_, List.rel_reverse (.cons hheld hacc), hskip.rest (by decide), ?_⟩
    · exact if_pos rfl
    · rw [List.length_cons]
      omega
  · cases hread

theorem value?_list {room : Nat} {cs : List Char} : value? (fuel + 1) room ('[' :: cs)
    = if room = 0 then none else
      match skip cs with
      | ']' :: r => some (.arr [], r)
      | r => (items? fuel (room - 1) [] r).map fun (ds, r) => (.arr ds, r) := by
  unfold value?
  exact (if_neg (by decide)).trans (if_pos rfl)

theorem value?_object {room : Nat} {cs : List Char} : value? (fuel + 1) room (Char.ofNat 0x7B :: cs)
    = if room = 0 then none else
      match skip cs with
      | [] => none
      | d :: r =>
        if d = Char.ofNat 0x7D then some (.obj [], r)
        else (members? fuel (room - 1) [] (d :: r)).map fun (ms, r) => (.obj ms, r) := by
  unfold value?
  exact (if_neg (by decide)).trans ((if_neg (by decide)).trans (if_pos rfl))

/-- a document that is neither a string nor a list nor an object -/
def plain? : List Char → Option (Doc × List Char)
  | [] => none
  | c :: rest =>
    if c = 't' then (word? ['r', 'u', 'e'] rest).map fun r => (.bool true, r)
    else if c = 'f' then (word? ['a', 'l', 's', 'e'] rest).map fun r => (.bool false, r)
    else if c = 'n' then (word? ['u', 'l', 'l'] rest).map fun r => (.null, r)
    else (number? (c :: rest)).map fun (n, r) => (.num n, r)

theorem value?_plain {room : Nat} (h₁ : c ≠ '"') (h₂ : c ≠ '[') (h₃ : c ≠ Char.ofNat 0x7B) :
    value? (fuel + 1) room (c :: cs) = plain? (c :: cs) := by
  rw [value?, if_neg h₁, if_neg h₂, if_neg h₃]
  rfl

theorem plain?_carried : Carried S plain? := by
  intro cs cs' d r h hread
  cases cs with
  | nil => cases hread
  | cons c cs =>
    obtain ⟨cs', rfl⟩ := h.front
    have hword : ∀ (ws : List Char) (d₀ : Doc), c ≠ '"' → '"' ∉ ws →
        (word? ws cs).map (fun r => (d₀, r)) = some (d, r) →
        ∃ r', (word? ws cs').map (fun r => (d₀, r)) = some (d, r') ∧ Parallel S r r' ∧
          r'.length ≤ (c :: cs').length := by
      intro ws d₀ hc hws hread
      obtain ⟨q, hq, heq⟩ := Option.map_eq_some_iff.mp hread
      obtain ⟨rfl, rfl⟩ := Prod.mk.inj heq
      obtain ⟨r', hr, hpar, hlen⟩ := word?_carried hws (h.rest hc) hq
      exact ⟨r', by rw [hr]; rfl, hpar, by rw [List.length_cons]; omega⟩
    unfold plain? at hread ⊢
    dsimp only at hread ⊢
    by_cases ht : c = 't'
    · rw [if_pos ht] at hread ⊢
      exact hword _ _ (by rw [ht]; decide) (by decide) hread
    rw [if_neg ht] at hread ⊢
    by_cases hf : c = 'f'
    · rw [if_pos hf] at hread ⊢
      exact hword _ _ (by rw [hf]; decide) (by decide) hread
    rw [if_neg hf] at hread ⊢
    by_cases hn : c = 'n'
    · rw [if_pos hn] at hread ⊢
      exact hword _ _ (by rw [hn]; decide) (by decide) hread
    rw [if_neg hn] at hread ⊢
    obtain ⟨⟨n, q⟩, hq, heq⟩ := Option.map_eq_some_iff.mp hread
    obtain ⟨rfl, rfl⟩ := Prod.mk.inj heq
    obtain ⟨r', hr, hpar, hlen⟩ := number?_carried _ _ _ _ h hq
    exact ⟨r', by rw [hr]; rfl, hpar, hlen⟩

section
variable {room fuel' : Nat} {cs cs' r : List Char} {d : Doc} (hA : Blind S A) (h : Parallel S cs cs')
  (hfuel : 2 * cs'.length + 1 ≤ fuel')
include hA h hfuel

/-- a list, after its opening bracket -/
theorem side_list (hitems : SideItems S A fuel)
    (hread : value? (fuel + 1) room ('[' :: cs) = some (d, r)) :
    ∃ d' r', value? (fuel' + 1) room ('[' :: cs') = some (d', r') ∧ A d d' ∧ Parallel S r r' ∧
      r'.length ≤ cs'.length := by
  have hskip := h.skip
  have hlength := length_skip cs'
  rw [value?_list] at hread ⊢
  by_cases hroom : room = 0
  case pos =>
    rw [if_pos hroom] at hread
    cases hread
  rw [if_neg hroom] at hread ⊢
  split at hread
  case h_1 q hq =>
    rw [hq] at hskip
    obtain ⟨q', hq'⟩ := hskip.front
    rw [hq'] at hskip hlength ⊢
    obtain ⟨rfl, rfl⟩ := Prod.mk.inj (Option.some.inj hread)
    rw [List.length_cons] at hlength
    exact ⟨_, q', rfl, hA.refl _, hskip.rest (by decide), by omega⟩
  case h_2 hne =>
    obtain ⟨⟨ds, q⟩, hi, heq⟩ := Option.map_eq_some_iff.mp hread
    obtain ⟨rfl, rfl⟩ := Prod.mk.inj heq
    obtain ⟨ds', r', hi', hds, hrest, hlen⟩ := hitems (room - 1) fuel' [] [] _ _ ds q .nil hskip hi
      (by omega)
    refine ⟨.arr ds', r', ?_, hA.arr _ _ hds, hrest, by omega⟩
    split
    · next q' hq' => exact absurd hq' (hskip.lacks hne _)
    · rw [hi']
      rfl

/-- an object, after its opening brace -/
theorem side_object (hmembers : SideMembers S A fuel)
    (hread : value? (fuel + 1) room (Char.ofNat 0x7B :: cs) = some (d, r)) :
    ∃ d' r', value? (fuel' + 1) room (Char.ofNat 0x7B :: cs') = some (d', r') ∧ A d d' ∧
      Parallel S r r' ∧ r'.length ≤ cs'.length := by
  have hskip := h.skip
  have hlength := length_skip cs'
  rw [value?_object] at hread ⊢
  by_cases hroom : room = 0
  case pos =>
    rw [if_pos hroom] at hread
    cases hread
  rw [if_neg hroom] at hread ⊢
  split at hread
  case h_1 => cases hread
  case h_2 e q hq =>
    rw [hq] at hskip
    obtain ⟨q', hq'⟩ := hskip.front
    rw [hq'] at hskip hlength ⊢
    dsimp only
    by_cases hend : e = Char.ofNat 0x7D
    case pos =>
      rw [if_pos hend] at hread ⊢
      obtain ⟨rfl, rfl⟩ := Prod.mk.inj (Option.some.inj hread)
      rw [List.length_cons] at hlength
      exact ⟨_, q', rfl, hA.refl _, hskip.rest (by rw [hend]; decide), by omega⟩
    case neg =>
      rw [if_neg hend] at hread ⊢
      obtain ⟨⟨ms, p⟩, hm, heq⟩ := Option.map_eq_some_iff.mp hread
      obtain ⟨rfl, rfl⟩ := Prod.mk.inj heq
      obtain ⟨ms', r', hm', hms, hrest, hlen⟩ := hmembers (room - 1) fuel' [] [] _ _ ms p .nil
        hskip hm (by omega)
      exact ⟨.obj ms', r', by rw [hm']; rfl, hA.obj _ _ hms, hrest, by omega⟩

end

theorem sideValues_succ (hA : Blind S A) (hitems : SideItems S A fuel)
    (hmembers : SideMembers S A fuel) : SideValues S A (fuel + 1) := by
  intro room fuel' cs cs' d r h hread hfuel
  cases cs with
  | nil => cases hread
  | cons c cs =>
  obtain ⟨cs', rfl⟩ := h.front
  rw [List.length_cons] at hfuel ⊢
  obtain ⟨fuel', rfl⟩ : ∃ n, fuel' = n + 1 := ⟨fuel' - 1, by omega⟩
  by_cases hstring : c = '"'
  case pos =>
    obtain rfl := hstring
    rw [value?_string] at hread
    obtain ⟨⟨x, q⟩, hx, heq⟩ := Option.map_eq_some_iff.mp hread
    obtain ⟨rfl, rfl⟩ := Prod.mk.inj heq
    obtain ⟨r', hx', hcase⟩ := h.string hx
    obtain ⟨w, -, hsplit, -⟩ := readString?_local hx'
    refine ⟨.str x, r', by rw [value?_string, hx']; rfl, hA.refl _, hcase.imp_right And.right, ?_⟩
    rw [hsplit, List.length_append, List.length_cons]
    omega
  have hpar : Parallel S cs cs' := h.rest hstring
  have hfuel : 2 * cs'.length + 1 ≤ fuel' := by omega
  by_cases hlist : c = '['
  case pos =>
    obtain rfl := hlist
    obtain ⟨d', r', hread', hd, hrest, hlen⟩ := side_list hA hpar hfuel hitems hread
    exact ⟨d', r', hread', hd, .inl hrest, hlen.trans (Nat.le_succ _)⟩
  by_cases hobject : c = Char.ofNat 0x7B
  case pos =>
    obtain rfl := hobject
    obtain ⟨d', r', hread', hd, hrest, hlen⟩ := side_object hA hpar hfuel hmembers hread
    exact ⟨d', r', hread', hd, .inl hrest, hlen.trans (Nat.le_succ _)⟩
  rw [value?_plain hstring hlist hobject] at hread ⊢
  obtain ⟨r', hr, hrest, hlen⟩ := plain?_carried _ _ _ _ h hread
  exact ⟨d, r', hr, hA.refl _, .inl hrest, hlen⟩

theorem side_of_fuel (hA : Blind S A) (fuel : Nat) :
    SideValues S A fuel ∧ SideItems S A fuel ∧ SideMembers S A fuel := by
  induction fuel with
  | zero =>
    refine ⟨?_, ?_, ?_⟩
    · intro room fuel' cs cs' d r _ hread
      cases hread
    · intro room fuel' acc acc' cs cs' ds r _ _ hread
      cases hread
    · intro room fuel' acc acc' cs cs' ms r _ _ hread
      cases hread
  | succ fuel ih =>
    obtain ⟨hvalues, hitems, hmembers⟩ := ih
    exact ⟨sideValues_succ hA hitems hmembers, sideItems_succ hvalues hitems,
      sideMembers_succ hvalues hmembers⟩

/-- **Two parallel texts are read side by side**: if one is a document, so is the other, and the two
are blindly the same. -/
theorem readWhole?_parallel (hA : Blind S A) {d : Doc} (h : Parallel S cs cs')
    (hread : readWhole? cs = some d) : ∃ d', readWhole? cs' = some d' ∧ A d d' := by
  obtain ⟨⟨e, rest⟩, hd, hend⟩ := Option.bind_eq_some_iff.mp hread
  obtain ⟨hempty, heq⟩ := Option.ite_none_right_eq_some.mp hend
  obtain rfl := Option.some.inj heq
  have hlength := length_skip cs'
  obtain ⟨d', rest', hd', hAd, hleft, -⟩ := (side_of_fuel hA _).1 maxDepth (2 * cs'.length + 2) _ _ e
    rest h.skip hd (by omega)
  have hnil : skip rest = [] := List.isEmpty_iff.mp hempty
  have hpar : Parallel S rest rest' := hleft.parallel fun t ht => by simp [hnil] at ht
  have hskip := hpar.skip
  rw [hnil] at hskip
  refine ⟨d', ?_, hAd⟩
  have hread' : read? cs' = some (d', rest') := hd'
  unfold readWhole?
  rw [hread']
  show (if (skip rest').isEmpty then some d' else none) = _
  rw [hskip.nil]
  rfl

end

end OrderDesk.Json
