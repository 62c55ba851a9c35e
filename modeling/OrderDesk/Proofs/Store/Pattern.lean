import Mathlib.Data.List.Infix
import Mathlib.Data.List.TakeWhile
import OrderDesk.Proofs.Text.Case
import OrderDesk.Store.Pattern

/-!
# What a pattern matches

The engine goes through a pattern once and keeps what may still follow of the text. These rests are
ends of each other, so that after a `%` the longest of them stands for all.

* `Leaves`              what a pattern may leave of a text;
* `Nested`, `nested_step`      the rests are ends of each other, and stay so;
* `mem_step`, `mem_run`     one character of a pattern, and all of them;
* `like_iff`            a text matches if its pattern may leave nothing;
* `count_le_of_leaves`  every character of a pattern but the marks has one of its own in the text;
* `like_fragment_iff`   a fragment without marks is looked for in the name;
* `like_own_iff`        which names are found by themselves.
-/

namespace OrderDesk.Store

open Text (asciiLowerChar lowerChar)

/-! ## what a pattern may leave -/

/-- A character of a pattern lets a character pass: the mark of any, or the same without case. -/
def Passes (p c : Char) : Prop := p = '_' ∨ asciiLowerChar c = asciiLowerChar p

/-- What a pattern may leave of a text whose beginning it matches. -/
inductive Leaves : List Char → List Char → List Char → Prop
  | done (text : List Char) : Leaves [] text text
  | any {pattern text later rest : List Char} (hlater : later <:+ text)
      (hrest : Leaves pattern later rest) : Leaves ('%' :: pattern) text rest
  | one {p c : Char} {pattern text rest : List Char} (hp : p ≠ '%') (hc : Passes p c)
      (hrest : Leaves pattern text rest) : Leaves (p :: pattern) (c :: text) rest

section
variable {p c : Char} {pattern pattern' text rest : List Char}

theorem leaves_nil_iff : Leaves [] text rest ↔ rest = text := by
  constructor
  · rintro ⟨⟩
    rfl
  · rintro rfl
    exact .done _

theorem leaves_cons_iff : Leaves (p :: pattern) text rest ↔
    ∃ later, Leaves [p] text later ∧ Leaves pattern later rest := by
  constructor
  · intro h
    cases h with
    | any hlater hrest => exact ⟨_, .any hlater (.done _), hrest⟩
    | one hp hc hrest => exact ⟨_, .one hp hc (.done _), hrest⟩
  · rintro ⟨later, hfirst, hrest⟩
    cases hfirst with
    | any hlater hdone =>
      obtain rfl := leaves_nil_iff.mp hdone
      exact .any hlater hrest
    | one hp hc hdone =>
      obtain rfl := leaves_nil_iff.mp hdone
      exact .one hp hc hrest

theorem leaves_append_iff : Leaves (pattern ++ pattern') text rest ↔
    ∃ later, Leaves pattern text later ∧ Leaves pattern' later rest := by
  induction pattern generalizing text with
  | nil => simp [leaves_nil_iff]
  | cons p pattern ih =>
    rw [List.cons_append, leaves_cons_iff]
    constructor
    · rintro ⟨mid, hp, hrest⟩
      obtain ⟨later, hpattern, hrest⟩ := ih.mp hrest
      exact ⟨later, leaves_cons_iff.mpr ⟨mid, hp, hpattern⟩, hrest⟩
    · rintro ⟨later, hpattern, hrest⟩
      obtain ⟨mid, hp, hpattern⟩ := leaves_cons_iff.mp hpattern
      exact ⟨mid, hp, ih.mpr ⟨later, hpattern, hrest⟩⟩

theorem leaves_any_iff : Leaves ['%'] text rest ↔ rest <:+ text := by
  constructor
  · intro h
    cases h with
    | any hlater hdone => exact leaves_nil_iff.mp hdone ▸ hlater
    | one hp => exact absurd rfl hp
  · exact fun h => .any h (.done _)

theorem leaves_one_iff (hp : p ≠ '%') : Leaves [p] text rest ↔ ∃ c, Passes p c ∧ text = c :: rest := by
  constructor
  · intro h
    cases h with
    | any => exact absurd rfl hp
    | one _ hc hdone => exact ⟨_, hc, by rw [leaves_nil_iff.mp hdone]⟩
  · rintro ⟨c, hc, rfl⟩
    exact .one hp hc (.done _)

end

/-! ## the rests of a run -/

/-- Each of the texts is an end of those before it. -/
def Nested (rests : List (List Char)) : Prop := rests.Pairwise fun longer shorter => shorter <:+ longer

theorem mem_suffixes {text rest : List Char} : rest ∈ suffixes text ↔ rest <:+ text := by
  induction text with
  | nil => simp [suffixes]
  | cons c text ih => rw [suffixes, List.mem_cons, ih, List.suffix_cons_iff]

theorem nested_suffixes (text : List Char) : Nested (suffixes text) := by
  induction text with
  | nil => exact List.pairwise_singleton _ _
  | cons c text ih =>
    exact ih.cons fun rest hrest => (mem_suffixes.mp hrest).trans (List.suffix_cons c text)

section
variable {rests : List (List Char)} {p : Char} {rest : List Char}

theorem step_any {longest : List Char} {shorter : List (List Char)} :
    step (longest :: shorter) '%' = suffixes longest := rfl

/-- what is left of a text after a character of a pattern that is not `%` -/
def passed? (p : Char) : List Char → Option (List Char)
  | [] => none
  | c :: cs => if p = '_' ∨ asciiLowerChar c = asciiLowerChar p then some cs else none

theorem step_of_ne (hp : p ≠ '%') : step rests p = rests.filterMap (passed? p) := by
  unfold step
  rw [if_neg hp]
  rfl

theorem passed?_eq_some_iff {text : List Char} :
    passed? p text = some rest ↔ ∃ c, Passes p c ∧ text = c :: rest := by
  unfold Passes
  cases text with
  | nil => simp [passed?]
  | cons c cs =>
    simp only [passed?, Option.ite_none_right_eq_some, Option.some.injEq, List.cons.injEq]
    constructor
    · rintro ⟨hc, rfl⟩
      exact ⟨c, hc, rfl, rfl⟩
    · rintro ⟨c, hc, rfl, rfl⟩
      exact ⟨hc, rfl⟩

/-- **The rests stay ends of each other.** -/
theorem nested_step (h : Nested rests) (p : Char) : Nested (step rests p) := by
  by_cases hp : p = '%'
  · subst hp
    cases rests with
    | nil => exact .nil
    | cons longest _ => exact nested_suffixes longest
  · rw [step_of_ne hp]
    refine List.Pairwise.filterMap _ ?_ h
    intro longer shorter hsuffix rest hrest rest' hrest'
    obtain ⟨c, -, rfl⟩ := passed?_eq_some_iff.mp hrest
    obtain ⟨c', -, rfl⟩ := passed?_eq_some_iff.mp hrest'
    rcases List.suffix_cons_iff.mp hsuffix with heq | hsuffix
    · rw [(List.cons.inj heq).2]
    · exact (List.suffix_cons c' rest').trans hsuffix

/-- **One character of a pattern.** -/
theorem mem_step (h : Nested rests) : rest ∈ step rests p ↔ ∃ text ∈ rests, Leaves [p] text rest := by
  by_cases hp : p = '%'
  · subst hp
    simp only [leaves_any_iff]
    cases rests with
    | nil => simp [step]
    | cons longest shorter =>
      rw [step_any, mem_suffixes]
      constructor
      · exact fun hrest => ⟨longest, List.mem_cons_self, hrest⟩
      · rintro ⟨text, htext, hrest⟩
        -- whatever follows a shorter rest follows the longest one, too
        rcases List.mem_cons.mp htext with rfl | htext
        · exact hrest
        · exact hrest.trans ((List.pairwise_cons.mp h).1 text htext)
  · rw [step_of_ne hp, List.mem_filterMap]
    simp only [leaves_one_iff hp, passed?_eq_some_iff]

/-- **All characters of a pattern.** -/
theorem mem_run {pattern : List Char} (h : Nested rests) :
    rest ∈ pattern.foldl step rests ↔ ∃ text ∈ rests, Leaves pattern text rest := by
  induction pattern generalizing rests with
  | nil => simp [leaves_nil_iff]
  | cons p pattern ih =>
    rw [List.foldl_cons, ih (nested_step h p)]
    simp only [mem_step h]
    constructor
    · rintro ⟨later, ⟨text, htext, hp⟩, hrest⟩
      exact ⟨text, htext, leaves_cons_iff.mpr ⟨later, hp, hrest⟩⟩
    · rintro ⟨text, htext, hleaves⟩
      obtain ⟨later, hp, hrest⟩ := leaves_cons_iff.mp hleaves
      exact ⟨later, ⟨text, htext, hp⟩, hrest⟩

end

/-! ## whole texts -/

/-- **A text matches** if its pattern may leave nothing of it, both up to the first NUL. -/
theorem like_iff {pattern text : String} :
    like pattern text = true ↔ Leaves (untilNul pattern.toList) (untilNul text.toList) [] := by
  have hnested : Nested [untilNul text.toList] := List.pairwise_singleton _ _
  unfold like
  rw [List.any_eq_true]
  simp only [List.isEmpty_iff, exists_eq_right, mem_run hnested, List.mem_singleton, exists_eq_left]

theorem untilNul_eq_self {cs : List Char} (h : '\x00' ∉ cs) : untilNul cs = cs := by
  refine List.takeWhile_eq_self_iff.mpr fun c hc => bne_iff_ne.mpr ?_
  rintro rfl
  exact h hc

/-! ## fragments -/

section
variable {w text rest : List Char}

theorem leaves_plain_iff (hw : ∀ p ∈ w, p ≠ '%' ∧ p ≠ '_') : Leaves w text rest ↔
    ∃ front, text = front ++ rest ∧ front.map asciiLowerChar = w.map asciiLowerChar := by
  induction w generalizing text with
  | nil =>
    simp [leaves_nil_iff, eq_comm]
  | cons p w ih =>
    obtain ⟨hany, hone⟩ := hw p List.mem_cons_self
    rw [leaves_cons_iff]
    simp only [leaves_one_iff hany, ih fun q hq => hw q (List.mem_cons_of_mem _ hq)]
    constructor
    · rintro ⟨later, ⟨c, hc, rfl⟩, front, rfl, hfront⟩
      exact ⟨c :: front, rfl, by rw [List.map_cons, List.map_cons, hfront, hc.resolve_left hone]⟩
    · rintro ⟨front, rfl, hfront⟩
      obtain ⟨c, front, rfl, hc, hfront⟩ := List.map_eq_cons_iff.mp hfront
      exact ⟨front ++ rest, ⟨c, .inr hc, rfl⟩, front, rfl, hfront⟩

/-- **A fragment without marks**, between two marks of any text, is looked for in the text. -/
theorem leaves_fragment_iff (hw : ∀ p ∈ w, p ≠ '%' ∧ p ≠ '_') :
    Leaves ('%' :: (w ++ ['%'])) text [] ↔
      w.map asciiLowerChar <:+: text.map asciiLowerChar := by
  rw [leaves_cons_iff]
  simp only [leaves_append_iff, leaves_any_iff, leaves_plain_iff hw]
  constructor
  · rintro ⟨later, ⟨before, rfl⟩, rest, ⟨front, rfl, hfront⟩, -⟩
    rw [← hfront, List.map_append, List.map_append, ← List.append_assoc]
    exact List.infix_append _ _ _
  · rintro ⟨before, after, heq⟩
    obtain ⟨text', after', rfl, htext, -⟩ := List.map_eq_append_iff.mp heq.symm
    obtain ⟨before', front, rfl, -, hfront⟩ := List.map_eq_append_iff.mp htext
    exact ⟨front ++ after', ⟨before', (List.append_assoc _ _ _).symm⟩, after', ⟨front, rfl, hfront⟩,
      List.nil_suffix⟩

/-- a text matches its own characters, marks or not -/
theorem leaves_self (w : List Char) : Leaves w w [] := by
  induction w with
  | nil => exact .done []
  | cons p w ih =>
    by_cases hp : p = '%'
    · rw [hp]
      exact .any (List.suffix_cons _ _) ih
    · exact .one hp (.inr rfl) ih

/-- **Every character of a pattern but the marks** has one of its own in the text. -/
theorem count_le_of_leaves {pattern : List Char} {e : Char} (hany : e ≠ '%') (hone : e ≠ '_')
    (h : Leaves pattern text rest) :
    pattern.countP (asciiLowerChar · == e) + rest.countP (asciiLowerChar · == e)
      ≤ text.countP (asciiLowerChar · == e) := by
  have hmark : ∀ {p : Char} {ps : List Char}, asciiLowerChar p = p → e ≠ p →
      (p :: ps).countP (asciiLowerChar · == e) = ps.countP (asciiLowerChar · == e) := fun hp hne =>
    List.countP_cons_of_neg (by rw [hp]; simpa using hne.symm)
  induction h with
  | done => simp
  | any hlater _ ih =>
    rw [hmark rfl hany]
    exact ih.trans (hlater.sublist.countP_le)
  | @one p c _ _ _ _ hc _ ih =>
    rcases hc with rfl | hc
    · rw [hmark rfl hone]
      exact ih.trans ((List.sublist_cons_self _ _).countP_le)
    · rw [List.countP_cons, List.countP_cons, hc]
      omega

end

/-! ## a name and its pattern -/

section
variable {cs : List Char}

/-- what a letter beyond ASCII becomes is more often in the lower case of all letters -/
theorem count_lower_lt {c₀ : Char} (hc₀ : c₀ ∈ cs) (hbeyond : 0x80 ≤ c₀.toNat)
    (hne : lowerChar c₀ ≠ c₀) :
    (cs.map asciiLowerChar).countP (asciiLowerChar · == lowerChar c₀)
      < (cs.map lowerChar).countP (asciiLowerChar · == lowerChar c₀) := by
  have hsame : ∀ c : Char, 0x80 ≤ c.toNat → asciiLowerChar c = c := fun c hc =>
    Text.asciiLowerChar_of_not_capital (by omega)
  have himp : ∀ c : Char, asciiLowerChar c = lowerChar c₀ → lowerChar c = lowerChar c₀ := by
    intro c hc
    by_cases hascii : c.toNat < 0x80
    · rw [Text.lowerChar_of_ascii hascii, hc]
    · rw [hsame c (not_lt.mp hascii)] at hc
      rw [hc, Text.lowerChar_idem]
  have hle : ∀ l : List Char, l.countP (asciiLowerChar · == lowerChar c₀)
      ≤ l.countP (lowerChar · == lowerChar c₀) := fun l =>
    List.countP_mono_left fun c _ hc => beq_iff_eq.mpr (himp c (eq_of_beq hc))
  simp only [List.countP_map, Function.comp_def, Text.asciiLowerChar_idem,
    Text.asciiLowerChar_lowerChar]
  obtain ⟨before, after, rfl⟩ := List.append_of_mem hc₀
  have hbefore := hle before
  have hafter := hle after
  have hother : (asciiLowerChar c₀ == lowerChar c₀) = false := by
    rw [hsame c₀ hbeyond]
    simpa using hne.symm
  rw [List.countP_append, List.countP_append, List.countP_cons, List.countP_cons, hother,
    beq_self_eq_true, if_neg Bool.false_ne_true, if_pos rfl]
  omega

/-- **A name in lower case is found in itself** exactly if both lower cases of it agree. -/
theorem leaves_own_iff : Leaves ('%' :: (cs.map lowerChar ++ ['%'])) (cs.map asciiLowerChar) [] ↔
    ∀ c ∈ cs, lowerChar c = asciiLowerChar c := by
  constructor
  · intro h c₀ hc₀
    by_contra hne
    have hbeyond : 0x80 ≤ c₀.toNat := by
      by_contra hascii
      exact hne (Text.lowerChar_of_ascii (not_le.mp hascii))
    have hmark : ∀ d : Char, d.toNat < 0x41 ∨ 0x5A < d.toNat ∧ d.toNat < 0x61 → lowerChar c₀ ≠ d := by
      rintro d hd heq
      obtain rfl := (Text.lowerChar_eq_iff hd).mp heq
      omega
    have hany := hmark '%' (by decide)
    -- the pattern asks for this letter more often than the text has it
    have hmore := count_lower_lt hc₀ hbeyond fun heq =>
      hne (heq.trans (Text.asciiLowerChar_of_not_capital (by omega)).symm)
    have hcount := count_le_of_leaves hany (hmark '_' (by decide)) h
    have hpercent : (asciiLowerChar '%' == lowerChar c₀) = false := by
      rw [show asciiLowerChar '%' = '%' from rfl]
      simpa using hany.symm
    rw [List.countP_cons, hpercent, List.countP_append] at hcount
    omega
  · intro h
    rw [List.map_congr_left h]
    refine leaves_cons_iff.mpr ⟨_, leaves_any_iff.mpr List.suffix_rfl, ?_⟩
    exact leaves_append_iff.mpr ⟨[], leaves_self _, leaves_any_iff.mpr List.suffix_rfl⟩

end

/-! ## the pattern of a fragment -/

section
variable {w name : String}

theorem toList_pattern (w : String) :
    ("%" ++ Text.lower w ++ "%").toList = '%' :: (w.toList.map lowerChar ++ ['%']) := by
  simp [Text.lower]

theorem like_pattern_iff (hw : '\x00' ∉ w.toList) (hname : '\x00' ∉ name.toList) :
    like ("%" ++ Text.lower w ++ "%") (String.ofList (folded name)) = true ↔
      Leaves ('%' :: (w.toList.map lowerChar ++ ['%'])) (name.toList.map asciiLowerChar) [] := by
  have hpattern : '\x00' ∉ '%' :: (w.toList.map lowerChar ++ ['%']) := by
    simpa [Text.lowerChar_eq_iff (d := '\x00') (by decide)] using hw
  have htext : '\x00' ∉ name.toList.map asciiLowerChar := by
    simpa [Text.asciiLowerChar_eq_iff (d := '\x00') (by decide)] using hname
  rw [like_iff, toList_pattern, untilNul_eq_self hpattern, folded, String.toList_ofList,
    untilNul_eq_self htext]

/-- **A fragment of ASCII without marks** is looked for in a name without the case of ASCII. -/
theorem like_fragment_iff (hw : ∀ c ∈ w.toList, c.toNat < 0x80 ∧ c ≠ '\x00' ∧ c ≠ '%' ∧ c ≠ '_')
    (hname : '\x00' ∉ name.toList) :
    like ("%" ++ Text.lower w ++ "%") (String.ofList (folded name)) = true ↔
      w.toList.map asciiLowerChar <:+: name.toList.map asciiLowerChar := by
  have hplain : ∀ p ∈ w.toList.map lowerChar, p ≠ '%' ∧ p ≠ '_' := by
    intro p hp
    obtain ⟨c, hc, rfl⟩ := List.mem_map.mp hp
    obtain ⟨-, -, hany, hone⟩ := hw c hc
    exact ⟨fun h => hany ((Text.lowerChar_eq_iff (by decide)).mp h),
      fun h => hone ((Text.lowerChar_eq_iff (by decide)).mp h)⟩
  have hlower : w.toList.map lowerChar = w.toList.map asciiLowerChar :=
    List.map_congr_left fun c hc => Text.lowerChar_of_ascii (hw c hc).1
  have htwice : ∀ cs : List Char, (cs.map asciiLowerChar).map asciiLowerChar = cs.map asciiLowerChar :=
    fun cs => by simp only [List.map_map, Function.comp_def, Text.asciiLowerChar_idem]
  rw [like_pattern_iff (fun h => (hw _ h).2.1 rfl) hname, leaves_fragment_iff hplain, hlower, htwice,
    htwice]

/-- **A name is found by itself** exactly if both lower cases of it agree. -/
theorem like_own_iff (hname : '\x00' ∉ name.toList) :
    like ("%" ++ Text.lower name ++ "%") (String.ofList (folded name)) = true ↔
      ∀ c ∈ name.toList, lowerChar c = asciiLowerChar c := by
  rw [like_pattern_iff hname hname, leaves_own_iff]

end

end OrderDesk.Store
