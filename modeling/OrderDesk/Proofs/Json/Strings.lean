import OrderDesk.Json.Value
import Mathlib.Data.List.Basic

/-!
# Strings in documents

A string is written with escapes for some of its characters. It is read up to its closing quote, and
what it spells is the text that was written.

* `quote_toList`           a written string is its spelling between quotes;
* `readString?_spelled`    the spelling is read to its end, and no further;
* `unescape_spelled`       what it spells;
* `spelled_plain`          characters without escapes are spelled by themselves.
-/

namespace OrderDesk.Json

/-- how a text is spelled between quotes -/
def spelled (style : Style) (s : String) : List Char :=
  s.toList.flatMap fun c => quoteChar style (some c)

theorem quote_toList (style : Style) (s : String) :
    (quote style s).toList = '"' :: spelled style s ++ ['"'] := by
  unfold quote quoteWith spelled
  rw [String.toList_ofList, List.flatMap_map]

/-! ## hexadecimal digits -/

theorem hexValue?_hexDigit : ∀ n < 16, hexValue? (Text.hexDigit n) = some n := by
  decide

theorem hexDigits_four (n : Nat) : Text.hexDigits 4 n = [Text.hexDigit (n / 16 / 16 / 16 % 16),
    Text.hexDigit (n / 16 / 16 % 16), Text.hexDigit (n / 16 % 16), Text.hexDigit (n % 16)] := rfl

theorem hex4?_hexDigits {n : Nat} (h : n < 65536) :
    hex4? (Text.hexDigit (n / 16 / 16 / 16 % 16)) (Text.hexDigit (n / 16 / 16 % 16))
      (Text.hexDigit (n / 16 % 16)) (Text.hexDigit (n % 16)) = some n := by
  have hdigit : ∀ m, hexValue? (Text.hexDigit (m % 16)) = some (m % 16) := fun m =>
    hexValue?_hexDigit _ (Nat.mod_lt _ (by omega))
  unfold hex4?
  simp only [hdigit, Option.bind_eq_bind, Option.bind_some, Option.some.injEq]
  omega

/-! ## one character -/

/-- How a character is spelled: by a letter after a stroke, by four digits, or by itself. -/
inductive SpelledAs (c : Char) : List Char → Prop where
  | letter {e : Char} (he : escape? e = some c) : SpelledAs c ['\\', e]
  | digits (hc : c.toNat < 65536) : SpelledAs c ('\\' :: 'u' :: Text.hexDigits 4 c.toNat)
  | itself (hquote : c ≠ '"') (hstroke : c ≠ '\\') (hc : 0x20 ≤ c.toNat) : SpelledAs c [c]

theorem shortEscape?_spells {style : Style} {c e : Char} (h : shortEscape? style c.toNat = some e) :
    escape? e = some c := by
  have hc : ∀ n, c.toNat = n → c = Char.ofNat n := by
    rintro n rfl
    exact (Char.ofNat_toNat c).symm
  unfold shortEscape? at h
  split at h
  · next hn =>
    rw [← Option.some.inj h, hc _ hn]
    rfl
  · split at h
    · next hn =>
      rw [← Option.some.inj h, hc _ hn]
      rfl
    · split at h
      · next hn =>
        rw [← Option.some.inj h, hc _ hn]
        rfl
      · split at h
        · next hn =>
          rw [← Option.some.inj h, hc _ hn.1]
          rfl
        · split at h
          · next hn =>
            rw [← Option.some.inj h, hc _ hn.1]
            rfl
          · cases h

theorem quoteChar_some (style : Style) (c : Char) : quoteChar style (some c) =
    if c = '"' then ['\\', '"']
    else if c = '\\' then ['\\', '\\']
    else match shortEscape? style c.toNat with
      | some e => ['\\', e]
      | none => if needsEscape style c then '\\' :: 'u' :: Text.hexDigits 4 c.toNat else [c] := rfl

theorem needsEscape_false {style : Style} {c : Char} (h : needsEscape style c = false) :
    0x20 ≤ c.toNat := by
  unfold needsEscape at h
  simp only [Bool.or_eq_false_iff, decide_eq_false_iff_not] at h
  omega

theorem needsEscape_true {style : Style} {c : Char} (h : needsEscape style c = true) :
    c.toNat < 65536 := by
  unfold needsEscape at h
  simp only [Bool.or_eq_true, decide_eq_true_eq, Bool.and_eq_true] at h
  rcases h with ((h | h) | h) | ⟨-, (rfl | rfl) | rfl⟩
  · omega
  · omega
  · omega
  · decide
  · decide
  · decide

theorem quoteChar_spelledAs (style : Style) (c : Char) :
    SpelledAs c (quoteChar style (some c)) := by
  rw [quoteChar_some]
  by_cases hquote : c = '"'
  · rw [if_pos hquote, hquote]
    exact .letter rfl
  rw [if_neg hquote]
  by_cases hstroke : c = '\\'
  · rw [if_pos hstroke, hstroke]
    exact .letter rfl
  rw [if_neg hstroke]
  cases hshort : shortEscape? style c.toNat with
  | some e => exact .letter (shortEscape?_spells hshort)
  | none =>
    cases hneed : needsEscape style c with
    | true => exact .digits (needsEscape_true hneed)
    | false => exact .itself hquote hstroke (needsEscape_false hneed)

/-! ## reading to the end -/

section
variable {c : Char} {w acc rest : List Char} {units : List Nat}

theorem readString?_spelledAs (h : SpelledAs c w) :
    readString? acc (w ++ rest) = readString? (w.reverse ++ acc) rest := by
  cases h with
  | @letter e he =>
    show readString? acc ('\\' :: e :: rest) = _
    rw [readString?.eq_def]
    simp [he]
  | digits hc =>
    rw [hexDigits_four]
    show readString? acc ('\\' :: 'u' :: _ :: _ :: _ :: _ :: rest) = _
    rw [readString?.eq_def]
    simp [hex4?_hexDigits hc, escape?]
  | itself hquote hstroke hc =>
    show readString? acc (c :: rest) = _
    rw [readString?.eq_def]
    simp [hquote, hstroke, Nat.not_lt.mpr hc]

theorem readString?_spelling (style : Style) (cs : List Char) :
    readString? acc (cs.flatMap (fun c => quoteChar style (some c)) ++ '"' :: rest)
      = some (acc.reverse ++ cs.flatMap (fun c => quoteChar style (some c)), rest) := by
  induction cs generalizing acc with
  | nil =>
    show readString? acc ('"' :: rest) = _
    rw [readString?.eq_def, List.flatMap_nil, List.append_nil]
    rfl
  | cons c cs ih =>
    rw [List.flatMap_cons, List.append_assoc, readString?_spelledAs (quoteChar_spelledAs style c),
      ih, List.reverse_append, List.reverse_reverse, List.append_assoc]

/-- **A spelling is read to its end**, and what follows the quote is left. -/
theorem readString?_spelled (style : Style) (s : String) :
    readString? [] (spelled style s ++ '"' :: rest) = some (spelled style s, rest) :=
  readString?_spelling style s.toList

/-! ## what is spelled -/

theorem codeUnits_spelledAs (h : SpelledAs c w) :
    codeUnits units (w ++ rest) = codeUnits (c.toNat :: units) rest := by
  cases h with
  | @letter e he =>
    have hne : e ≠ 'u' := by
      rintro rfl
      cases he
    show codeUnits units ('\\' :: e :: rest) = _
    rw [codeUnits.eq_def]
    simp [hne, he]
  | digits hc =>
    rw [hexDigits_four]
    show codeUnits units ('\\' :: 'u' :: _ :: _ :: _ :: _ :: rest) = _
    rw [codeUnits.eq_def]
    simp [hex4?_hexDigits hc]
  | itself _ hstroke _ =>
    show codeUnits units (c :: rest) = _
    rw [codeUnits.eq_def]
    simp [hstroke]

theorem codeUnits_spelling (style : Style) (cs : List Char) :
    codeUnits units (cs.flatMap fun c => quoteChar style (some c))
      = units.reverse ++ cs.map Char.toNat := by
  induction cs generalizing units with
  | nil => simp [codeUnits]
  | cons c cs ih =>
    rw [List.flatMap_cons, codeUnits_spelledAs (quoteChar_spelledAs style c), ih,
      List.reverse_cons, List.append_assoc]
    rfl

theorem soleUnit_toNat (c : Char) : isHigh c.toNat = false ∧ soleUnit c.toNat = c := by
  have hvalid : c.toNat < 0xD800 ∨ 0xDFFF < c.toNat ∧ c.toNat < 0x110000 := c.valid
  have hhigh : isHigh c.toNat = false := by
    simp only [isHigh, Bool.and_eq_false_iff, decide_eq_false_iff_not]
    omega
  have hlow : isLow c.toNat = false := by
    simp only [isLow, Bool.and_eq_false_iff, decide_eq_false_iff_not]
    omega
  refine ⟨hhigh, ?_⟩
  rw [soleUnit, hhigh, hlow]
  exact Char.ofNat_toNat c

theorem joinUnits_toNat (cs : List Char) : joinUnits acc (cs.map Char.toNat) = acc.reverse ++ cs := by
  induction cs generalizing acc with
  | nil => simp [joinUnits]
  | cons c cs ih =>
    obtain ⟨hhigh, hsole⟩ := soleUnit_toNat c
    cases cs with
    | nil => simp [joinUnits, hsole]
    | cons d cs =>
      have hstep : joinUnits acc ((c :: d :: cs).map Char.toNat)
          = joinUnits (c :: acc) ((d :: cs).map Char.toNat) := by
        simp only [List.map_cons]
        rw [joinUnits, hhigh, Bool.false_and, hsole]
        rfl
      rw [hstep, ih, List.reverse_cons, List.append_assoc]
      rfl

/-- **A spelling spells the text that was written.** -/
theorem unescape_spelled (style : Style) (s : String) : unescape (spelled style s) = s := by
  unfold unescape spelled
  rw [codeUnits_spelling, List.reverse_nil, List.nil_append, joinUnits_toNat, List.reverse_nil,
    List.nil_append, String.ofList_toList]

end

/-! ## characters without escapes -/

/-- a character that stands for itself in every style -/
def IsPlain (c : Char) : Prop :=
  0x20 ≤ c.toNat ∧ c.toNat < 0x7F ∧ c ≠ '"' ∧ c ≠ '\\' ∧ c ≠ '<' ∧ c ≠ '>' ∧ c ≠ '&'

instance (c : Char) : Decidable (IsPlain c) := inferInstanceAs (Decidable (_ ∧ _))

theorem quoteChar_plain (style : Style) {c : Char} (h : IsPlain c) :
    quoteChar style (some c) = [c] := by
  obtain ⟨hlow, hhigh, hquote, hstroke, hlt, hgt, hand⟩ := h
  have hshort : shortEscape? style c.toNat = none := by
    unfold shortEscape?
    rw [if_neg (by omega), if_neg (by omega), if_neg (by omega), if_neg (by omega),
      if_neg (by omega)]
  have hneed : needsEscape style c = false := by
    have h₁ : ¬ c.toNat < 0x20 := by omega
    have h₂ : c.toNat ≠ 0x2028 := by omega
    have h₃ : c.toNat ≠ 0x2029 := by omega
    simp [needsEscape, h₁, h₂, h₃, hlt, hgt, hand]
  unfold quoteChar
  simp only [if_neg hquote, if_neg hstroke, hshort, hneed, Bool.false_eq_true, if_false]

theorem spelled_plain (style : Style) {s : String} (h : ∀ c ∈ s.toList, IsPlain c) :
    spelled style s = s.toList := by
  unfold spelled
  have hall : ∀ cs : List Char, (∀ c ∈ cs, IsPlain c) →
      cs.flatMap (fun c => quoteChar style (some c)) = cs := by
    intro cs hcs
    induction cs with
    | nil => rfl
    | cons c cs ih =>
      rw [List.flatMap_cons, quoteChar_plain style (hcs c List.mem_cons_self),
        ih fun d hd => hcs d (List.mem_cons_of_mem _ hd)]
      rfl
  exact hall s.toList h

end OrderDesk.Json
