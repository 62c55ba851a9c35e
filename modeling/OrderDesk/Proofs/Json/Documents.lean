import OrderDesk.Proofs.Json.Strings
import OrderDesk.Proofs.Number.Word

/-!
# Documents that are written

A value is written without blanks, and the text is read as the document that the value means. This
goes for values without fractions, as deep as documents may be.

* `Value.doc`             the document that a value is written as;
* `Value.fits`            the value has no fractions and is not too deep;
* `number?_toString`      a whole number is read to its end;
* `value?_text`           a written value is read as its document;
* `readWhole?_text`       so is a whole text.
-/

namespace OrderDesk.Json

/-! ## numbers -/

/-- Nothing that could go on a number. -/
def Ends (rest : List Char) : Prop :=
  ∀ c ∈ rest.head?, ¬ c.isDigit ∧ c ≠ '.' ∧ c ≠ 'e' ∧ c ≠ 'E'

theorem ends_nil : Ends [] := fun _ h => nomatch h

theorem ends_cons {c : Char} {rest : List Char}
    (h : ¬ c.isDigit ∧ c ≠ '.' ∧ c ≠ 'e' ∧ c ≠ 'E') : Ends (c :: rest) := by
  intro d hd
  rw [← Option.some.inj hd]
  exact h

section
variable {ds rest : List Char}

theorem digits?_append (hne : ds ≠ []) (hd : ∀ c ∈ ds, c.isDigit) (hr : Ends rest) :
    digits? (ds ++ rest) = some (ds, rest) := by
  have hstop : rest.takeWhile Char.isDigit = [] ∧ rest.dropWhile Char.isDigit = rest := by
    cases rest with
    | nil => exact ⟨rfl, rfl⟩
    | cons c rest =>
      have hc : ¬ c.isDigit := (hr c rfl).1
      exact ⟨List.takeWhile_cons_of_neg hc, List.dropWhile_cons_of_neg hc⟩
  unfold digits?
  rw [List.takeWhile_append_of_pos hd, List.dropWhile_append_of_pos hd, hstop.1, hstop.2,
    List.append_nil]
  cases ds with
  | nil => exact absurd rfl hne
  | cons c ds => rfl

/-- the digits of a number that is not zero start with another digit -/
theorem toDigits_head {n : Nat} (hn : 0 < n) : ∃ c cs, Nat.toDigits 10 n = c :: cs ∧ c ≠ '0' := by
  induction n using Nat.strongRecOn with
  | _ n ih =>
    by_cases h : n < 10
    · refine ⟨Nat.digitChar n, [], Nat.toDigits_of_lt_base h, ?_⟩
      have hall : ∀ m < 10, 0 < m → Nat.digitChar m ≠ '0' := by decide
      exact hall n h hn
    · obtain ⟨c, cs, hhead, hc⟩ := ih (n / 10) (by omega) (by omega)
      have happend := Nat.toDigits_append_toDigits (b := 10) (n := n / 10) (d := n % 10)
        (by decide) (by omega) (by omega)
      rw [show 10 * (n / 10) + n % 10 = n by omega, hhead] at happend
      exact ⟨c, _, happend.symm, hc⟩

theorem wholePart?_toDigits (n : Nat) (hr : Ends rest) :
    wholePart? (Nat.toDigits 10 n ++ rest) = some (Nat.toDigits 10 n, rest) := by
  rcases Nat.eq_zero_or_pos n with rfl | hn
  · rfl
  · obtain ⟨c, cs, hhead, hc⟩ := toDigits_head hn
    have hdigits : digits? (Nat.toDigits 10 n ++ rest) = some (Nat.toDigits 10 n, rest) :=
      digits?_append Nat.toDigits_ne_nil (Word.digits_isDigit n) hr
    rw [hhead] at hdigits ⊢
    unfold wholePart?
    split
    · next h => exact absurd (List.cons.inj h).1 hc
    · exact hdigits

theorem unsigned?_toDigits (n : Nat) (hr : Ends rest) :
    unsigned? (Nat.toDigits 10 n ++ rest) = some (Nat.toDigits 10 n, rest) := by
  have hfraction : fractionPart? rest = some ([], rest) := by
    unfold fractionPart?
    split
    · exact absurd rfl (hr '.' rfl).2.1
    · rfl
  have hexponent : exponentPart? rest = some ([], rest) := by
    cases rest with
    | nil => rfl
    | cons c rest =>
      obtain ⟨-, -, he, hE⟩ := hr c rfl
      show (if c = 'e' ∨ c = 'E' then _ else _) = _
      rw [if_neg (by simp [he, hE])]
  unfold unsigned?
  simp only [wholePart?_toDigits n hr, hfraction, hexponent, Option.bind_eq_bind, Option.bind_some,
    List.append_nil]

/-- **A whole number is read to its end.** -/
theorem number?_toString (n : Int) (hr : Ends rest) :
    number? ((toString n).toList ++ rest) = some ((toString n).toList, rest) := by
  have hread := unsigned?_toDigits n.natAbs hr
  rw [Word.toString_toList, List.append_assoc]
  by_cases hn : n < 0
  · rw [decide_eq_true hn]
    show (unsigned? (Nat.toDigits 10 n.natAbs ++ rest)).map _ = _
    rw [hread]
    rfl
  · rw [decide_eq_false hn]
    show number? (Nat.toDigits 10 n.natAbs ++ rest) = some (Nat.toDigits 10 n.natAbs, rest)
    obtain ⟨c, cs, hhead⟩ := List.exists_cons_of_ne_nil
      (Nat.toDigits_ne_nil : Nat.toDigits 10 n.natAbs ≠ [])
    have hc : c.isDigit := Word.digits_isDigit _ c (by rw [hhead]; exact List.mem_cons_self)
    rw [hhead] at hread ⊢
    unfold number?
    split
    · next h =>
      rw [(List.cons.inj h).1] at hc
      exact absurd hc (by decide)
    · exact hread

end

/-! ## values and their documents -/

mutual

/-- the document that a value is written as -/
def Value.doc : Value → Doc
  | .null => .null
  | .bool b => .bool b
  | .int n => .num (toString n).toList
  | .num x => .num x.text.toList
  | .spelled s => .num s.toList
  | .str s => .str (spelled .document s)
  | .raw bs => .str ((Octets.decode bs).flatMap (quoteChar .document))
  | .arr vs => .arr (docItems vs)
  | .obj ms => .obj (docMembers ms)

def docItems : List Value → List Doc
  | [] => []
  | v :: vs => v.doc :: docItems vs

def docMembers : List (String × Value) → List (List Char × Doc)
  | [] => []
  | (k, v) :: ms => (spelled .document k, v.doc) :: docMembers ms

end

mutual

/-- the value has no fractions and no stray octets, and at most `room` levels -/
def Value.fits (room : Nat) : Value → Bool
  | .null | .bool _ | .int _ | .str _ => true
  | .num _ | .spelled _ | .raw _ => false
  | .arr vs => room != 0 && fitsItems (room - 1) vs
  | .obj ms => room != 0 && fitsMembers (room - 1) ms

def fitsItems (room : Nat) : List Value → Bool
  | [] => true
  | v :: vs => v.fits room && fitsItems room vs

def fitsMembers (room : Nat) : List (String × Value) → Bool
  | [] => true
  | (_, v) :: ms => v.fits room && fitsMembers room ms

end

theorem docItems_map {α : Type} (f : α → Value) (as : List α) :
    docItems (as.map f) = as.map fun a => (f a).doc := by
  induction as with
  | nil => rfl
  | cons a as ih => rw [List.map_cons, docItems, ih, List.map_cons]

theorem fitsItems_map {α : Type} {room : Nat} {f : α → Value} (h : ∀ a, (f a).fits room = true)
    (as : List α) : fitsItems room (as.map f) = true := by
  induction as with
  | nil => rfl
  | cons a as ih => rw [List.map_cons, fitsItems, h a, ih, Bool.and_self]

/-! ## how texts begin -/

theorem skip_cons {c : Char} {cs : List Char} (h : isSpace c = false) : skip (c :: cs) = c :: cs := by
  unfold skip
  exact List.dropWhile_cons_of_neg (by simp [h])

theorem toString_head (n : Int) : ∃ c cs, (toString n).toList = c :: cs ∧ (c = '-' ∨ c.isDigit) := by
  rw [Word.toString_toList]
  by_cases hn : n < 0
  · rw [decide_eq_true hn]
    exact ⟨'-', _, rfl, .inl rfl⟩
  · rw [decide_eq_false hn]
    obtain ⟨c, cs, hhead⟩ := List.exists_cons_of_ne_nil
      (Nat.toDigits_ne_nil : Nat.toDigits 10 n.natAbs ≠ [])
    exact ⟨c, cs, hhead, .inr (Word.digits_isDigit _ c (by rw [hhead]; exact List.mem_cons_self))⟩

theorem ne_of_numeric {c d : Char} (hc : c = '-' ∨ c.isDigit) (hd : d ≠ '-' ∧ d.isDigit = false) :
    c ≠ d := by
  rintro rfl
  rcases hc with rfl | hc
  · exact hd.1 rfl
  · rw [hd.2] at hc
    cases hc

theorem toList_obj (ms : List (String × Value)) : (Value.obj ms).text.toList
    = Char.ofNat 0x7B :: (renderMembers .document ms).toList ++ [Char.ofNat 0x7D] := by
  show ("\x7b" ++ renderMembers .document ms ++ "\x7d").toList = _
  rw [String.toList_append, String.toList_append]
  rfl

theorem toList_arr (vs : List Value) :
    (Value.arr vs).text.toList = '[' :: (renderItems .document vs).toList ++ [']'] := by
  show ("[" ++ renderItems .document vs ++ "]").toList = _
  rw [String.toList_append, String.toList_append]
  rfl

/-- a text has no blank in front, and does not start like the end of a list -/
theorem text_head {room : Nat} {v : Value} (h : v.fits room = true) :
    ∃ c cs, v.text.toList = c :: cs ∧ isSpace c = false ∧ c ≠ ']' := by
  cases v with
  | null => exact ⟨'n', _, rfl, rfl, by decide⟩
  | bool b =>
    cases b with
    | true => exact ⟨'t', _, rfl, rfl, by decide⟩
    | false => exact ⟨'f', _, rfl, rfl, by decide⟩
  | int n =>
    obtain ⟨c, cs, htext, hc⟩ := toString_head n
    have hspace : isSpace c = false := by
      have h₁ : c ≠ ' ' := ne_of_numeric hc (by decide)
      have h₂ : c ≠ '\t' := ne_of_numeric hc (by decide)
      have h₃ : c ≠ '\n' := ne_of_numeric hc (by decide)
      have h₄ : c ≠ '\r' := ne_of_numeric hc (by decide)
      simp [isSpace, h₁, h₂, h₃, h₄]
    exact ⟨c, cs, htext, hspace, ne_of_numeric hc (by decide)⟩
  | str s => exact ⟨'"', _, quote_toList .document s, rfl, by decide⟩
  | arr vs => exact ⟨'[', _, toList_arr vs, rfl, by decide⟩
  | obj ms => exact ⟨Char.ofNat 0x7B, _, toList_obj ms, rfl, by decide⟩
  | num | spelled | raw => cases h

theorem skip_text {room : Nat} {v : Value} (h : v.fits room = true) (rest : List Char) :
    skip (v.text.toList ++ rest) = v.text.toList ++ rest := by
  obtain ⟨c, cs, htext, hspace, -⟩ := text_head h
  rw [htext]
  exact skip_cons hspace

/-! ## reading values -/

section
variable {fuel room : Nat} {rest : List Char}

theorem value?_numeric {c : Char} {cs : List Char} (hc : c = '-' ∨ c.isDigit) :
    value? (fuel + 1) room (c :: cs) = (number? (c :: cs)).map fun (n, r) => (.num n, r) := by
  have h₁ : c ≠ '"' := ne_of_numeric hc (by decide)
  have h₂ : c ≠ '[' := ne_of_numeric hc (by decide)
  have h₃ : c ≠ Char.ofNat 0x7B := ne_of_numeric hc (by decide)
  have h₄ : c ≠ 't' := ne_of_numeric hc (by decide)
  have h₅ : c ≠ 'f' := ne_of_numeric hc (by decide)
  have h₆ : c ≠ 'n' := ne_of_numeric hc (by decide)
  rw [value?]
  simp only [if_neg h₁, if_neg h₂, if_neg h₃, if_neg h₄, if_neg h₅, if_neg h₆]

theorem value?_string : value? (fuel + 1) room ('"' :: rest)
    = (readString? [] rest).map fun (s, r) => (.str s, r) := by
  rw [value?, if_pos rfl]

theorem value?_arr_nil (hroom : room ≠ 0) :
    value? (fuel + 1) room ('[' :: ']' :: rest) = some (.arr [], rest) := by
  rw [value?, if_neg (by decide), if_pos rfl, if_neg hroom, skip_cons (by decide)]
  rfl

theorem value?_arr_cons {c : Char} {cs : List Char} (hroom : room ≠ 0) (hspace : isSpace c = false)
    (hc : c ≠ ']') : value? (fuel + 1) room ('[' :: c :: cs)
      = (items? fuel (room - 1) [] (c :: cs)).map fun (ds, r) => (.arr ds, r) := by
  rw [value?, if_neg (by decide), if_pos rfl, if_neg hroom, skip_cons hspace]
  split
  · next h => exact absurd (List.cons.inj h).1 hc
  · rfl

theorem value?_obj_nil (hroom : room ≠ 0) :
    value? (fuel + 1) room (Char.ofNat 0x7B :: Char.ofNat 0x7D :: rest) = some (.obj [], rest) := by
  rw [value?, if_neg (by decide), if_neg (by decide), if_pos rfl, if_neg hroom,
    skip_cons (by decide)]
  rfl

theorem value?_obj_cons {cs : List Char} (hroom : room ≠ 0) :
    value? (fuel + 1) room (Char.ofNat 0x7B :: '"' :: cs)
      = (members? fuel (room - 1) [] ('"' :: cs)).map fun (ms, r) => (.obj ms, r) := by
  rw [value?, if_neg (by decide), if_neg (by decide), if_pos rfl, if_neg hroom,
    skip_cons (by decide)]
  exact if_neg (by decide)

theorem value?_words (b : Bool) :
    value? (fuel + 1) room ('n' :: 'u' :: 'l' :: 'l' :: rest) = some (.null, rest) ∧
      value? (fuel + 1) room ((Value.bool b).text.toList ++ rest) = some (.bool b, rest) := by
  cases b <;> simp [value?, word?, Value.text, Value.render]

/-- the text of an item and of those after it -/
theorem renderItems_cons (v : Value) (vs : List Value) :
    (renderItems .document (v :: vs)).toList = v.text.toList ++
      if vs.isEmpty then [] else ',' :: (renderItems .document vs).toList := by
  cases vs with
  | nil => simp [renderItems, Value.text]
  | cons w vs => simp [renderItems, Value.text]

theorem renderMembers_cons (k : String) (v : Value) (ms : List (String × Value)) :
    (renderMembers .document ((k, v) :: ms)).toList
      = '"' :: spelled .document k ++ '"' :: ':' :: v.text.toList ++
        if ms.isEmpty then [] else ',' :: (renderMembers .document ms).toList := by
  cases ms with
  | nil => simp [renderMembers, Value.text, quote_toList]
  | cons m ms => simp [renderMembers, Value.text, quote_toList]

end

/-! The reader spends one unit of fuel on each value and on each item of a list; two for every
character are enough. -/

/-- values are read with this much fuel -/
def ReadsValues (fuel : Nat) : Prop :=
  ∀ (v : Value) (room : Nat) (rest : List Char), v.fits room = true → Ends rest →
    2 * v.text.toList.length ≤ fuel → value? fuel room (v.text.toList ++ rest) = some (v.doc, rest)

/-- so are the items of a list, up to its end -/
def ReadsItems (fuel : Nat) : Prop :=
  ∀ (v : Value) (vs : List Value) (room : Nat) (acc : List Doc) (rest : List Char),
    fitsItems room (v :: vs) = true →
    2 * (renderItems .document (v :: vs)).toList.length + 1 ≤ fuel →
    items? fuel room acc ((renderItems .document (v :: vs)).toList ++ ']' :: rest)
      = some (acc.reverse ++ docItems (v :: vs), rest)

/-- so are the members of an object, up to its end -/
def ReadsMembers (fuel : Nat) : Prop :=
  ∀ (m : String × Value) (ms : List (String × Value)) (room : Nat)
    (acc : List (List Char × Doc)) (rest : List Char), fitsMembers room (m :: ms) = true →
    2 * (renderMembers .document (m :: ms)).toList.length + 1 ≤ fuel →
    members? fuel room acc ((renderMembers .document (m :: ms)).toList ++ Char.ofNat 0x7D :: rest)
      = some (acc.reverse ++ docMembers (m :: ms), rest)

section
variable {fuel : Nat}

theorem readsValues_zero : ReadsValues 0 := by
  intro v room rest h _ hfuel
  obtain ⟨c, cs, htext, -⟩ := text_head h
  rw [htext, List.length_cons] at hfuel
  omega

theorem readsValues_succ (hitems : ReadsItems fuel) (hmembers : ReadsMembers fuel) :
    ReadsValues (fuel + 1) := by
  intro v room rest h hr hfuel
  cases v with
  | null => exact (value?_words true).1
  | bool b => exact (value?_words b).2
  | int n =>
    obtain ⟨c, cs, htext, hc⟩ := toString_head n
    have hread := number?_toString n hr
    show value? (fuel + 1) room ((toString n).toList ++ rest) = some (.num (toString n).toList, rest)
    rw [htext] at hread ⊢
    rw [List.cons_append, value?_numeric hc, ← List.cons_append, hread]
    rfl
  | str s =>
    show value? (fuel + 1) room ((quote .document s).toList ++ rest) = _
    rw [quote_toList, List.cons_append, List.cons_append, List.append_assoc, value?_string,
      List.singleton_append, readString?_spelled]
    rfl
  | arr vs =>
    rw [Value.fits, Bool.and_eq_true, bne_iff_ne] at h
    obtain ⟨hroom, hvs⟩ := h
    rw [toList_arr] at hfuel ⊢
    cases vs with
    | nil => exact value?_arr_nil hroom
    | cons v vs =>
      have hread := hitems v vs (room - 1) [] rest hvs (by
        simp only [List.length_append, List.length_cons, List.length_nil] at hfuel
        omega)
      rw [fitsItems, Bool.and_eq_true] at hvs
      obtain ⟨c, cs, htext, hspace, hne⟩ := text_head hvs.1
      rw [renderItems_cons, htext] at hread ⊢
      simp only [List.cons_append, List.append_assoc, List.nil_append] at hread ⊢
      rw [value?_arr_cons hroom hspace hne, hread]
      rfl
  | obj ms =>
    rw [Value.fits, Bool.and_eq_true, bne_iff_ne] at h
    obtain ⟨hroom, hms⟩ := h
    rw [toList_obj] at hfuel ⊢
    cases ms with
    | nil => exact value?_obj_nil hroom
    | cons m ms =>
      have hread := hmembers m ms (room - 1) [] rest hms (by
        simp only [List.length_append, List.length_cons, List.length_nil] at hfuel
        omega)
      rw [renderMembers_cons] at hread ⊢
      simp only [List.cons_append, List.append_assoc, List.nil_append] at hread ⊢
      rw [value?_obj_cons hroom, hread]
      rfl
  | num | spelled | raw => cases h

theorem readsItems_succ (hvalues : ReadsValues fuel) (hitems : ReadsItems fuel) :
    ReadsItems (fuel + 1) := by
  intro v vs room acc rest h hfuel
  rw [fitsItems, Bool.and_eq_true] at h
  rw [renderItems_cons] at hfuel ⊢
  rw [List.length_append] at hfuel
  rw [List.append_assoc, items?]
  cases vs with
  | nil =>
    have hend : Ends (']' :: rest) := ends_cons (by decide)
    rw [List.isEmpty_nil, if_pos rfl, List.nil_append, hvalues v room _ h.1 hend (by omega)]
    simp only [skip_cons (show isSpace ']' = false by decide)]
    rw [List.reverse_cons]
    rfl
  | cons w vs =>
    have hend : Ends (',' :: ((renderItems .document (w :: vs)).toList ++ ']' :: rest)) :=
      ends_cons (by decide)
    have hw : w.fits room = true := by
      have hrest := h.2
      rw [fitsItems, Bool.and_eq_true] at hrest
      exact hrest.1
    have hskip : skip ((renderItems .document (w :: vs)).toList ++ ']' :: rest)
        = (renderItems .document (w :: vs)).toList ++ ']' :: rest := by
      rw [renderItems_cons, List.append_assoc]
      exact skip_text hw _
    rw [List.isEmpty_cons, if_neg (by decide), List.length_cons] at hfuel
    rw [List.isEmpty_cons, if_neg (by decide), List.cons_append,
      hvalues v room _ h.1 hend (by omega)]
    simp only [skip_cons (show isSpace ',' = false by decide)]
    rw [hskip, hitems w vs room _ rest h.2 (by omega), List.reverse_cons, List.append_assoc]
    rfl

theorem readsMembers_succ (hvalues : ReadsValues fuel) (hmembers : ReadsMembers fuel) :
    ReadsMembers (fuel + 1) := by
  rintro ⟨k, v⟩ ms room acc rest h hfuel
  rw [fitsMembers, Bool.and_eq_true] at h
  rw [renderMembers_cons] at hfuel ⊢
  simp only [List.cons_append, List.append_assoc, List.length_append, List.length_cons] at hfuel ⊢
  rw [members?]
  simp only [readString?_spelled, skip_cons (show isSpace ':' = false by decide)]
  rw [skip_text h.1]
  cases ms with
  | nil =>
    have hend : Ends (Char.ofNat 0x7D :: rest) := ends_cons (by decide)
    rw [List.isEmpty_nil, if_pos rfl, List.nil_append, hvalues v room _ h.1 hend (by omega)]
    simp only [skip_cons (show isSpace (Char.ofNat 0x7D) = false by decide)]
    rw [List.reverse_cons]
    rfl
  | cons m ms =>
    have hend : Ends (',' :: ((renderMembers .document (m :: ms)).toList ++
        Char.ofNat 0x7D :: rest)) := ends_cons (by decide)
    have hskip : skip ((renderMembers .document (m :: ms)).toList ++ Char.ofNat 0x7D :: rest)
        = (renderMembers .document (m :: ms)).toList ++ Char.ofNat 0x7D :: rest := by
      rw [renderMembers_cons]
      exact skip_cons (by decide)
    rw [List.isEmpty_cons, if_neg (by decide), List.length_cons] at hfuel
    rw [List.isEmpty_cons, if_neg (by decide), List.cons_append,
      hvalues v room _ h.1 hend (by omega)]
    simp only [skip_cons (show isSpace ',' = false by decide)]
    rw [hskip, hmembers m ms room _ rest h.2 (by omega), List.reverse_cons,
      List.append_assoc]
    rfl

theorem reads_of_fuel (fuel : Nat) : ReadsValues fuel ∧ ReadsItems fuel ∧ ReadsMembers fuel := by
  induction fuel with
  | zero =>
    refine ⟨readsValues_zero, ?_, ?_⟩
    · intro v vs room acc rest _ hfuel
      omega
    · intro m ms room acc rest _ hfuel
      omega
  | succ fuel ih =>
    obtain ⟨hvalues, hitems, hmembers⟩ := ih
    exact ⟨readsValues_succ hitems hmembers, readsItems_succ hvalues hitems,
      readsMembers_succ hvalues hmembers⟩

end

/-- **A written value is read as its document**, and what follows is left. -/
theorem value?_text {v : Value} {fuel room : Nat} {rest : List Char} (h : v.fits room = true)
    (hr : Ends rest) (hfuel : 2 * v.text.toList.length ≤ fuel) :
    value? fuel room (v.text.toList ++ rest) = some (v.doc, rest) :=
  (reads_of_fuel fuel).1 v room rest h hr hfuel

/-- **A text that was written is read as the document of its value.** -/
theorem readWhole?_text {v : Value} (h : v.fits maxDepth = true) :
    readWhole? v.text.toList = some v.doc := by
  have hskip : skip v.text.toList = v.text.toList := by
    have := skip_text h []
    rwa [List.append_nil] at this
  have hread : read? v.text.toList = some (v.doc, []) := by
    unfold read?
    rw [hskip]
    have hall : 2 * v.text.toList.length ≤ 2 * v.text.toList.length + 2 := by omega
    have := value?_text h ends_nil hall
    rwa [List.append_nil] at this
  unfold readWhole?
  rw [hread]
  rfl

end OrderDesk.Json
