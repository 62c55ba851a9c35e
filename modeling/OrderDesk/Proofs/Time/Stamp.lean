import OrderDesk.Proofs.Number.Word
import OrderDesk.Proofs.Time.Calendar
import OrderDesk.Time.Stamp

/-!
# Points in time as texts

The internet date form of a point in time, shown in UTC, reads back as that point.

* `Stamp.Writable`        a document takes it: the year has four digits, the offset is below a day;
* `Stamp.Regular`         shown in UTC, with a year of four digits and less than a second of
                          nanoseconds;
* `digits?_padded`        a number of a fixed width is read;
* `fraction_text`         so is a fraction of a second;
* `parse?_text`           so is the whole text.
-/

namespace OrderDesk

/-! ## numbers of a fixed width -/

namespace Word

theorem padded_toList (width n : Nat) : (padded width n).toList
    = List.replicate (width - (Nat.toDigits 10 n).length) '0' ++ Nat.toDigits 10 n := by
  unfold padded
  rw [String.toList_append, String.toList_ofList, Nat.toList_repr, ← String.length_toList,
    Nat.toList_repr]

theorem padded_digits (width n : Nat) : ∀ c ∈ (padded width n).toList, c.isDigit := by
  intro c hc
  rw [padded_toList] at hc
  rcases List.mem_append.mp hc with hc | hc
  · rw [List.eq_of_mem_replicate hc]
    decide
  · exact digits_isDigit n c hc

theorem padded_value (width n : Nat) : Nat.ofDigitChars 10 (padded width n).toList 0 = n := by
  rw [padded_toList, Nat.ofDigitChars_append, Nat.ofDigitChars_replicate_zero, Nat.mul_zero,
    Nat.ofDigitChars_ten_toDigits]

section
variable {width n : Nat} (hw : 0 < width) (hn : n < 10 ^ width)
include hw hn

theorem padded_length : (padded width n).toList.length = width := by
  have hlen : (Nat.toDigits 10 n).length ≤ width :=
    (Nat.length_toDigits_le_iff (by decide) hw).mpr hn
  rw [padded_toList, List.length_append, List.length_replicate]
  omega

theorem padded_ne_nil : (padded width n).toList ≠ [] := by
  intro h
  have hlen := padded_length hw hn
  rw [h, List.length_nil] at hlen
  omega

theorem ofDigits?_padded : ofDigits? (padded width n).toList = some n := by
  rw [Decimal.ofDigits?_of_digits (padded_ne_nil hw hn) (padded_digits width n), padded_value]

end

end Word

namespace Stamp

open Word (padded)

/-- A year of four digits, less than a day from UTC. -/
def Writable (t : Stamp) : Prop := t.InCalendar ∧ t.offset.natAbs < 86400

theorem json_ok_iff {t : Stamp} {s : String} : t.json = .ok s ↔ t.Writable ∧ t.text = s := by
  unfold json Writable
  split_ifs with hyear hzone
  · exact ⟨nofun, fun h => absurd h.1.2 (Nat.not_lt.mpr hzone)⟩
  · exact ⟨fun h => ⟨⟨hyear, Nat.lt_of_not_le hzone⟩, Except.ok.inj h⟩, fun h => congrArg _ h.2⟩
  · exact ⟨nofun, fun h => absurd h.1.1 hyear⟩

/-- Shown in UTC, with a year of four digits and less than a second of nanoseconds. -/
structure Regular (t : Stamp) : Prop where
  inCalendar : t.InCalendar
  utc : t.offset = 0
  nanos : t.nanos < 1000000000

section
variable {n : Nat} {rest : List Char}

theorem digits?_padded {width : Nat} (hw : 0 < width) (hn : n < 10 ^ width) :
    digits? width ((padded width n).toList ++ rest) = some (n, rest) := by
  have hlen := Word.padded_length hw hn
  have htake : ((padded width n).toList ++ rest).take width = (padded width n).toList :=
    List.take_left' hlen
  have hdrop : ((padded width n).toList ++ rest).drop width = rest := List.drop_left' hlen
  unfold digits?
  simp only [htake, hdrop, hlen, if_true, Word.ofDigits?_padded hw hn, Option.bind_eq_bind,
    Option.bind_some]

theorem oneOrTwo?_padded (hn : n < 100) :
    oneOrTwo? ((padded 2 n).toList ++ rest) = some (n, rest) := by
  have hlen : (padded 2 n).toList.length = 2 := Word.padded_length (by decide) hn
  have hdigits := Word.padded_digits 2 n
  have hvalue := Word.padded_value 2 n
  obtain ⟨a, b, htext⟩ := List.length_eq_two.mp hlen
  rw [htext] at hdigits hvalue ⊢
  have ha : a.isDigit := hdigits a (by simp)
  have hb : b.isDigit := hdigits b (by simp)
  have hsum : (a.toNat - 48) * 10 + (b.toNat - 48) = n := by
    rw [← Decimal.foldl_pushDigit] at hvalue
    simpa [Word.pushDigit] using hvalue
  show (if !a.isDigit then none
    else if b.isDigit then some ((a.toNat - 48) * 10 + (b.toNat - 48), rest)
    else some (a.toNat - 48, b :: rest)) = _
  rw [ha, hb, hsum]
  rfl

/-! ## fractions -/

/-- the digits of a fraction without the zeros at its end -/
theorem fractionText_toList (hn : n ≠ 0) :
    (fractionText n).toList = '.' :: Decimal.trimmed (padded 9 n).toList := by
  unfold fractionText Decimal.trimmed List.rdropWhile
  simp [hn]

/-- **A fraction of a second is read to its end.** -/
theorem fraction_text (hn : n < 1000000000) :
    fraction ((fractionText n).toList ++ 'Z' :: rest) = (n, 'Z' :: rest) := by
  by_cases h0 : n = 0
  · have hnone : fractionText n = "" := if_pos h0
    rw [hnone, h0]
    show fraction ('Z' :: rest) = _
    cases rest <;> rfl
  obtain ⟨k, hk⟩ := Decimal.trimmed_append (padded 9 n).toList
  rw [fractionText_toList h0]
  have hdigits : ∀ c ∈ Decimal.trimmed (padded 9 n).toList, c.isDigit := fun c hc =>
    Word.padded_digits 9 n c (hk ▸ List.mem_append_left _ hc)
  have hlen := Word.padded_length (n := n) (show 0 < 9 by decide) hn
  have hvalue := Word.padded_value 9 n
  generalize Decimal.trimmed (padded 9 n).toList = ds at *
  rw [hk, List.length_append, List.length_replicate] at hlen
  rw [hk, Nat.ofDigitChars_append, Nat.ofDigitChars_replicate_zero] at hvalue
  obtain ⟨d, ds, rfl⟩ : ∃ d ds', ds = d :: ds' := by
    refine List.exists_cons_of_ne_nil ?_
    rintro rfl
    exact h0 (by simpa using hvalue.symm)
  have hd : d.isDigit := hdigits d List.mem_cons_self
  have htake : ((d :: ds) ++ 'Z' :: rest).takeWhile Char.isDigit = d :: ds := by
    rw [List.takeWhile_append_of_pos hdigits, List.takeWhile_cons_of_neg (by decide),
      List.append_nil]
  have hnine : (d :: ds).take 9 = d :: ds := List.take_of_length_le (by omega)
  have hzeros : 9 - (d :: ds).length = k := by omega
  have hrest : ((d :: ds) ++ 'Z' :: rest).drop (d :: ds).length = 'Z' :: rest :=
    List.drop_left' rfl
  rw [List.cons_append] at htake hrest
  show (if ('.' == '.' || '.' == ',') && d.isDigit then _ else _) = _
  rw [hd]
  simp only [List.append_eq, htake, hnine, hzeros, hrest, Decimal.foldl_pushDigit]
  rw [show Nat.pow 10 k = 10 ^ k from rfl, Nat.mul_comm, hvalue]
  rfl

end

/-! ## whole texts -/

/-- a date and a time of day in UTC -/
def spelling (y mo d h mi s nanos : Nat) : List Char :=
  (padded 4 y).toList ++ '-' :: ((padded 2 mo).toList ++ '-' :: ((padded 2 d).toList ++
    'T' :: ((padded 2 h).toList ++ ':' :: ((padded 2 mi).toList ++ ':' :: ((padded 2 s).toList ++
      ((fractionText nanos).toList ++ ['Z']))))))

theorem some_bind {α β : Type} {x : Option α} {f : α → Option β} {a : α} {b : β} (hx : x = some a)
    (hf : f a = some b) : (x >>= f) = some b := Option.bind_eq_some_iff.mpr ⟨a, hx, hf⟩

theorem mark?_cons (c : Char) (cs : List Char) : mark? c (c :: cs) = some cs := if_pos rfl

theorem parse?_spelling {y mo d h mi s nanos : Nat} (hy : y ≤ 9999) (hmo : 1 ≤ mo ∧ mo ≤ 12)
    (hd : 1 ≤ d ∧ d ≤ Calendar.daysIn y mo) (hh : h ≤ 23) (hmi : mi ≤ 59) (hs : s ≤ 59)
    (hn : nanos < 1000000000) : parse? (spelling y mo d h mi s nanos)
      = some ⟨Calendar.daysOf ⟨y, mo, d⟩ * 86400 + ((h * 60 + mi) * 60 + s : Nat), nanos, 0⟩ := by
  have hlong : Calendar.daysIn y mo ≤ 31 := by
    unfold Calendar.daysIn
    split
    · split <;> omega
    · split <;> omega
  have hvalid : ¬ (mo < 1 || 12 < mo || d < 1 || Calendar.daysIn y mo < d || 23 < h || 59 < mi ||
      59 < s) = true := by
    simp only [Bool.or_eq_true, decide_eq_true_eq]
    omega
  have hy' : y < 10 ^ 4 := by omega
  have hmo' : mo < 10 ^ 2 := by omega
  have hd' : d < 10 ^ 2 := by omega
  have hh' : h < 100 := by omega
  have hmi' : mi < 10 ^ 2 := by omega
  have hs' : s < 10 ^ 2 := by omega
  unfold parse? spelling
  refine some_bind (digits?_padded (by decide) hy') (some_bind (mark?_cons _ _) ?_)
  refine some_bind (digits?_padded (by decide) hmo') (some_bind (mark?_cons _ _) ?_)
  refine some_bind (digits?_padded (by decide) hd') (some_bind (mark?_cons _ _) ?_)
  refine some_bind (oneOrTwo?_padded hh') (some_bind (mark?_cons _ _) ?_)
  refine some_bind (digits?_padded (by decide) hmi') (some_bind (mark?_cons _ _) ?_)
  refine some_bind (digits?_padded (by decide) hs') ?_
  simp only [fraction_text hn]
  refine some_bind (show offset? ['Z'] = some 0 from rfl) ?_
  rw [if_neg hvalid, Int.sub_zero]

theorem text_toList {t : Stamp} (h : t.Regular) : t.text.toList
    = spelling t.date.year.toNat t.date.month t.date.day ((t.seconds.fmod 86400).toNat / 3600)
      ((t.seconds.fmod 86400).toNat / 60 % 60) ((t.seconds.fmod 86400).toNat % 60) t.nanos := by
  obtain ⟨hpos, -⟩ : 0 ≤ t.date.year ∧ t.date.year ≤ 9999 := h.inCalendar
  have hyear : yearText t.date.year = padded 4 t.date.year.toNat := by
    unfold yearText
    rw [if_neg (by omega)]
    congr 1
    omega
  unfold text spelling
  simp [h.utc, hyear, offsetText]

/-- **The text of a point in time reads back as that point.** -/
theorem parse?_text {t : Stamp} (h : t.Regular) : parse? t.text.toList = some t := by
  obtain ⟨hpos, hmax⟩ : 0 ≤ t.date.year ∧ t.date.year ≤ 9999 := h.inCalendar
  have hdate : t.date = Calendar.dateOf (t.seconds.fdiv 86400) := by
    unfold date
    rw [h.utc, Int.add_zero]
  obtain ⟨hm₁, hm₂, hd₁, hd₂⟩ := Calendar.dateOf_valid (t.seconds.fdiv 86400)
  have hday := Calendar.daysOf_dateOf (t.seconds.fdiv 86400)
  rw [← hdate] at hm₁ hm₂ hd₁ hd₂ hday
  have hyear : (t.date.year.toNat : Int) = t.date.year := Int.toNat_of_nonneg hpos
  have hsec₀ : 0 ≤ t.seconds.fmod 86400 := Int.fmod_nonneg_of_pos _ (by decide)
  have hsec₁ : t.seconds.fmod 86400 < 86400 := Int.fmod_lt_of_pos _ (by decide)
  have hsplit : 86400 * t.seconds.fdiv 86400 + t.seconds.fmod 86400 = t.seconds :=
    Int.mul_fdiv_add_fmod _ _
  rw [text_toList h, parse?_spelling (by omega) ⟨hm₁, hm₂⟩ (by rw [hyear]; exact ⟨hd₁, hd₂⟩)
    (by omega) (by omega) (by omega) h.nanos, hyear]
  have hwhole : Calendar.daysOf t.date * 86400
      + ((((t.seconds.fmod 86400).toNat / 3600) * 60 + (t.seconds.fmod 86400).toNat / 60 % 60) * 60
        + (t.seconds.fmod 86400).toNat % 60 : Nat) = t.seconds := by
    rw [hday]
    omega
  show some (Stamp.mk (Calendar.daysOf t.date * 86400 + _) t.nanos 0) = some t
  rw [hwhole, ← h.utc]

end Stamp

end OrderDesk
