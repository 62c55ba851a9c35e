import OrderDesk.Text.Octets

/-!
# Texts as octets and back

The octets of a text are read as its characters, none of them stray.

* `lead_one` … `lead_four`      the character that a sequence of octets starts with;
* `lead_utf8EncodeChar`         the octets of a character are read as that character;
* `lossy_ofText`                the octets of a text are read as its characters;
* `ofText_lt`                   the octets of texts are in the order of their characters.
-/

namespace OrderDesk.Octets

/-! ## sequences of one to four octets -/

section
variable {a b c d : UInt8} {rest : Octets}

theorem lead_one (ha : a.toNat < 128) : lead a rest = some (Char.ofNat a.toNat, 0) :=
  if_pos (UInt8.lt_iff_toNat_lt.mpr ha)

theorem lead_two (ha : 194 ≤ a.toNat ∧ a.toNat < 224) (hb : 128 ≤ b.toNat ∧ b.toNat < 192) :
    lead a (b :: rest) = some (Char.ofNat ((a.toNat - 192) * 64 + (b.toNat - 128)), 1) := by
  simp only [lead, isTail, UInt8.lt_iff_toNat_lt, UInt8.le_iff_toNat_le, UInt8.reduceToNat,
    Bool.and_eq_true, decide_eq_true_eq]
  grind

theorem lead_three (ha : 224 ≤ a.toNat ∧ a.toNat < 240) (hb : 128 ≤ b.toNat ∧ b.toNat < 192)
    (hc : 128 ≤ c.toNat ∧ c.toNat < 192) (hlow : a.toNat = 224 → 160 ≤ b.toNat)
    (hhigh : a.toNat = 237 → b.toNat < 160) : lead a (b :: c :: rest) =
      some (Char.ofNat ((a.toNat - 224) * 4096 + (b.toNat - 128) * 64 + (c.toNat - 128)), 2) := by
  simp only [lead, isTail, UInt8.lt_iff_toNat_lt, UInt8.le_iff_toNat_le, UInt8.reduceToNat,
    Bool.and_eq_true, decide_eq_true_eq, beq_iff_eq, ← UInt8.toNat_inj, apply_ite UInt8.toNat]
  grind

theorem lead_four (ha : 240 ≤ a.toNat ∧ a.toNat < 245) (hb : 128 ≤ b.toNat ∧ b.toNat < 192)
    (hc : 128 ≤ c.toNat ∧ c.toNat < 192) (hd : 128 ≤ d.toNat ∧ d.toNat < 192)
    (hlow : a.toNat = 240 → 144 ≤ b.toNat) (hhigh : a.toNat = 244 → b.toNat < 144) :
    lead a (b :: c :: d :: rest) = some (Char.ofNat ((a.toNat - 240) * 262144 +
      (b.toNat - 128) * 4096 + (c.toNat - 128) * 64 + (d.toNat - 128)), 3) := by
  simp only [lead, isTail, UInt8.lt_iff_toNat_lt, UInt8.le_iff_toNat_le, UInt8.reduceToNat,
    Bool.and_eq_true, decide_eq_true_eq, beq_iff_eq, ← UInt8.toNat_inj, apply_ite UInt8.toNat]
  grind

end

/-! ## characters -/

theorem char_bounds (c : Char) :
    c.toNat < 0x110000 ∧ ¬ (0xD800 ≤ c.toNat ∧ c.toNat ≤ 0xDFFF) := by
  have h : c.toNat < 0xD800 ∨ 0xDFFF < c.toNat ∧ c.toNat < 0x110000 := c.valid
  omega

/-- **The octets of a character are read as that character**, whatever follows them. -/
theorem lead_utf8EncodeChar (c : Char) : ∃ a tail, String.utf8EncodeChar c = a :: tail ∧
    ∀ rest, lead a (tail ++ rest) = some (c, tail.length) := by
  have hbounds := char_bounds c
  have hcode : c.val.toNat = c.toNat := rfl
  unfold String.utf8EncodeChar
  generalize hn : c.toNat = n at *
  have hchar : c = Char.ofNat n := by rw [← hn, Char.ofNat_toNat]
  have hoctet : ∀ m < 256, (UInt8.ofNat m).toNat = m := fun m hm => UInt8.toNat_ofNat_of_lt' hm
  simp only [hcode]
  split
  · next h =>
    refine ⟨_, [], rfl, fun rest => ?_⟩
    have ha := hoctet n (by omega)
    rw [lead_one (by omega), ha, hchar]
    rfl
  split
  · next h =>
    refine ⟨_, [_], rfl, fun rest => ?_⟩
    have ha := hoctet (n / 64 % 32 + 192) (by omega)
    have hb := hoctet (n % 64 + 128) (by omega)
    rw [List.singleton_append, lead_two (by omega) (by omega), ha, hb,
      show (n / 64 % 32 + 192 - 192) * 64 + (n % 64 + 128 - 128) = n by omega, hchar]
    rfl
  split
  · next h =>
    refine ⟨_, [_, _], rfl, fun rest => ?_⟩
    have ha := hoctet (n / 4096 % 16 + 224) (by omega)
    have hb := hoctet (n / 64 % 64 + 128) (by omega)
    have hc := hoctet (n % 64 + 128) (by omega)
    rw [List.cons_append, List.singleton_append,
      lead_three (by omega) (by omega) (by omega) (by omega) (by omega), ha, hb, hc,
      show (n / 4096 % 16 + 224 - 224) * 4096 + (n / 64 % 64 + 128 - 128) * 64 +
        (n % 64 + 128 - 128) = n by omega, hchar]
    rfl
  · refine ⟨_, [_, _, _], rfl, fun rest => ?_⟩
    have ha := hoctet (n / 262144 % 8 + 240) (by omega)
    have hb := hoctet (n / 4096 % 64 + 128) (by omega)
    have hc := hoctet (n / 64 % 64 + 128) (by omega)
    have hd := hoctet (n % 64 + 128) (by omega)
    rw [List.cons_append, List.cons_append, List.singleton_append,
      lead_four (by omega) (by omega) (by omega) (by omega) (by omega) (by omega), ha, hb, hc, hd,
      show (n / 262144 % 8 + 240 - 240) * 262144 + (n / 4096 % 64 + 128 - 128) * 4096 +
        (n / 64 % 64 + 128 - 128) * 64 + (n % 64 + 128 - 128) = n by omega, hchar]
    rfl

theorem decode_utf8EncodeChar (c : Char) (rest : Octets) :
    decode (String.utf8EncodeChar c ++ rest) = some c :: decode rest := by
  obtain ⟨a, tail, hencode, hlead⟩ := lead_utf8EncodeChar c
  rw [hencode, List.cons_append, decode, hlead]
  simp only [List.drop_left]

/-! ## texts -/

theorem decode_flatMap (cs : List Char) :
    decode (cs.flatMap String.utf8EncodeChar) = cs.map some := by
  induction cs with
  | nil => rw [List.flatMap_nil, decode, List.map_nil]
  | cons c cs ih => rw [List.flatMap_cons, decode_utf8EncodeChar, ih, List.map_cons]

theorem ofText_eq (s : String) : ofText s = s.toList.flatMap String.utf8EncodeChar := by
  unfold ofText String.toUTF8
  rw [← String.utf8Encode_toList, List.utf8Encode, List.data_toByteArray]

theorem decode_ofText (s : String) : decode (ofText s) = s.toList.map some := by
  rw [ofText_eq, decode_flatMap]

/-- **The octets of a text are read as its characters.** -/
theorem lossy_ofText (s : String) : lossy (ofText s) = s.toList := by
  unfold lossy
  rw [decode_ofText, List.map_map]
  exact List.map_id _

theorem toText?_ofText (s : String) : toText? (ofText s) = some s := by
  have hall : (s.toList.map some).all Option.isSome = true := by simp
  unfold toText?
  rw [decode_ofText]
  dsimp only
  rw [if_pos hall, List.filterMap_map]
  simp

/-! ## order -/

/-- **The lesser character has the lesser octets**, whatever follows: a wider character begins with a
greater octet, and of two that are equally wide the digits to the base 64 are compared. -/
theorem utf8EncodeChar_lt {c c' : Char} (h : c < c') (rest rest' : Octets) :
    String.utf8EncodeChar c ++ rest < String.utf8EncodeChar c' ++ rest' := by
  have hlt : c.val.toNat < c'.val.toNat := UInt32.lt_iff_toNat_lt.mp h
  have hbound : c'.val.toNat < 0x110000 := (char_bounds c').1
  have hoctet : ∀ m < 256, (UInt8.ofNat m).toNat = m := fun m hm => UInt8.toNat_ofNat_of_lt' hm
  have hdigits : ∀ m, m / 4096 = m / 64 / 64 ∧ m / 262144 = m / 64 / 64 / 64 := fun m => by omega
  unfold String.utf8EncodeChar
  generalize c.val.toNat = n at *
  generalize c'.val.toNat = n' at *
  dsimp only
  repeat' split
  all_goals
    simp only [List.cons_append, List.nil_append, List.cons_lt_cons_iff, UInt8.lt_iff_toNat_lt,
      ← UInt8.toNat_inj, hdigits]
    repeat rw [hoctet _ (by omega)]
    omega

theorem flatMap_utf8EncodeChar_lt {cs cs' : List Char} (h : cs < cs') :
    cs.flatMap String.utf8EncodeChar < cs'.flatMap String.utf8EncodeChar := by
  induction cs generalizing cs' with
  | nil =>
    cases cs' with
    | nil => exact absurd h (List.lt_irrefl _)
    | cons c' cs' =>
      obtain ⟨a, tail, hencode, -⟩ := lead_utf8EncodeChar c'
      rw [List.flatMap_nil, List.flatMap_cons, hencode]
      exact List.nil_lt_cons _ _
  | cons c cs ih =>
    cases cs' with
    | nil => exact absurd h (List.not_lt_nil _)
    | cons c' cs' =>
      rw [List.flatMap_cons, List.flatMap_cons]
      rcases List.cons_lt_cons_iff.mp h with hlt | ⟨rfl, hlt⟩
      · exact utf8EncodeChar_lt hlt _ _
      · exact List.append_left_lt (ih hlt)

theorem ofText_lt {s s' : String} (h : s.toList < s'.toList) : ofText s < ofText s' := by
  rw [ofText_eq, ofText_eq]
  exact flatMap_utf8EncodeChar_lt h

end OrderDesk.Octets
