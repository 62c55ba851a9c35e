import OrderDesk.Proofs.Json.Documents
import OrderDesk.Proofs.Order.Amounts
import OrderDesk.Proofs.Time.Stamp

/-!
# Orders on the wire and back

A whole order is written as a document. What is read from the document is the order that was
written: only the spelling of amounts may differ, and it is written as the same document again.

* `Line.Cacheable`, `Order.Cacheable`      what can be written and read back;
* `named_spelled`, `foldKey_names`         which field a written name belongs to;
* `Json.read?_listed`                      a written list is read back;
* `Line.ofDoc?_value`                      a written line is read back;
* `Order.written_value`                    an order is written as its document;
* `Order.written_congr`                    alike orders are written as one document;
* `Order.ofDoc?_value`                     a written order is read back.
-/

namespace OrderDesk

open Json (Value Doc spelled named)

/-! ## what can be written -/

/-- A line whose numbers fit 64 bits, with a price that reads back. -/
structure Line.Cacheable (l : Line) : Prop where
  productId : Word.InRange l.productId
  quantity : Word.InRange l.quantity
  price : -2 ^ 31 ≤ l.unitPrice.exp

/-- An order of such lines, with an id of 64 bits, a total that reads back and regular times. -/
structure Order.Cacheable (o : Order) : Prop where
  id : Word.InRange o.id
  total : -2 ^ 31 ≤ o.total.exp
  lines : ∀ l ∈ o.items, l.Cacheable
  createdAt : o.createdAt.Regular
  updatedAt : o.updatedAt.Regular

/-! ## names -/

theorem Json.named_spelled (field key : String) : named field (spelled .document key)
    = (key == field || Text.foldKey key == Text.foldKey field) := by
  unfold named
  rw [Json.unescape_spelled]

/-- the names of the members of orders and lines without letter case; no two are the same -/
theorem foldKey_names : Text.foldKey "id" = "ID" ∧ Text.foldKey "orderNumber" = "ORDERNUMBER" ∧
    Text.foldKey "status" = "STATUS" ∧ Text.foldKey "total" = "TOTAL" ∧
    Text.foldKey "items" = "ITEMS" ∧ Text.foldKey "createdAt" = "CREATEDAT" ∧
    Text.foldKey "updatedAt" = "UPDATEDAT" ∧ Text.foldKey "productId" = "PRODUCTID" ∧
    Text.foldKey "productName" = "PRODUCTNAME" ∧ Text.foldKey "quantity" = "QUANTITY" ∧
    Text.foldKey "unitPrice" = "UNITPRICE" := by decide +kernel

/-! ## fields -/

section
variable {n : Int} {s : String} {t : Stamp} {a : Decimal}

theorem Json.int?_repr (old : Int) (h : Word.InRange n) :
    Json.int? old (.num n.repr.toList) = some n := by
  show Word.parseInt? (String.ofList (toString n).toList) = some n
  rw [String.ofList_toList, Word.parseInt?_toString h]

theorem Json.text?_spelled (old : String) : Json.text? old (.str (spelled .document s)) = some s := by
  show some (Json.unescape (spelled .document s)) = some s
  rw [Json.unescape_spelled]

theorem Json.stamp?_text (old : Stamp) (h : t.Regular) :
    Json.stamp? old (.str (spelled .document t.text)) = some t := by
  show Stamp.parse? (Json.unescape (spelled .document t.text)).toList = some t
  rw [Json.unescape_spelled, Stamp.parse?_text h]

theorem Decimal.text_plain (a : Decimal) : ∀ c ∈ a.text.toList, Json.IsPlain c := by
  have hexp : -((-a.exp).toNat : Int) ≤ a.exp := by omega
  have hdigit : ∀ d : Char, d.isDigit → Json.IsPlain d := by
    intro d hd
    have hrange : 48 ≤ d.toNat ∧ d.toNat ≤ 57 := by
      simpa [Char.isDigit, UInt32.le_iff_toNat_le] using hd
    refine ⟨by omega, by omega, ?_, ?_, ?_, ?_, ?_⟩ <;> exact digit_ne hd (by decide)
  intro c hc
  rw [text_eq_plain hexp, plain_true_eq, String.toList_ofList] at hc
  have hdigits := fun c => splitDigits_digits (-a.exp).toNat
    (a.coeffAt (-((-a.exp).toNat : Int))).natAbs (c := c)
  obtain ⟨k, hk⟩ := trimmed_append (splitDigits (-a.exp).toNat
    (a.coeffAt (-((-a.exp).toNat : Int))).natAbs).2
  rcases plain_chars _ (fun c hc => hdigits c (.inl hc))
    (fun c hc => hdigits c (.inr (hk ▸ List.mem_append_left _ hc))) hc with h | rfl | rfl
  · exact hdigit c h
  · decide
  · decide

theorem Json.decimal?_text (h : -2 ^ 31 ≤ a.exp) : ∃ b,
    (∀ old, Json.decimal? old (.str (spelled .document a.text)) = some b) ∧ b.value = a.value := by
  obtain ⟨b, hb, hvalue, -⟩ := Decimal.parse_text h
  refine ⟨b, fun old => ?_, hvalue⟩
  show (Decimal.parse (String.ofList (spelled .document a.text))).toOption = some b
  rw [Json.spelled_plain _ a.text_plain, String.ofList_toList, hb]
  rfl

end

/-! ## lists -/

namespace Json

variable {α β : Type} {elem? : α → Doc → Option α} {zero : α} {R : α → β → Prop} {f : β → Value}

/-- a list as it is written -/
def listed (f : β → Value) : Option (List β) → Value
  | none => .null
  | some bs => .arr (bs.map f)

theorem overItems?_listed {bs : List β}
    (h : ∀ b ∈ bs, ∃ a, elem? zero (f b).doc = some a ∧ R a b) : ∃ as,
    overItems? elem? zero [] (bs.map fun b => (f b).doc) = some as ∧ List.Forall₂ R as bs := by
  induction bs with
  | nil => exact ⟨[], rfl, .nil⟩
  | cons b bs ih =>
    obtain ⟨a, ha, hrel⟩ := h b List.mem_cons_self
    obtain ⟨as, has, hrest⟩ := ih fun x hx => h x (List.mem_cons_of_mem _ hx)
    exact ⟨a :: as, Stamp.some_bind ha (Stamp.some_bind has rfl), .cons hrel hrest⟩

/-- **A written list is read back**, item by item; an absent list stays absent. -/
theorem read?_listed (bs : Option (List β))
    (h : ∀ b ∈ bs.getD [], ∃ a, elem? zero (f b).doc = some a ∧ R a b) : ∃ slots,
    Slots.read? elem? zero ⟨none, []⟩ (listed f bs).doc = some slots ∧
      List.Forall₂ R (slots.items.getD []) (bs.getD []) ∧ slots.items.isSome = bs.isSome := by
  match bs with
  | none => exact ⟨{}, rfl, .nil, rfl⟩
  | some [] => exact ⟨⟨some [], []⟩, rfl, .nil, rfl⟩
  | some (b :: bs) =>
    obtain ⟨as, hread, hrel⟩ := overItems?_listed h
    refine ⟨⟨some as, []⟩, ?_, hrel, rfl⟩
    show Slots.read? elem? zero ⟨none, []⟩ (.arr (docItems ((b :: bs).map f))) = _
    rw [docItems_map]
    refine Stamp.some_bind hread ?_
    simp [Slots.memory]

theorem fits_listed {room : Nat} (h : ∀ b, (f b).fits room = true) (bs : Option (List β)) :
    (listed f bs).fits (room + 1) = true := by
  cases bs with
  | none => rfl
  | some bs =>
    rw [listed, Value.fits]
    exact (fitsItems_map h bs).symm ▸ rfl

end Json

/-! ## lines -/

/-- **A written line is read back**, whatever stood in its place before. -/
theorem Line.ofDoc?_value (start : Line) {l : Line} (h : l.Cacheable) :
    ∃ l', Line.ofDoc? start l.value.doc = some l' ∧ l'.Alike l := by
  obtain ⟨price, hprice, hvalue⟩ := Json.decimal?_text h.price
  refine ⟨⟨l.productId, l.productName, l.quantity, price⟩, ?_, rfl, rfl, rfl, hvalue⟩
  simp [Line.ofDoc?, Line.value, Value.doc, Json.docMembers, Json.object?, Json.named_spelled,
    foldKey_names, Json.int?_repr _ h.productId, Json.int?_repr _ h.quantity, Json.text?_spelled,
    hprice]

/-- alike lines are written as one document -/
theorem Line.Alike.value_eq {l l' : Line} (h : l.Alike l') : l.value = l'.value := by
  unfold Line.value
  rw [h.productId, h.productName, h.quantity, Decimal.text_congr h.price]

/-! ## orders -/

def Order.value (o : Order) : Value :=
  .obj ([("id", .int o.id)] ++ optionalText "orderNumber" o.number ++
    [("status", .str o.status.name), ("total", .str o.total.text), ("items", Json.listed Line.value o.lines),
      ("createdAt", .str o.createdAt.text), ("updatedAt", .str o.updatedAt.text)])

theorem Stamp.json_of_regular {t : Stamp} (h : t.Regular) : t.json = .ok t.text :=
  Stamp.json_ok_iff.mpr ⟨⟨h.inCalendar, by rw [h.utc]; decide⟩, rfl⟩

section
variable {o : Order}

/-- **An order is written as its document.** -/
theorem Order.written_value (h : o.Cacheable) : o.written = .ok o.value := by
  unfold Order.written Order.value
  rw [Stamp.json_of_regular h.createdAt, Stamp.json_of_regular h.updatedAt]
  cases o.lines <;> rfl

/-- **Alike orders are written as one document**, if both have lines or neither has. -/
theorem Order.written_congr {o' : Order} (h : o.Alike o') (hsome : o.lines.isSome = o'.lines.isSome) :
    o.written = o'.written := by
  have hitems := h.items
  unfold Order.items at hitems
  unfold Order.written
  rw [h.id, h.number, h.status, Decimal.text_congr h.total, h.createdAt, h.updatedAt]
  cases hl : o.lines with
  | none =>
    have hl' : o'.lines = none := by simpa [hl] using hsome.symm
    rw [hl']
  | some ls =>
    obtain ⟨ls', hl'⟩ : ∃ ls', o'.lines = some ls' := Option.isSome_iff_exists.mp (by simp [← hsome, hl])
    rw [hl, hl'] at hitems
    have hvalues : ls.map Line.value = ls'.map Line.value :=
      Line.map_of_alike Line.Alike.value_eq hitems
    simp only [hl', hvalues]

theorem Line.fits (room : Nat) (l : Line) : l.value.fits (room + 1) = true := by
  simp [Line.value, Value.fits, Json.fitsMembers]

theorem Order.fits (o : Order) : o.value.fits Json.maxDepth = true := by
  have hlines : (Json.listed Line.value o.lines).fits 9999 = true :=
    Json.fits_listed (Line.fits 9997) o.lines
  unfold Order.value optionalText
  split <;> simp [Value.fits, Json.fitsMembers, Json.maxDepth, hlines]

/-- **A written order is read back**: equal in every field but for the spelling of its amounts. -/
theorem Order.ofDoc?_value (h : o.Cacheable) : ∃ o', Order.ofDoc? .blank o.value.doc = some o' ∧
    o'.Alike o ∧ o'.lines.isSome = o.lines.isSome := by
  obtain ⟨total, htotal, hvalue⟩ := Json.decimal?_text h.total
  obtain ⟨slots, hslots, halike, hsome⟩ :=
    Json.read?_listed o.lines fun l hl => Line.ofDoc?_value Line.blank (h.lines l hl)
  refine ⟨{ o with total, lines := slots.items }, ?_, ⟨rfl, rfl, rfl, hvalue, halike, rfl, rfl⟩,
    hsome⟩
  -- an empty number is not written, and stays empty
  by_cases hnumber : o.number = "" <;>
    simp [Order.ofDoc?, Order.readMember?, Order.value, optionalText, Value.doc, Json.docMembers,
      Json.object?, Json.named_spelled, foldKey_names, Json.int?_repr _ h.id, Json.text?_spelled,
      htotal, hslots, hnumber, Order.blank, Json.stamp?_text _ h.createdAt,
      Json.stamp?_text _ h.updatedAt]

end

end OrderDesk
