import OrderDesk.Proofs.Number.Word
import OrderDesk.Proofs.Store.Uniform

/-!
# Placeholders

A statement is written with a question mark for each value; some engines want the marks numbered.
Numbering a text is safe while the text itself has no dollar sign and no digit right after a mark.

* `weave`               pieces of text with marks between them;
* `exists_weave`        every text is pieces with question marks between them;
* `numberFrom_weave`    numbering such a text keeps the pieces and numbers the marks;
* `tidy`                a text in which a number after a dollar sign is that of a mark;
* `numbersIn_numberFrom`      the numbers in a tidy text that was numbered;
* `template_marked`     every statement is tidy and has a mark for each value;
* `template_mysql`, `template_postgres`     how the texts of the engines differ.
-/

namespace OrderDesk.Store

open Dialect (numberFrom)

/-! ## pieces and marks -/

/-- Pieces of text with marks between them; the marks are counted from `i` on. -/
def weave (mark : Nat → List Char) : Nat → List Char → List (List Char) → List Char
  | _, p, [] => p
  | i, p, p' :: ps => p ++ mark i ++ weave mark (i + 1) p' ps

def questionMark (_ : Nat) : List Char := ['?']

def dollarMark (i : Nat) : List Char := '$' :: Nat.toDigits 10 i

theorem weave_cons (mark : Nat → List Char) (i : Nat) (c : Char) (p : List Char)
    (ps : List (List Char)) : weave mark i (c :: p) ps = c :: weave mark i p ps := by
  cases ps <;> rfl

theorem exists_weave (i : Nat) (cs : List Char) : ∃ p ps, cs = weave questionMark i p ps ∧
    ps.length = cs.count '?' ∧ ∀ x ∈ p :: ps, '?' ∉ x := by
  induction cs generalizing i with
  | nil => exact ⟨[], [], rfl, rfl, by simp⟩
  | cons c cs ih =>
    by_cases hc : c = '?'
    · obtain ⟨p, ps, hcs, hlen, hfree⟩ := ih (i + 1)
      refine ⟨[], p :: ps, ?_, ?_, ?_⟩
      · rw [hc, hcs]
        rfl
      · rw [hc, List.count_cons_self, List.length_cons, hlen]
      · intro x hx
        rcases List.mem_cons.mp hx with rfl | hx
        · exact List.not_mem_nil
        · exact hfree x hx
    · obtain ⟨p, ps, hcs, hlen, hfree⟩ := ih i
      refine ⟨c :: p, ps, ?_, ?_, ?_⟩
      · rw [weave_cons, ← hcs]
      · rw [hlen, List.count_cons_of_ne hc]
      · intro x hx
        rcases List.mem_cons.mp hx with rfl | hx
        · have hp := hfree p List.mem_cons_self
          simp [hp, Ne.symm hc]
        · exact hfree x (List.mem_cons_of_mem _ hx)

theorem numberFrom_append {n : Nat} {p cs : List Char} (hp : '?' ∉ p) :
    numberFrom n (p ++ cs) = p ++ numberFrom n cs := by
  induction p with
  | nil => rfl
  | cons c p ih =>
    simp only [List.mem_cons, not_or] at hp
    show (if c = '?' then _ else c :: numberFrom n (p ++ cs)) = _
    rw [if_neg (Ne.symm hp.1), ih hp.2]
    rfl

theorem numberFrom_weave {n : Nat} {p : List Char} {ps : List (List Char)} {rest : List Char}
    (hfree : ∀ x ∈ p :: ps, '?' ∉ x) (hrest : '?' ∉ rest) :
    numberFrom n (weave questionMark (n + 1) p ps ++ rest)
      = weave dollarMark (n + 1) p ps ++ rest := by
  induction ps generalizing n p with
  | nil =>
    show numberFrom n (p ++ rest) = p ++ rest
    have hall : '?' ∉ p ++ rest := by
      simp [hfree p List.mem_cons_self, hrest]
    have hnone : numberFrom n (p ++ rest ++ []) = p ++ rest ++ [] := numberFrom_append hall
    rwa [List.append_nil] at hnone
  | cons p' ps ih =>
    have hp : '?' ∉ p := hfree p List.mem_cons_self
    have hps : ∀ x ∈ p' :: ps, '?' ∉ x := fun x hx => hfree x (List.mem_cons_of_mem _ hx)
    calc numberFrom n (p ++ questionMark (n + 1) ++ weave questionMark (n + 1 + 1) p' ps ++ rest)
        = p ++ numberFrom n ('?' :: (weave questionMark (n + 1 + 1) p' ps ++ rest)) := by
          rw [← numberFrom_append hp]
          simp [questionMark]
      _ = p ++ (dollarMark (n + 1) ++ numberFrom (n + 1)
            (weave questionMark (n + 1 + 1) p' ps ++ rest)) := by
          simp [numberFrom, dollarMark]
      _ = p ++ dollarMark (n + 1) ++ weave dollarMark (n + 1 + 1) p' ps ++ rest := by
          rw [ih hps]
          simp [List.append_assoc]

/-! ## the numbers in a text -/

/-- the numbers after the dollar signs of a text, in text order -/
def numbersIn : List Char → List Nat
  | [] => []
  | c :: cs =>
    if c = '$' then Nat.ofDigitChars 10 (cs.takeWhile Char.isDigit) 0 :: numbersIn cs
    else numbersIn cs

/-- a text without dollar signs in which no digit follows a question mark -/
def tidy : List Char → Bool
  | [] => true
  | c :: cs => c != '$' && !(c == '?' && cs.head?.any Char.isDigit) && tidy cs

theorem tidy_cons_iff {c : Char} {cs : List Char} : tidy (c :: cs) = true ↔
    c ≠ '$' ∧ (c = '?' → cs.head?.any Char.isDigit = false) ∧ tidy cs = true := by
  simp [tidy, and_assoc, imp_iff_not_or]

theorem tidy_append {cs ds : List Char} (hcs : tidy cs = true) (hds : tidy ds = true)
    (hd : ds.head?.any Char.isDigit = false) : tidy (cs ++ ds) = true := by
  induction cs with
  | nil => exact hds
  | cons c cs ih =>
    obtain ⟨hdollar, hmark, hrest⟩ := tidy_cons_iff.mp hcs
    refine tidy_cons_iff.mpr ⟨hdollar, fun hc => ?_, ih hrest⟩
    cases cs with
    | nil => exact hd
    | cons c' cs => exact hmark hc

theorem numbersIn_append {ds cs : List Char} (h : '$' ∉ ds) :
    numbersIn (ds ++ cs) = numbersIn cs := by
  induction ds with
  | nil => rfl
  | cons d ds ih =>
    simp only [List.mem_cons, not_or] at h
    show (if d = '$' then _ else numbersIn (ds ++ cs)) = _
    rw [if_neg (Ne.symm h.1), ih h.2]

theorem takeWhile_toDigits (n : Nat) {cs : List Char} (h : cs.head?.any Char.isDigit = false) :
    (Nat.toDigits 10 n ++ cs).takeWhile Char.isDigit = Nat.toDigits 10 n := by
  rw [List.takeWhile_append_of_pos fun c hc => Word.digits_isDigit n c hc]
  cases cs with
  | nil => exact List.append_nil _
  | cons c cs =>
    have hc : c.isDigit = false := h
    rw [List.takeWhile_cons_of_neg (by simp [hc]), List.append_nil]

theorem head_numberFrom (n : Nat) {cs : List Char} (h : cs.head?.any Char.isDigit = false) :
    (numberFrom n cs).head?.any Char.isDigit = false := by
  cases cs with
  | nil => rfl
  | cons c cs =>
    show (if c = '?' then _ else c :: numberFrom n cs).head?.any Char.isDigit = false
    split
    · rfl
    · exact h

/-- **The marks of a tidy text are numbered without gap or repetition.** -/
theorem numbersIn_numberFrom (n : Nat) {cs : List Char} (h : tidy cs = true) :
    numbersIn (numberFrom n cs) = List.range' (n + 1) (cs.count '?') := by
  induction cs generalizing n with
  | nil => rfl
  | cons c cs ih =>
    obtain ⟨hdollar, hmark, hrest⟩ := tidy_cons_iff.mp h
    by_cases hc : c = '?'
    · have hdigits : '$' ∉ Nat.toDigits 10 (n + 1) := fun hmem =>
        absurd (Word.digits_isDigit _ _ hmem) (by decide)
      have hnumber : numberFrom n (c :: cs)
          = '$' :: (Nat.toDigits 10 (n + 1) ++ numberFrom (n + 1) cs) := by
        rw [numberFrom, if_pos hc]
        rfl
      rw [hnumber, numbersIn, if_pos rfl, takeWhile_toDigits _ (head_numberFrom _ (hmark hc)),
        Nat.ofDigitChars_ten_toDigits, numbersIn_append hdigits, ih _ hrest, hc,
        List.count_cons_self, List.range'_succ]
    · have hnumber : numberFrom n (c :: cs) = c :: numberFrom n cs := by
        rw [numberFrom, if_neg hc]
      rw [hnumber, numbersIn, if_neg hdollar, ih _ hrest, List.count_cons_of_ne hc]

/-! ## the statements -/

theorem toList_placeholders (n : Nat) :
    (placeholders n).toList = [','].intercalate (List.replicate n ['?']) := by
  simp [placeholders, String.toList_intercalate]

/-- The list of the values that are looked for: as many marks as values, with commas between. -/
theorem placeholders_tidy (n : Nat) :
    tidy (placeholders n).toList = true ∧ (placeholders n).toList.count '?' = n := by
  rw [toList_placeholders]
  induction n with
  | zero => exact ⟨rfl, rfl⟩
  | succ n ih =>
    cases n with
    | zero => exact ⟨by decide, by decide⟩
    | succ n =>
      have hnext : [','].intercalate (List.replicate (n + 1 + 1) ['?'])
          = '?' :: ',' :: [','].intercalate (List.replicate (n + 1) ['?']) := rfl
      rw [hnext]
      refine ⟨tidy_cons_iff.mpr ⟨by decide, fun _ => rfl, tidy_cons_iff.mpr ⟨by decide, ?_, ih.1⟩⟩,
        ?_⟩
      · intro h
        cases h
      · rw [List.count_cons_self, List.count_cons_of_ne (by decide), ih.2]

/-- a tidy text with a mark for each of `n` values -/
def marked (text : String) (n : Nat) : Bool := tidy text.toList && text.toList.count '?' == n

theorem marked_iff {text : String} {n : Nat} :
    marked text n = true ↔ tidy text.toList = true ∧ text.toList.count '?' = n := by
  simp [marked]

theorem marked_append {s t : String} {m n : Nat} (hs : marked s m = true) (ht : marked t n = true)
    (hhead : t.toList.head?.any Char.isDigit = false) : marked (s ++ t) (m + n) = true := by
  obtain ⟨htidy, hcount⟩ := marked_iff.mp hs
  obtain ⟨htidy', hcount'⟩ := marked_iff.mp ht
  rw [marked_iff, String.toList_append, List.count_append, hcount, hcount']
  exact ⟨tidy_append htidy htidy' hhead, rfl⟩

/-- The one text that grows with its values. -/
theorem selectItems_marked (ids : List Int) :
    marked ((Statement.selectItems ids).template (.of .mysql)) ids.length = true := by
  have hlist : marked (placeholders ids.length) ids.length = true :=
    marked_iff.mpr (placeholders_tidy ids.length)
  have hhead : (placeholders ids.length).toList.head?.any Char.isDigit = false := by
    rw [toList_placeholders]
    rcases ids.length with _ | _ | n <;> rfl
  have hopen : marked ("SELECT order_id, product_id, product_name, quantity, unit_price " ++
      "FROM order_items " ++ "WHERE order_id IN (") 0 = true := by
    simp only [marked, String.toList_append]
    repeat rw [String.toList_ofList]
    decide +kernel
  have hclose : marked ") ORDER BY order_id, line_no" 0 = true := by
    unfold marked
    rw [String.toList_ofList]
    decide +kernel
  have htext := marked_append (marked_append hopen hlist hhead) hclose
    (by rw [String.toList_ofList]; rfl)
  rw [Nat.zero_add, Nat.add_zero] at htext
  exact htext

/-- **Every statement is tidy and has a mark for each of its values.** -/
theorem template_marked {q : Statement} (hq : q.onTables = true) :
    marked (q.template (.of .mysql)) q.args.length = true := by
  cases q
  case createVersions | readVersion | schema | recordVersion => cases hq
  case selectItems ids =>
    rw [Statement.args, List.length_map]
    exact selectItems_marked ids
  case' countProducts p | listProducts p _ _ | countOrders p | listOrders p _ _ => cases p
  case' selectProduct id lock | selectOrder id lock => cases lock
  -- what is left are fixed texts, checked character by character
  all_goals
    delta Statement.template
    dsimp only
    simp only [marked, String.toList_append, Statement.productColumns, Statement.orderColumns,
      Statement.categoryColumns, Statement.whereName, Statement.whereStatus, Statement.locking,
      Statement.returning, Statement.args, Statement.condition, List.length_append,
      List.length_cons, List.length_nil]
    repeat rw [String.toList_ofList]
    decide +kernel

/-! ## what the engines add -/

/-- what is added for the engines that keep rows -/
def Statement.lockSuffix : Statement → String
  | selectProduct _ true | selectOrder _ true => " FOR UPDATE"
  | _ => ""

/-- what is added for the engines that give a new id as a row -/
def Statement.idSuffix (q : Statement) : String := if q.makesId then " RETURNING id" else ""

theorem template_mysql {q : Statement} (hq : q.onTables = true) :
    q.template (.of .mysql) = q.template (.of .sqlite) ++ q.lockSuffix := by
  have hend : ∀ s t : String, s ++ t = s ++ "" ++ t := fun s t => by rw [String.append_empty]
  cases q with
  | createVersions | readVersion | schema | recordVersion => cases hq
  | selectProduct id lock | selectOrder id lock => 
    cases lock
    · exact (String.append_empty (s := _ ++ "")).symm
    · exact hend _ _
  | _ => exact String.append_empty.symm

theorem template_postgres {q : Statement} (hq : q.onTables = true) :
    q.template (.of .postgres) = q.template (.of .mysql) ++ q.idSuffix := by
  have hend : ∀ s t : String, s ++ t = s ++ "" ++ t := fun s t => by rw [String.append_empty]
  cases q with
  | createVersions | readVersion | schema | recordVersion => cases hq
  | insertProduct | insertOrder | insertCategory => exact hend _ _
  | _ => exact String.append_empty.symm

end OrderDesk.Store
