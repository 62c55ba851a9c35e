import OrderDesk.Proofs.Json.Documents
import OrderDesk.Proofs.Json.Places
import OrderDesk.Proofs.Number.Binary64

/-!
# What a written value means

A value is written as a document, and the document has a meaning of its own: numbers become binary
numbers and members are sorted by name. Texts keep their meaning, and so do objects whose members
were written in the order of their names.

* `value?_doc_int`       a whole number means its binary number;
* `value?_doc_texts`     a list of texts means itself;
* `value?_doc_obj`       an object with rising names means the object of its members' meanings.
-/

namespace OrderDesk.Json

theorem value?_doc_str (s : String) : (Value.str s).doc.value? = some (.str s) := by
  rw [Value.doc, Doc.value?, unescape_spelled]

theorem value?_doc_int {n : Int} (h : n.natAbs < 2 ^ 53) :
    ∃ x, (Value.int n).doc.value? = some (.num x) ∧ x.Counts n := by
  obtain ⟨x, hx, hcounts⟩ := Binary64.parseJson?_toString h
  refine ⟨x, ?_, hcounts⟩
  rw [Value.doc, Doc.value?, hx]
  rfl

theorem value?_doc_texts (ss : List String) :
    (Value.arr (ss.map .str)).doc.value? = some (.arr (ss.map .str)) := by
  have hitems : valuesOf? (docItems (ss.map .str)) = some (ss.map .str) := by
    rw [docItems_map, valuesOf?_eq_some_iff, List.forall₂_map_left_iff, List.forall₂_map_right_iff]
    exact List.forall₂_same.mpr fun s _ => value?_doc_str s
  rw [Value.doc, Doc.value?, hitems]
  rfl

/-! ## objects -/

/-- a member whose name is past all others goes to the end -/
theorem insertMember_last {k : String} {v : Value} {ms : List (String × Value)}
    (h : ∀ m ∈ ms, m.1 < k) : insertMember k v ms = ms ++ [(k, v)] := by
  induction ms with
  | nil => rfl
  | cons m ms ih =>
    obtain ⟨k', v'⟩ := m
    have hlt : k' < k := h _ List.mem_cons_self
    rw [insertMember, if_neg hlt.asymm, if_neg hlt.ne', ih fun m hm => h m (List.mem_cons_of_mem _ hm)]
    rfl

/-- The member means another of the same name. -/
def Means (m n : String × Value) : Prop := n.1 = m.1 ∧ m.2.doc.value? = some n.2

theorem membersOf?_docMembers {acc ms ns : List (String × Value)} (hms : List.Forall₂ Means ms ns)
    (hrising : Rising (acc ++ ms)) : membersOf? acc (docMembers ms) = some (acc ++ ns) := by
  -- names rise, so that each member is put behind those that are there
  induction hms generalizing acc with
  | nil => rw [docMembers, membersOf?, List.append_nil]
  | @cons m n ms ns hmeans _ ih =>
    obtain ⟨k, v⟩ := m
    obtain ⟨k', w⟩ := n
    obtain ⟨rfl, hw⟩ : k' = k ∧ v.doc.value? = some w := hmeans
    have hlast : ∀ m ∈ acc, m.1 < k' := fun m hm => by
      unfold Rising at hrising
      rw [List.map_append, List.pairwise_append] at hrising
      exact hrising.2.2 m.1 (List.mem_map_of_mem hm) k' List.mem_cons_self
    have hkept : Rising ((acc ++ [(k', w)]) ++ ms) := by
      unfold Rising at hrising ⊢
      simpa using hrising
    rw [docMembers, membersOf?, hw]
    dsimp only
    rw [unescape_spelled, insertMember_last hlast, ih hkept, List.append_assoc]
    rfl

/-- **An object whose names rise means the object of the meanings of its members.** -/
theorem value?_doc_obj {ms ns : List (String × Value)} (hms : List.Forall₂ Means ms ns)
    (hrising : Rising ms) : (Value.obj ms).doc.value? = some (.obj ns) := by
  have hmembers : membersOf? [] (docMembers ms) = some ns := membersOf?_docMembers hms hrising
  rw [Value.doc, Doc.value?, hmembers]
  rfl

end OrderDesk.Json
