import OrderDesk.Json.Value
import Mathlib.Data.List.Forall2
import Mathlib.Data.String.Basic

/-!
# Places in a value

A place in a value is reached by items and members. Two values in which every object names a member
once are the same if they show the same at every place.

* `Value.by_parts`        induction on values;
* `Value.at?`             the value at a place;
* `Value.node`            what is seen of a value before one goes further;
* `Value.Tidy`            every object names a member once;
* `Value.eq_of_nodes`     a tidy value is known by what is seen at every place;
* `insertMember_names`, `insertMember_sorted`       one member more;
* `tidy_of_value?`        the meaning of a document is tidy.
-/

namespace OrderDesk.Json

/-- of members with names of their own, each is found under its name -/
theorem lookup_of_mem {α : Type} {ms : List (String × α)} {k : String} {a : α}
    (hn : (ms.map Prod.fst).Nodup) (h : (k, a) ∈ ms) : ms.lookup k = some a := by
  obtain ⟨before, after, rfl⟩ := List.append_of_mem h
  refine List.lookup_eq_some_iff.mpr ⟨before, after, rfl, fun m hm => bne_iff_ne.mpr ?_⟩
  rw [List.map_append, List.map_cons] at hn
  exact ((List.nodup_append.mp hn).2.2 _ (List.mem_map_of_mem hm) _ List.mem_cons_self).symm

/-! ## induction -/

/-- neither a list nor an object -/
def Value.isLeaf : Value → Bool
  | .arr _ | .obj _ => false
  | _ => true

/-- induction on values: of lists by their items, of objects by what their members hold -/
theorem Value.by_parts {P : Value → Prop} (leaf : ∀ v, v.isLeaf = true → P v)
    (arr : ∀ vs, (∀ v ∈ vs, P v) → P (.arr vs)) (obj : ∀ ms, (∀ m ∈ ms, P m.2) → P (.obj ms))
    (v : Value) : P v :=
  match v with
  | .arr vs => arr vs fun w _ => by_parts leaf arr obj w
  | .obj ms => obj ms fun m _ => by_parts leaf arr obj m.2
  | .null | .bool _ | .int _ | .num _ | .spelled _ | .str _ | .raw _ => leaf _ rfl
termination_by sizeOf v
decreasing_by
  · have := List.sizeOf_lt_of_mem ‹w ∈ vs›
    simp only [Value.arr.sizeOf_spec]
    omega
  · have hm := List.sizeOf_lt_of_mem ‹m ∈ ms›
    have hpair : sizeOf m = 1 + sizeOf m.1 + sizeOf m.2 := rfl
    simp only [Value.obj.sizeOf_spec]
    omega

/-- induction on documents -/
theorem Doc.by_parts {P : Doc → Prop} (null : P .null) (bool : ∀ b, P (.bool b))
    (num : ∀ s, P (.num s)) (str : ∀ s, P (.str s)) (arr : ∀ ds, (∀ d ∈ ds, P d) → P (.arr ds))
    (obj : ∀ ms, (∀ m ∈ ms, P m.2) → P (.obj ms)) (d : Doc) : P d :=
  match d with
  | .null => null
  | .bool b => bool b
  | .num s => num s
  | .str s => str s
  | .arr ds => arr ds fun e _ => by_parts null bool num str arr obj e
  | .obj ms => obj ms fun m _ => by_parts null bool num str arr obj m.2
termination_by sizeOf d
decreasing_by
  · have := List.sizeOf_lt_of_mem ‹e ∈ ds›
    simp only [Doc.arr.sizeOf_spec]
    omega
  · have hm := List.sizeOf_lt_of_mem ‹m ∈ ms›
    have hpair : sizeOf m = 1 + sizeOf m.1 + sizeOf m.2 := rfl
    simp only [Doc.obj.sizeOf_spec]
    omega

/-! ## places -/

/-- One step into a value. -/
inductive Step where
  | item (i : Nat)
  | member (name : String)

/-- What is seen of a value before one goes further: all of it, the number of its items, or the
names of its members. -/
inductive Node where
  | leaf (v : Value)
  | arr (length : Nat)
  | obj (names : List String)

namespace Value

def child? : Value → Step → Option Value
  | .arr vs, .item i => vs[i]?
  | .obj ms, .member name => ms.lookup name
  | _, _ => none

/-- the value at a place -/
def at? (v : Value) : List Step → Option Value
  | [] => some v
  | s :: p => (v.child? s).bind fun w => w.at? p

def node : Value → Node
  | .arr vs => .arr vs.length
  | .obj ms => .obj (ms.map Prod.fst)
  | v => .leaf v

/-- Every object names a member once. -/
inductive Tidy : Value → Prop
  | leaf {v : Value} (h : v.isLeaf = true) : Tidy v
  | arr {vs : List Value} (h : ∀ v ∈ vs, Tidy v) : Tidy (.arr vs)
  | obj {ms : List (String × Value)} (hn : (ms.map Prod.fst).Nodup) (h : ∀ m ∈ ms, Tidy m.2) :
    Tidy (.obj ms)

variable {v w : Value}

theorem at?_append (v : Value) (p q : List Step) :
    v.at? (p ++ q) = (v.at? p).bind fun w => w.at? q := by
  induction p generalizing v with
  | nil => rfl
  | cons s p ih => simp only [List.cons_append, at?, ih, Option.bind_assoc]

theorem node_of_leaf (h : v.isLeaf = true) : v.node = .leaf v := by
  cases v with
  | arr | obj => cases h
  | _ => rfl

theorem child?_of_leaf (h : v.isLeaf = true) (s : Step) : v.child? s = none := by
  cases v with
  | arr | obj => cases h
  | _ => rfl

theorem node_eq_leaf_iff {u : Value} : w.node = .leaf u ↔ w.isLeaf = true ∧ w = u := by
  cases w <;> simp [node, isLeaf]

/-- what is seen at the places below a part is seen at places of the whole -/
def SameNodes (v w : Value) : Prop := ∀ p, (v.at? p).map node = (w.at? p).map node

theorem SameNodes.child {s : Step} {a b : Value} (h : SameNodes v w) (ha : v.child? s = some a)
    (hb : w.child? s = some b) : SameNodes a b := by
  intro p
  have hp := h (s :: p)
  rwa [at?, at?, ha, hb] at hp

theorem SameNodes.node (h : SameNodes v w) : v.node = w.node := Option.some.inj (h [])

/-- **A tidy value is known by what is seen at every place.** -/
theorem eq_of_nodes (hv : v.Tidy) (hw : w.Tidy) (h : SameNodes v w) : v = w := by
  induction v using Value.by_parts generalizing w with
  | leaf v hleaf =>
    have hnode := h.node
    rw [node_of_leaf hleaf] at hnode
    exact (node_eq_leaf_iff.mp hnode.symm).2.symm
  | arr vs ih =>
    cases hw with
    | leaf hleaf =>
      have hnode := h.node
      rw [node_of_leaf hleaf] at hnode
      cases hnode
    | obj => cases h.node
    | @arr ws hws =>
      cases hv with
      | leaf hleaf => cases hleaf
      | arr hvs =>
        have hlength : vs.length = ws.length := Node.arr.inj h.node
        congr 1
        refine List.ext_getElem hlength fun i hi hi' => ?_
        have hchild : SameNodes vs[i] ws[i] :=
          h.child (s := .item i) (List.getElem?_eq_getElem hi) (List.getElem?_eq_getElem hi')
        exact ih _ (List.getElem_mem hi) (hvs _ (List.getElem_mem hi))
          (hws _ (List.getElem_mem hi')) hchild
  | obj ms ih =>
    cases hw with
    | leaf hleaf =>
      have hnode := h.node
      rw [node_of_leaf hleaf] at hnode
      cases hnode
    | arr => cases h.node
    | @obj ns hn' hns =>
      cases hv with
      | leaf hleaf => cases hleaf
      | obj hn hms =>
        have hnames : ms.map Prod.fst = ns.map Prod.fst := Node.obj.inj h.node
        have hlength : ms.length = ns.length := by
          rw [← List.length_map (f := Prod.fst), hnames, List.length_map]
        congr 1
        refine List.ext_getElem hlength fun i hi hi' => ?_
        have hname : ms[i].1 = ns[i].1 := by
          rw [← List.getElem_map Prod.fst (h := by simpa using hi), ← List.getElem_map Prod.fst
            (h := by simpa using hi')]
          simp only [hnames]
        have hchild : SameNodes ms[i].2 ns[i].2 := by
          refine h.child (s := .member ms[i].1) (lookup_of_mem hn (List.getElem_mem hi)) ?_
          rw [hname]
          exact lookup_of_mem hn' (List.getElem_mem hi')
        exact Prod.ext hname (ih _ (List.getElem_mem hi) (hms _ (List.getElem_mem hi))
          (hns _ (List.getElem_mem hi')) hchild)

end Value

/-! ## one member more -/

section
variable {k : String} {v : Value} {ms : List (String × Value)}

theorem mem_of_insertMember {m : String × Value} (h : m ∈ insertMember k v ms) :
    m = (k, v) ∨ m ∈ ms := by
  induction ms with
  | nil => exact .inl (List.mem_singleton.mp h)
  | cons m' ms ih =>
    obtain ⟨k', v'⟩ := m'
    unfold insertMember at h
    split at h
    · exact List.mem_cons.mp h
    split at h
    · exact (List.mem_cons.mp h).imp_right (List.mem_cons_of_mem _)
    · rcases List.mem_cons.mp h with h | h
      · exact .inr (h ▸ List.mem_cons_self)
      · exact (ih h).imp_right (List.mem_cons_of_mem _)

/-- the names of the members rise -/
def Rising (ms : List (String × Value)) : Prop := (ms.map Prod.fst).Pairwise (· < ·)

theorem insertMember_rising (h : Rising ms) : Rising (insertMember k v ms) := by
  unfold Rising at *
  induction ms with
  | nil => exact List.pairwise_singleton _ _
  | cons m ms ih =>
    obtain ⟨k', v'⟩ := m
    rw [List.map_cons, List.pairwise_cons] at h
    obtain ⟨hleast, hrest⟩ := h
    unfold insertMember
    split
    case isTrue hlt =>
      rw [List.map_cons, List.pairwise_cons]
      refine ⟨fun name hname => ?_, List.pairwise_cons.mpr ⟨hleast, hrest⟩⟩
      rcases List.mem_cons.mp hname with rfl | hname
      · exact hlt
      · exact hlt.trans (hleast name hname)
    case isFalse hle =>
      split
      case isTrue heq => exact List.pairwise_cons.mpr ⟨heq ▸ hleast, hrest⟩
      case isFalse hne =>
        refine List.pairwise_cons.mpr ⟨fun name hname => ?_, ih hrest⟩
        obtain ⟨m, hm, rfl⟩ := List.mem_map.mp hname
        rcases mem_of_insertMember hm with rfl | hm
        · exact lt_of_le_of_ne (not_lt.mp hle) (Ne.symm hne)
        · exact hleast _ (List.mem_map_of_mem hm)

theorem Rising.nodup (h : Rising ms) : (ms.map Prod.fst).Nodup := h.imp fun hlt => hlt.ne

/-- a change of what members hold, by their names, goes through -/
theorem insertMember_map (f : String → Value → Value) :
    (insertMember k v ms).map (fun m => (m.1, f m.1 m.2))
      = insertMember k (f k v) (ms.map fun m => (m.1, f m.1 m.2)) := by
  induction ms with
  | nil => rfl
  | cons m ms ih =>
    obtain ⟨k', v'⟩ := m
    simp only [insertMember, List.map_cons]
    split
    · rfl
    split
    · rfl
    · rw [List.map_cons, ih]

end

/-! ## the meaning of a document -/

theorem valuesOf?_eq_some_iff {ds : List Doc} {vs : List Value} :
    valuesOf? ds = some vs ↔ List.Forall₂ (fun d v => d.value? = some v) ds vs := by
  induction ds generalizing vs with
  | nil => simp [valuesOf?, eq_comm]
  | cons d ds ih =>
    rw [valuesOf?]
    cases hd : d.value? with
    | none => simp [List.forall₂_cons_left_iff, hd]
    | some v =>
      cases hds : valuesOf? ds with
      | none =>
        simp only [reduceCtorEq, false_iff, List.forall₂_cons_left_iff, not_exists]
        rintro v' vs' ⟨-, hvs, -⟩
        rw [ih.mpr hvs] at hds
        cases hds
      | some vs' =>
        simp only [Option.some.injEq, List.forall₂_cons_left_iff, hd, ← ih, hds]
        exact ⟨fun h => ⟨v, vs', rfl, rfl, h.symm⟩, fun ⟨_, _, h₁, h₂, h⟩ => by rw [h, h₁, h₂]⟩

theorem rising_of_membersOf? {acc out : List (String × Value)} {ms : List (List Char × Doc)}
    (h : membersOf? acc ms = some out) (hacc : Rising acc) : Rising out := by
  induction ms generalizing acc with
  | nil =>
    obtain rfl := Option.some.inj h
    exact hacc
  | cons m ms ih =>
    obtain ⟨k, d⟩ := m
    rw [membersOf?] at h
    split at h
    · exact ih h (insertMember_rising hacc)
    · cases h

theorem held_of_membersOf? {P : Value → Prop} {acc out : List (String × Value)}
    {ms : List (List Char × Doc)} (h : membersOf? acc ms = some out) (hacc : ∀ m ∈ acc, P m.2)
    (hms : ∀ m ∈ ms, ∀ v, m.2.value? = some v → P v) : ∀ m ∈ out, P m.2 := by
  induction ms generalizing acc with
  | nil =>
    obtain rfl := Option.some.inj h
    exact hacc
  | cons m ms ih =>
    obtain ⟨k, d⟩ := m
    rw [membersOf?] at h
    split at h
    · next v hv =>
      refine ih h (fun m hm => ?_) fun m hm => hms m (List.mem_cons_of_mem _ hm)
      rcases mem_of_insertMember hm with rfl | hm
      · exact hms _ List.mem_cons_self v hv
      · exact hacc m hm
    · cases h

/-- **The meaning of a document is tidy**: of several members of one name one is left. -/
theorem tidy_of_value? {d : Doc} {v : Value} (h : d.value? = some v) : v.Tidy := by
  induction d using Doc.by_parts generalizing v with
  | null | bool b | str s => exact Option.some.inj h ▸ .leaf rfl
  | num s =>
    obtain ⟨x, -, rfl⟩ := Option.map_eq_some_iff.mp h
    exact .leaf rfl
  | arr ds ih =>
    obtain ⟨vs, hvs, rfl⟩ := Option.map_eq_some_iff.mp h
    refine .arr fun v hv => ?_
    obtain ⟨i, rfl⟩ := List.mem_iff_get.mp hv
    obtain ⟨hlength, hall⟩ := List.forall₂_iff_get.mp (valuesOf?_eq_some_iff.mp hvs)
    exact ih _ (List.get_mem _ _) (hall i (by omega) i.2)
  | obj ms ih =>
    obtain ⟨out, hout, rfl⟩ := Option.map_eq_some_iff.mp h
    exact .obj (rising_of_membersOf? hout List.Pairwise.nil).nodup
      (held_of_membersOf? hout (fun _ hm => nomatch hm) fun m hm v => ih m hm)

end OrderDesk.Json
