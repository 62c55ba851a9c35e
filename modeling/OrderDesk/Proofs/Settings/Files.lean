import OrderDesk.Proofs.Settings.Trees
import OrderDesk.Settings.Yaml.Value

/-!
# The tree of a settings file has no name twice

A map of a file may name a key twice in effect, by itself and by what it takes over, or by an alias.
Every child is put in the place of one of the same name, so the tree that is built names each child
once.

* `Gives`                    what a step of building makes, if it makes anything;
* `Node.children_keeps`      what putting a child keeps, building a map keeps;
* `Node.tree_distinct`       a map that is built has no name twice;
* `parse?_orderly`           nor has the map of a file, or a section in it.
-/

set_option linter.unusedSectionVars false

namespace OrderDesk.Settings.Yaml

/-! ## steps of building -/

/-- Makes something of the kind `P`, or refuses the file. -/
def Gives {α : Type} (P : α → Prop) (x : Build α) : Prop := ∀ e a e', x e = some (a, e') → P a

section
variable {α β : Type} {P : α → Prop} {Q : β → Prop}

theorem Gives.pure {a : α} (h : P a) : Gives P (pure a : Build α) := by
  intro e b e' hb
  obtain ⟨rfl, -⟩ := Prod.mk.inj (Option.some.inj hb)
  exact h

theorem Gives.failure : Gives P (Alternative.failure : Build α) := by
  intro e a e' h
  cases h

theorem Gives.bind {x : Build α} {f : α → Build β} (hx : Gives P x) (hf : ∀ a, P a → Gives Q (f a)) :
    Gives Q (x >>= f) := by
  intro e b e' h
  obtain ⟨⟨a, e₁⟩, ha, hb⟩ := Option.bind_eq_some_iff.mp h
  exact hf a (hx e a e₁ ha) e₁ b e' hb

theorem Gives.imp {P' : α → Prop} {x : Build α} (hx : Gives P x) (h : ∀ a, P a → P' a) :
    Gives P' x := fun e a e' he => h a (hx e a e' he)

/-- whatever a step makes, if nothing has to be known of it -/
theorem Gives.any (x : Build α) : Gives (fun _ => True) x := fun _ _ _ _ => trivial

theorem Gives.after {x : Build α} {f : α → Build β} (hf : ∀ a, Gives Q (f a)) : Gives Q (x >>= f) :=
  (Gives.any x).bind fun a _ => hf a

end

/-! ## scalars -/

/-- A tree that is no map. -/
def NoMap (t : Tree) : Prop := ∀ us, t ≠ .map us

theorem word?_noMap {s kind : String} {t : Tree} (h : word? s = some (kind, t)) : NoMap t := by
  unfold word? at h
  repeat' split at h
  all_goals
    cases h
    try nofun

theorem number?_noMap {cs : List Char} {kind : String} {t : Tree}
    (h : number? cs = some (kind, t)) : NoMap t := by
  unfold number? at h
  dsimp only at h
  split at h
  · cases h
    nofun
  · split at h
    · cases h
      nofun
    · obtain ⟨v, -, hv⟩ := Option.map_eq_some_iff.mp h
      cases hv
      nofun

theorem spelled_noMap (moments : Bool) (s : String) : NoMap (spelled moments s).2 := by
  have hgetD : ∀ o : Option (String × Tree), (∀ r, o = some r → NoMap r.2) →
      NoMap (o.getD (Tag.text, .text s)).2 := by
    intro o ho
    cases o with
    | none => nofun
    | some r => exact ho r rfl
  unfold spelled
  split
  · next r hr => exact word?_noMap hr
  · refine hgetD _ fun r hr => ?_
    split at hr
    · cases hr
    · split at hr
      · obtain ⟨x, -, rfl⟩ := Option.map_eq_some_iff.mp hr
        nofun
      · split at hr
        · split at hr
          · cases hr
            nofun
          · exact number?_noMap hr
        · cases hr

theorem resolve?_noMap {tag s kind : String} {t : Tree} (h : resolve? tag s = some (kind, t)) :
    NoMap t := by
  unfold resolve? at h
  dsimp only at h
  split at h
  · cases h
    nofun
  · split at h
    · cases h
      nofun
    · split at h
      · rw [← (Prod.mk.inj (Option.some.inj h)).2]
        exact spelled_noMap _ s
      · split at h
        · split at h
          · obtain ⟨x, -, hx⟩ := Option.map_eq_some_iff.mp h
            cases hx
            nofun
          · cases h
        · cases h

theorem scalarTree_noMap (tag text : String) : Gives NoMap (scalarTree tag text) := by
  unfold scalarTree
  split
  · exact .pure nofun
  · cases hr : resolve? tag text with
    | none => exact .failure
    | some r =>
      obtain ⟨kind, t⟩ := r
      dsimp only
      split
      · split
        · exact .pure nofun
        · exact .failure
      · exact .pure (resolve?_noMap hr)

namespace Node

/-! ## maps -/

section
variable {P : List (String × Tree) → Prop} {Q : Tree → Prop}
  (hput : ∀ name t out, Q t → P out → P (putChild name t out))
  (htree : ∀ aliased n, Gives Q (tree aliased n))
include hput htree

mutual

/-- **What putting a child keeps**, adding the children of a map keeps. -/
theorem children_keeps (texts aliased : Bool) (taken : Option (List String))
    (out : List (String × Tree)) (members : List (Node × Node)) (h : P out) :
    Gives (fun r => P r.2) (children texts aliased taken out members) := by
  rw [children]
  split
  · exact Gives.failure.bind fun _ hno => False.elim hno
  · refine Gives.bind (ownChildren_keeps texts aliased taken out members h) fun r hr => ?_
    obtain ⟨taken, out⟩ := r
    dsimp only
    split
    · have hover : ∀ settled, Gives (fun r => P r.2) (do
          let (settled, out) ← takenOver texts aliased settled out members
          pure (taken.map fun _ => settled, out)) := fun settled =>
        (takenOver_keeps texts aliased settled out members hr).bind fun _ hr' => .pure hr'
      cases taken with
      | none => exact .after fun settled => hover settled
      | some settled => exact hover settled
    · exact .pure hr
termination_by (sizeOf members, 1)

theorem ownChildren_keeps (texts aliased : Bool) (taken : Option (List String))
    (out : List (String × Tree)) (members : List (Node × Node)) (h : P out) :
    Gives (fun r => P r.2) (ownChildren texts aliased taken out members) := by
  match members with
  | [] =>
    rw [ownChildren]
    exact .pure h
  | (k, v) :: rest =>
    rw [ownChildren]
    split
    · exact ownChildren_keeps texts aliased taken out rest h
    · refine .after fun name => ?_
      split
      · exact ownChildren_keeps texts aliased taken out rest h
      · next name =>
        split
        · exact ownChildren_keeps texts aliased taken out rest h
        · refine (htree aliased v).bind fun t ht => ?_
          exact ownChildren_keeps texts aliased _ _ rest (hput name t out ht h)
termination_by (sizeOf members, 0)

theorem takenOver_keeps (texts aliased : Bool) (settled : List String)
    (out : List (String × Tree)) (members : List (Node × Node)) (h : P out) :
    Gives (fun r => P r.2) (takenOver texts aliased settled out members) := by
  match members with
  | [] =>
    rw [takenOver]
    exact .pure h
  | (k, v) :: rest =>
    unfold takenOver
    split
    · match v with
      | .list items => exact sources_keeps texts aliased settled out items h
      | .scalar tag text => exact source_keeps texts aliased settled out (.scalar tag text) h
      | .map ms => exact source_keeps texts aliased settled out (.map ms) h
      | .alias name target => exact source_keeps texts aliased settled out (.alias name target) h
    · exact takenOver_keeps texts aliased settled out rest h
termination_by (sizeOf members, 0)

theorem source_keeps (texts aliased : Bool) (settled : List String)
    (out : List (String × Tree)) (n : Node) (h : P out) :
    Gives (fun r => P r.2) (source texts aliased settled out n) := by
  rw [source.eq_def]
  split
  · refine .after fun _ => ?_
    exact (children_keeps texts aliased (some settled) out _ h).bind fun r hr => .pure hr
  · refine .after fun _ => .after fun _ => ?_
    exact (children_keeps texts true (some settled) out _ h).bind fun r hr => .pure hr
  · exact .failure
termination_by (sizeOf n, 0)

theorem sources_keeps (texts aliased : Bool) (settled : List String)
    (out : List (String × Tree)) (ns : List Node) (h : P out) :
    Gives (fun r => P r.2) (sources texts aliased settled out ns) := by
  match ns with
  | [] =>
    rw [sources]
    exact .pure h
  | n :: rest =>
    rw [sources]
    refine (source_keeps texts aliased settled out n h).bind fun r hr => ?_
    exact sources_keeps texts aliased r.1 r.2 rest hr
termination_by (sizeOf ns, 0)

end

end

/-! ## trees -/

/-- a map that is built has no name twice -/
theorem tree_distinct (aliased : Bool) (n : Node) :
    Gives (fun t => ∀ us, t = .map us → Distinct us) (tree aliased n) := by
  match n with
  | .scalar tag text =>
    rw [tree]
    exact .after fun _ => (scalarTree_noMap tag text).imp fun t ht us hus => absurd hus (ht us)
  | .list items =>
    rw [tree]
    exact .after fun _ => .after fun ts => .pure fun us hus => Tree.noConfusion hus
  | .map members =>
    rw [tree]
    refine .after fun _ => ?_
    have hchildren := children_keeps (P := Distinct) (Q := fun _ => True)
      (fun _ _ _ _ h => h.putChild) (fun _ _ => .any _) (textKeys members) aliased none [] members
      List.nodup_nil
    refine hchildren.bind fun r hr => .pure ?_
    intro us hus
    rw [← Tree.map.inj hus]
    exact hr
  | .alias name (some target) =>
    rw [tree]
    exact .after fun _ => tree_distinct true target
  | .alias name none =>
    rw [tree]
    exact .failure
termination_by sizeOf n

/-- **The map of a file** has no name twice, nor has a section in it. -/
theorem rootChildren_orderly (n : Node) : Gives Orderly (rootChildren n) := by
  refine .after fun _ => ?_
  match n with
  | .map members =>
    refine .after fun _ => ?_
    have hput : ∀ name t out, (∀ us, t = .map us → Distinct us) → Orderly out →
        Orderly (putChild name t out) := by
      intro name t out ht hout
      refine ⟨hout.sections.putChild, fun c hc us hus => ?_⟩
      rcases mem_putChild hc with rfl | hc
      · exact ht us hus
      · exact hout.keys c hc us hus
    exact (children_keeps hput tree_distinct true false none [] members .nil).bind fun r hr => .pure hr
  | .scalar tag text =>
    refine .after fun t => ?_
    split
    · exact .pure .nil
    · exact .failure
  | .list items => exact .failure
  | .alias name target => exact .failure

end Node

theorem parse?_orderly {file : String} {ms : List (String × Tree)} (h : parse? file = some ms) :
    Orderly ms := by
  obtain ⟨document, -, h⟩ := Option.bind_eq_some_iff.mp h
  cases document with
  | none =>
    rw [← Option.some.inj h]
    exact .nil
  | some n =>
    obtain ⟨⟨ms', e⟩, hrun, rfl⟩ := Option.map_eq_some_iff.mp h
    exact Node.rootChildren_orderly n {} ms' e hrun

end OrderDesk.Settings.Yaml
