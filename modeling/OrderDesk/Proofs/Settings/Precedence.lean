import Mathlib
import OrderDesk.Proofs.Settings.Files
import OrderDesk.Proofs.Settings.Leaves
import OrderDesk.Proofs.Text.Case
import OrderDesk.Settings.Load

/-!
# Layers of settings override leaf by leaf

Settings come from a base file, from the file of the environment and from variables, each over the
one before. As long as sections are maps and leaves go by their own names, every leaf has the value
of the highest layer that mentions it, and no other leaf has a say in it.

* `Plain`                    sections that are maps, and leaves under their own names;
* `leafTree?_eq_mention?`    what the settings are filled with, from such a tree;
* `heading_eq_of_foldKey`, `key_eq_of_foldKey`      names of leaves differ in more than case;
* `variableFor?`, `mention?_variableLayer`      what the variables have for a leaf;
* `LeafValue.read?_laid?`    what is read of a leaf, from two layers of which one is over the other;
* `Ordinary`                 files and variables as they are meant to be;
* `Leaf.highest?`            what the highest layer that mentions a leaf has for it;
* `settings_by_layers`       every leaf of settings that were loaded.
-/

namespace OrderDesk.Settings

/-! ## plain layers -/

/-- A section goes by its own name and is a map, and so are its leaves by theirs. Anything else may
lie beside them. -/
def Plain (ms : List (String × Tree)) : Prop := ∀ name t, child? name ms = some t →
  ∀ l ∈ leaves, Text.foldKey name = Text.foldKey l.heading → name = l.heading ∧
    ∃ us, t = .map us ∧ ∀ key u, child? key us = some u →
      ∀ l' ∈ leaves, l'.heading = l.heading → Text.foldKey key = Text.foldKey l'.key → key = l'.key

section
variable {ms us ls : List (String × Tree)} {l : Leaf} {name : String} {t : Tree}

theorem Plain.sectioned (h : Plain ms) (hl : l ∈ leaves) : Sectioned l.heading ms := by
  intro t ht
  obtain ⟨-, us, rfl, -⟩ := h l.heading t ht l hl rfl
  exact ⟨us, rfl⟩

/-- a name is looked up as it is, where no other name could be meant -/
theorem looseChild?_eq_child? (h : ∀ k t, child? k ms = some t →
    Text.foldKey k = Text.foldKey name → k = name) : looseChild? name ms = child? name ms := by
  unfold looseChild?
  cases hchild : child? name ms with
  | some t => rfl
  | none =>
    -- another name that is found would be the name itself, which is not there
    generalize hfind : List.find? _ ms = found
    cases found with
    | none => rfl
    | some x =>
      have hfold := List.find?_some hfind
      have hmem : (x.1, x.2) ∈ ms := List.mem_of_find?_eq_some hfind
      have hthere : child? x.1 ms ≠ none := by
        rw [Ne, child?_eq_none_iff, not_not]
        exact List.mem_map_of_mem hmem
      obtain ⟨t, ht⟩ := Option.ne_none_iff_exists'.mp hthere
      rw [h x.1 t ht (by simpa using hfold), hchild] at ht
      cases ht

/-- **What the settings are filled with** from a plain tree is what it mentions. -/
theorem leafTree?_eq_mention? (h : Plain ms) (hl : l ∈ leaves) :
    leafTree? l.heading l.key ms = some (mention? ms l.heading l.key) := by
  have hsection : looseChild? l.heading ms = child? l.heading ms :=
    looseChild?_eq_child? fun k t ht hk => (h k t ht l hl hk).1
  unfold leafTree?
  rw [hsection]
  rcases (h.sectioned hl).cases with hnone | ⟨us, hus⟩
  · rw [hnone, mention?_of_none hnone]
  · obtain ⟨-, us', hus', hkeys⟩ := h l.heading _ hus l hl rfl
    obtain rfl : us = us' := Tree.map.inj hus'
    have hkey : looseChild? l.key us = child? l.key us :=
      looseChild?_eq_child? fun k t ht hk => hkeys k t ht l hl rfl hk
    rw [hus, mention?_of_map hus]
    exact congrArg some hkey

/-- a plain layer over a plain layer -/
theorem Plain.merge (ho : Orderly us) (hu : Plain us) (hl : Plain ls) :
    Plain (mergeChildren us ls) := by
  intro name t ht l hleaf hname
  rw [child?_mergeChildren ho.sections] at ht
  cases hus : child? name us with
  | none =>
    rw [hus] at ht
    exact hl name t ht l hleaf hname
  | some u =>
    obtain ⟨rfl, us', rfl, hkeys⟩ := hu name u hus l hleaf hname
    cases hls : child? l.heading ls with
    | none =>
      rw [hus, hls] at ht
      obtain rfl : .map us' = t := Option.some.inj ht
      exact ⟨rfl, us', rfl, hkeys⟩
    | some v =>
      obtain ⟨-, ls', rfl, hkeys'⟩ := hl l.heading v hls l hleaf rfl
      rw [hus, hls, laid?, merge_map] at ht
      refine ⟨rfl, _, (Option.some.inj ht).symm, fun key w hw l' hl' hheading hkey => ?_⟩
      rw [child?_mergeChildren (ho.keys _ (mem_of_child? hus) us' rfl)] at hw
      cases hus' : child? key us' with
      | some u => exact hkeys key u hus' l' hl' hheading hkey
      | none =>
        rw [hus'] at hw
        exact hkeys' key w hw l' hl' hheading hkey

end

/-! ## names of leaves -/

/-- a small letter of ASCII or an underscore -/
def isKeyChar (c : Char) : Bool := ('a' ≤ c && c ≤ 'z') || c == '_'

theorem asciiLowerChar_foldKeyChar {c : Char} (h : isKeyChar c = true) :
    Text.asciiLowerChar (Text.foldKeyChar c) = c := by
  rcases Bool.or_eq_true_iff.mp h with hletter | hline
  · obtain ⟨hlow, hhigh⟩ := Bool.and_eq_true_iff.mp hletter
    have hsmall : 'a' ≤ c ∧ c ≤ 'z' := ⟨of_decide_eq_true hlow, of_decide_eq_true hhigh⟩
    have hrange : 0x61 ≤ c.toNat ∧ c.toNat ≤ 0x7A := hsmall
    have hupper : Text.foldKeyChar c = Char.ofNat (c.toNat - 32) := by
      rw [Text.foldKeyChar, if_neg (by omega), if_neg (by omega), if_pos hsmall]
    have hcapital : (Text.foldKeyChar c).toNat = c.toNat - 32 := by
      rw [hupper, Text.toNat_ofNat (by omega)]
    have hback : (Text.asciiLowerChar (Text.foldKeyChar c)).toNat = c.toNat := by
      rw [Text.toNat_asciiLowerChar (by omega), hcapital]
      omega
    exact Char.toNat_inj.mp hback
  · obtain rfl : c = '_' := beq_iff_eq.mp hline
    rfl

/-- a name of such letters is known by its folded form -/
theorem asciiLower_foldKey {s : String} (h : s.toList.all isKeyChar = true) :
    Text.asciiLower (Text.foldKey s) = s := by
  rw [Text.asciiLower, Text.foldKey, String.toList_ofList, List.map_map]
  have hsame : s.toList.map (Text.asciiLowerChar ∘ Text.foldKeyChar) = s.toList.map id :=
    List.map_congr_left fun c hc => asciiLowerChar_foldKeyChar (List.all_eq_true.mp h c hc)
  rw [hsame, List.map_id, String.ofList_toList]

theorem leaf_names : ∀ l ∈ leaves,
    l.heading.toList.all isKeyChar = true ∧ l.key.toList.all isKeyChar = true := by
  decide +kernel

/-- no two sections are told apart by letter case alone, and no two keys -/
theorem heading_eq_of_foldKey {l l' : Leaf} (hl : l ∈ leaves) (hl' : l' ∈ leaves)
    (h : Text.foldKey l.heading = Text.foldKey l'.heading) : l.heading = l'.heading := by
  rw [← asciiLower_foldKey (leaf_names l hl).1, h, asciiLower_foldKey (leaf_names l' hl').1]

theorem key_eq_of_foldKey {l l' : Leaf} (hl : l ∈ leaves) (hl' : l' ∈ leaves)
    (h : Text.foldKey l.key = Text.foldKey l'.key) : l.key = l'.key := by
  rw [← asciiLower_foldKey (leaf_names l hl).2, h, asciiLower_foldKey (leaf_names l' hl').2]

/-! ## variables -/

/-- what the variables have for a section and a key; the last one counts -/
def variableFor? (vars : List (String × String)) (heading key : String) : Option String :=
  (vars.reverse.find? fun x => decide (variablePath? x.1 = some [heading, key])).map Prod.snd

/-- Every variable that is for the service sets a leaf. -/
def SetsLeaves (vars : List (String × String)) : Prop :=
  ∀ x ∈ vars, ∀ path, variablePath? x.1 = some path → ∃ l ∈ leaves, path = [l.heading, l.key]

/-- one variable laid over those before it -/
def putVariable (ms : List (String × Tree)) (x : String × String) : List (String × Tree) :=
  match variablePath? x.1 with
  | none => ms
  | some path => putText x.2 path ms

theorem variableLayer_concat (vars : List (String × String)) (x : String × String) :
    variableLayer (vars ++ [x]) = putVariable (variableLayer vars) x := by
  rw [variableLayer, List.foldl_append]
  rfl

theorem variableFor?_concat (vars : List (String × String)) (x : String × String)
    (heading key : String) : variableFor? (vars ++ [x]) heading key
      = if variablePath? x.1 = some [heading, key] then some x.2
        else variableFor? vars heading key := by
  unfold variableFor?
  rw [List.reverse_append, List.reverse_singleton, List.singleton_append, List.find?_cons]
  by_cases hx : variablePath? x.1 = some [heading, key]
  · simp only [hx, decide_true, if_true, Option.map_some]
  · simp only [hx, decide_false, if_false]

theorem SetsLeaves.concat {vars : List (String × String)} {x : String × String}
    (h : SetsLeaves (vars ++ [x])) : SetsLeaves vars ∧
      ∀ path, variablePath? x.1 = some path → ∃ l ∈ leaves, path = [l.heading, l.key] :=
  ⟨fun y hy => h y (List.mem_append_left _ hy), h x (List.mem_append_right _ (List.mem_singleton.mpr rfl))⟩

/-- Sections and keys of leaves, and nothing else. -/
def OnlyLeaves (ms : List (String × Tree)) : Prop := ∀ name t, child? name ms = some t →
  (∃ l ∈ leaves, name = l.heading) ∧ ∃ us, t = .map us ∧ ∀ key u, child? key us = some u →
    ∃ l ∈ leaves, name = l.heading ∧ key = l.key

section
variable {ms : List (String × Tree)} {l : Leaf} {vars : List (String × String)}

theorem OnlyLeaves.plain (h : OnlyLeaves ms) : Plain ms := by
  intro name t ht l hl hname
  obtain ⟨⟨l₁, hl₁, rfl⟩, us, rfl, hkeys⟩ := h name t ht
  refine ⟨heading_eq_of_foldKey hl₁ hl hname, us, rfl, fun key u hu l' hl' _ hkey => ?_⟩
  obtain ⟨l₂, hl₂, -, rfl⟩ := hkeys key u hu
  exact key_eq_of_foldKey hl₂ hl' hkey

theorem OnlyLeaves.putText {value : String} (h : OnlyLeaves ms) (hl : l ∈ leaves) :
    OnlyLeaves (putText value [l.heading, l.key] ms) := by
  obtain ⟨us, hput, hbefore⟩ := child?_putText value l.key (h.plain.sectioned hl)
  rw [hput]
  intro name t ht
  rw [child?_putChild] at ht
  by_cases hname : l.heading = name
  · rw [if_pos hname] at ht
    refine ⟨⟨l, hl, hname.symm⟩, _, (Option.some.inj ht).symm, fun key u hu => ?_⟩
    rw [child?_putChild] at hu
    by_cases hkey : l.key = key
    · exact ⟨l, hl, hname.symm, hkey.symm⟩
    · -- the other keys of the section were there before
      rw [if_neg hkey, ← hbefore] at hu
      rcases (h.plain.sectioned hl).cases with hnone | ⟨us', hus'⟩
      · rw [mention?_of_none hnone] at hu
        cases hu
      · obtain ⟨-, us₁, hus₁, hkeys⟩ := h l.heading _ hus'
        obtain rfl : us' = us₁ := Tree.map.inj hus₁
        rw [mention?_of_map hus'] at hu
        rw [← hname]
        exact hkeys key u hu
  · rw [if_neg hname] at ht
    exact h name t ht

theorem OnlyLeaves.of_leaf {t : Tree} (hl : l ∈ leaves) :
    OnlyLeaves [(l.heading, .map [(l.key, t)])] := by
  intro name u hu
  obtain ⟨hname, hu⟩ := Prod.mk.inj (List.mem_singleton.mp (mem_of_child? hu))
  refine ⟨⟨l, hl, hname⟩, _, hu, fun key v hv => ?_⟩
  obtain ⟨hkey, -⟩ := Prod.mk.inj (List.mem_singleton.mp (mem_of_child? hv))
  exact ⟨l, hl, hname, hkey⟩

/-- **The layer of variables** that set leaves has nothing but these. -/
theorem variableLayer_onlyLeaves (h : SetsLeaves vars) : OnlyLeaves (variableLayer vars) := by
  induction vars using List.reverseRecOn with
  | nil => nofun
  | append_singleton vars x ih =>
    obtain ⟨hvars, hx⟩ := h.concat
    rw [variableLayer_concat, putVariable]
    cases hpath : variablePath? x.1 with
    | none => exact ih hvars
    | some path =>
      obtain ⟨l, hl, rfl⟩ := hx path hpath
      exact (ih hvars).putText hl

theorem variableLayer_orderly (vars : List (String × String)) : Orderly (variableLayer vars) := by
  induction vars using List.reverseRecOn with
  | nil => exact .nil
  | append_singleton vars x ih =>
    rw [variableLayer_concat, putVariable]
    cases variablePath? x.1 with
    | none => exact ih
    | some path => exact ih.putText path

/-- **What is found in the layer of variables** is the value of the last variable for the leaf. -/
theorem mention?_variableLayer (h : SetsLeaves vars) (heading key : String) :
    mention? (variableLayer vars) heading key = (variableFor? vars heading key).map .text := by
  induction vars using List.reverseRecOn with
  | nil => rfl
  | append_singleton vars x ih =>
    obtain ⟨hvars, hx⟩ := h.concat
    rw [variableLayer_concat, putVariable, variableFor?_concat]
    cases hpath : variablePath? x.1 with
    | none =>
      rw [if_neg nofun]
      exact ih hvars
    | some path =>
      obtain ⟨l, hl, rfl⟩ := hx path hpath
      have hsection := (variableLayer_onlyLeaves hvars).plain.sectioned hl
      dsimp only
      rw [mention?_putText hsection, ih hvars]
      by_cases hsame : l.heading = heading ∧ l.key = key
      · rw [if_pos hsame, hsame.1, hsame.2, if_pos rfl]
        rfl
      · have hother : some [l.heading, l.key] ≠ some [heading, key] := by
          intro heq
          obtain ⟨h₁, h₂⟩ := List.cons.inj (Option.some.inj heq)
          exact hsame ⟨h₁, (List.cons.inj h₂).1⟩
        rw [if_neg hsame, if_neg hother]

end

/-! ## what is read of a leaf -/

/-- what is read from one finding over another is read from the upper one -/
theorem LeafValue.read?_laid? {old v : LeafValue} {upper lower : Option Tree} {t : Tree}
    (hlaid : laid? upper lower = some t) (hread : old.read? t = some v) :
    ∃ t', upper.or lower = some t' ∧ old.read? t' = some v := by
  cases upper with
  | none => exact ⟨t, hlaid, hread⟩
  | some u =>
    cases lower with
    | none => exact ⟨t, hlaid, hread⟩
    | some l =>
      refine ⟨u, rfl, ?_⟩
      obtain rfl : u.merge l = t := Option.some.inj hlaid
      rcases merge_eq_or u l with hmerge | ⟨us, ls, rfl, rfl, hmerge⟩
      · rwa [hmerge] at hread
      · -- of all maps, only the empty one can be read
        rw [hmerge] at hread
        have hempty : mergeChildren us ls = [] := by
          by_contra hne
          obtain ⟨c, cs, hcs⟩ := List.exists_cons_of_ne_nil hne
          rw [hcs] at hread
          cases old <;> cases hread
        rw [hempty] at hread
        rw [eq_nil_of_mergeChildren hempty]
        exact hread

/-! ## all layers -/

/-- Where settings come from: the base file, the file of the environment, which may be missing, and
variables. -/
structure Sources where
  base : Option String
  overlay : Option String
  vars : List (String × String)

namespace Sources

/-- the tree of a file; one that is missing or broken is empty -/
def fileLayer (file : Option String) : List (String × Tree) := (file.bind Yaml.parse?).getD []

def load (s : Sources) (dir : String) : Except Failure Settings :=
  Settings.load dir s.base s.overlay s.vars

/-- Files whose sections are maps with the leaves under their own names, and variables that set
leaves. -/
structure Ordinary (s : Sources) : Prop where
  base : Plain (fileLayer s.base)
  overlay : Plain (fileLayer s.overlay)
  vars : SetsLeaves s.vars

/-- what the highest layer that mentions a leaf has for it -/
def highest? (s : Sources) (l : Leaf) : Option Tree :=
  ((variableFor? s.vars l.heading l.key).map .text).or
    ((mention? (fileLayer s.overlay) l.heading l.key).or
      (mention? (fileLayer s.base) l.heading l.key))

variable {s s' : Sources} {dir dir' : String} {c c' : Settings} {l : Leaf}

theorem fileLayer_orderly (file : Option String) : Orderly (fileLayer file) := by
  unfold fileLayer
  cases hparse : file.bind Yaml.parse? with
  | none => exact .nil
  | some ms =>
    obtain ⟨text, -, htext⟩ := Option.bind_eq_some_iff.mp hparse
    exact Yaml.parse?_orderly htext

theorem layers_eq (base : List (String × Tree)) (overlay : Option String)
    (vars : List (String × String)) : layers base overlay vars
      = mergeChildren (variableLayer vars) (mergeChildren (fileLayer overlay) base) := by
  unfold layers fileLayer
  cases overlay.bind Yaml.parse? with
  | none => rw [Option.getD_none, mergeChildren_nil]
  | some us => rfl

/-- of the file of the environment only its tree counts -/
theorem load_congr (h : fileLayer s.overlay = fileLayer s'.overlay) (hbase : s.base = s'.base)
    (hvars : s.vars = s'.vars) : s.load dir = s'.load dir := by
  unfold load Settings.load
  simp only [layers_eq, h, hbase, hvars]

/-- **Settings are loaded** when there is a base file, all layers together fill them, and they can
be used. -/
theorem load_ok_iff : s.load dir = .ok c ↔ (s.base.bind Yaml.parse?).isSome ∧
    fill? (mergeChildren (variableLayer s.vars)
      (mergeChildren (fileLayer s.overlay) (fileLayer s.base))) {} = some c ∧
    c.validate = .ok () := by
  unfold load Settings.load
  cases hbase : s.base with
  | none => exact ⟨nofun, nofun⟩
  | some text =>
    have hlayer : fileLayer (some text) = (Yaml.parse? text).getD [] := rfl
    rw [hlayer, Option.bind_some]
    dsimp only
    cases Yaml.parse? text with
    | none => exact ⟨nofun, fun h => nomatch h.1⟩
    | some ms =>
      dsimp only
      rw [layers_eq, Option.getD_some]
      cases fill? (mergeChildren (variableLayer s.vars) (mergeChildren (fileLayer s.overlay) ms)) {} with
      | none => exact ⟨nofun, fun h => nomatch h.2.1⟩
      | some c₁ =>
        dsimp only
        constructor
        · intro h
          cases hvalid : c₁.validate with
          | error f =>
            rw [hvalid] at h
            cases h
          | ok u =>
            rw [hvalid] at h
            obtain rfl : c₁ = c := Except.ok.inj h
            exact ⟨rfl, rfl, hvalid⟩
        · rintro ⟨-, hc, hvalid⟩
          obtain rfl : c₁ = c := Option.some.inj hc
          rw [hvalid]
          rfl

/-- **A leaf of settings that were loaded** keeps its default, or has what the highest layer that
mentions it has. -/
theorem Ordinary.leaf (hs : s.Ordinary) (h : s.load dir = .ok c) (hl : l ∈ leaves) :
    (s.highest? l = none → l.get c = l.get {}) ∧
      ∀ t, s.highest? l = some t → (l.get {}).read? t = some (l.get c) := by
  have hvars : Plain (variableLayer s.vars) := (variableLayer_onlyLeaves hs.vars).plain
  have hfiles : Plain (mergeChildren (fileLayer s.overlay) (fileLayer s.base)) :=
    Plain.merge (fileLayer_orderly s.overlay) hs.overlay hs.base
  have hplain := Plain.merge (variableLayer_orderly s.vars) hvars hfiles
  obtain ⟨found, hfound, hvalue⟩ := fill?_some (load_ok_iff.mp h).2.1 l hl
  rw [leafTree?_eq_mention? hplain hl,
    mention?_mergeChildren (variableLayer_orderly s.vars) (hvars.sectioned hl)
      (hfiles.sectioned hl),
    mention?_mergeChildren (fileLayer_orderly s.overlay) (hs.overlay.sectioned hl)
      (hs.base.sectioned hl), mention?_variableLayer hs.vars] at hfound
  have hlaid := Option.some.inj hfound
  unfold highest?
  generalize (variableFor? s.vars l.heading l.key).map Tree.text = v at hlaid ⊢
  generalize mention? (fileLayer s.overlay) l.heading l.key = o at hlaid ⊢
  generalize mention? (fileLayer s.base) l.heading l.key = b at hlaid ⊢
  cases found with
  | none =>
    obtain ⟨rfl, rfl, rfl⟩ : v = none ∧ o = none ∧ b = none := by
      cases v <;> cases o <;> cases b <;> first | exact ⟨rfl, rfl, rfl⟩ | cases hlaid
    exact ⟨fun _ => hvalue, nofun⟩
  | some t =>
    have hread : ∃ t', v.or (o.or b) = some t' ∧ (l.get {}).read? t' = some (l.get c) := by
      obtain ⟨t₁, ht₁, hread₁⟩ := LeafValue.read?_laid? hlaid hvalue
      cases v with
      | some u => exact ⟨t₁, ht₁, hread₁⟩
      | none =>
        have hfiles : laid? o b = some t₁ := ht₁
        show ∃ t', o.or b = some t' ∧ (l.get {}).read? t' = some (l.get c)
        exact LeafValue.read?_laid? hfiles hread₁
    obtain ⟨t', ht', hread'⟩ := hread
    rw [ht']
    exact ⟨nofun, fun t'' ht'' => Option.some.inj ht'' ▸ hread'⟩

/-- a leaf of which the highest layers say the same has the same value -/
theorem Ordinary.leaf_congr (hs : s.Ordinary) (hs' : s'.Ordinary) (h : s.load dir = .ok c)
    (h' : s'.load dir' = .ok c') (hl : l ∈ leaves) (hsame : s.highest? l = s'.highest? l) :
    l.get c = l.get c' := by
  obtain ⟨hdefault, hvalue⟩ := hs.leaf h hl
  obtain ⟨hdefault', hvalue'⟩ := hs'.leaf h' hl
  cases hhigh : s.highest? l with
  | none => rw [hdefault hhigh, hdefault' (hsame ▸ hhigh)]
  | some t =>
    have hread := hvalue t hhigh
    rw [hvalue' t (hsame ▸ hhigh)] at hread
    exact (Option.some.inj hread).symm

/-- **Layers override leaf by leaf.** Every leaf of settings that were loaded has the value of the
highest layer that mentions it; with nothing there, or mentioned nowhere, it keeps its default. So
what any layer has for other leaves changes nothing, and what is mentioned settles all. A file of
the environment that is missing or broken counts as empty. -/
theorem settings_by_layers (hs : s.Ordinary) (h : s.load dir = .ok c) :
    (∀ l ∈ leaves, (s.highest? l = none → l.get c = l.get {}) ∧
      (s.highest? l = some .null → l.get c = l.get {}) ∧
      ∀ t, s.highest? l = some t → (l.get {}).read? t = some (l.get c)) ∧
    (∀ s' dir' c', Ordinary s' → s'.load dir' = .ok c' →
      (∀ l ∈ leaves, s.highest? l = s'.highest? l → l.get c = l.get c') ∧
      ((∀ l ∈ leaves, s.highest? l = s'.highest? l) → c = c')) ∧
    (s.overlay.bind Yaml.parse? = none → load { s with overlay := some "" } dir = .ok c) := by
  refine ⟨fun l hl => ?_, fun s' dir' c' hs' h' => ?_, fun hbroken => ?_⟩
  · obtain ⟨hdefault, hvalue⟩ := hs.leaf h hl
    exact ⟨hdefault, fun hnull => (Option.some.inj (hvalue _ hnull)).symm, hvalue⟩
  · have hsame : ∀ l ∈ leaves, s.highest? l = s'.highest? l → l.get c = l.get c' :=
      fun l hl => hs.leaf_congr hs' h h' hl
    exact ⟨hsame, fun hall => eq_of_leaves fun l hl => hsame l hl (hall l hl)⟩
  · have hempty : Yaml.parse? "" = some [] := by cbv
    rw [← h]
    refine load_congr ?_ rfl rfl
    show ((some "").bind Yaml.parse?).getD [] = (s.overlay.bind Yaml.parse?).getD []
    rw [Option.bind_some, hempty, hbroken]
    rfl

/-- a database number in two files, over which a third is set -/
def numbered : Sources where
  base := some "redis:\n  db: 3\n"
  overlay := some "redis:\n  db: 4\n"
  vars := [("ORDERAPI_DATABASE__DSN", "x"), ("ORDERAPI_SECURITY__JWT_SECRET", "s"),
    ("ORDERAPI_REDIS__DB", "5"), ("HOME", "/")]

theorem parse?_three : Yaml.parse? "redis:\n  db: 3\n" = some [("redis", .map [("db", .int 3)])] := by
  cbv

theorem parse?_four : Yaml.parse? "redis:\n  db: 4\n" = some [("redis", .map [("db", .int 4)])] := by
  cbv

theorem numbered_base : fileLayer numbered.base = [("redis", .map [("db", .int 3)])] := by
  rw [numbered, fileLayer, Option.bind_some, parse?_three, Option.getD_some]

theorem numbered_overlay : fileLayer numbered.overlay = [("redis", .map [("db", .int 4)])] := by
  rw [numbered, fileLayer, Option.bind_some, parse?_four, Option.getD_some]

theorem numbered_ordinary : numbered.Ordinary where
  base := by
    rw [numbered_base]
    exact (OnlyLeaves.of_leaf (l := leaves[15]) (List.getElem_mem _)).plain
  overlay := by
    rw [numbered_overlay]
    exact (OnlyLeaves.of_leaf (l := leaves[15]) (List.getElem_mem _)).plain
  vars := by
    have hpaths : ∀ x ∈ numbered.vars, variablePath? x.1 = none ∨
        ∃ l ∈ leaves, variablePath? x.1 = some [l.heading, l.key] := by
      decide +kernel
    intro x hx path hpath
    rcases hpaths x hx with hnone | ⟨l, hl, hsome⟩
    · rw [hnone] at hpath
      cases hpath
    · exact ⟨l, hl, Option.some.inj (hpath.symm.trans hsome)⟩

/-- the variable overrides both files, and a leaf that no layer mentions keeps its default -/
theorem numbered_loads : ∃ c, numbered.load "configs" = .ok c ∧ c.redis.db = 5 ∧
    c.orders.maxPageSize = 100 := by
  let c : Settings :=
    { database := { dsn := "x" }, security := { jwtSecret := "s" }, redis := { db := 5 } }
  have hbase : (numbered.base.bind Yaml.parse?).isSome := by
    rw [numbered, Option.bind_some, parse?_three, Option.isSome_some]
  have hfill : fill? (mergeChildren (variableLayer numbered.vars)
      (mergeChildren [("redis", .map [("db", .int 4)])] [("redis", .map [("db", .int 3)])])) {}
        = some c := by
    decide +kernel
  have hvalid : c.validate = .ok () := by
    have hsome : c.validate.toOption = some () := by decide +kernel
    cases hc : c.validate with
    | ok u => rfl
    | error f =>
      rw [hc] at hsome
      cases hsome
  have hload : numbered.load "configs" = .ok c := by
    refine load_ok_iff.mpr ⟨hbase, ?_, hvalid⟩
    rw [numbered_base, numbered_overlay]
    exact hfill
  obtain ⟨hleaves, -, -⟩ := settings_by_layers numbered_ordinary hload
  have hset : variableFor? numbered.vars "redis" "db" = some "5" := by decide +kernel
  have hhigh : numbered.highest? leaves[15] = some (.text "5") := by
    show ((variableFor? numbered.vars "redis" "db").map Tree.text).or _ = _
    rw [hset]
    rfl
  have hread : some (LeafValue.whole 5) = some (.whole c.redis.db) :=
    (hleaves leaves[15] (List.getElem_mem _)).2.2 _ hhigh
  have hunset : variableFor? numbered.vars "orders" "max_page_size" = none := by decide +kernel
  have hlow : numbered.highest? leaves[39] = none := by
    show ((variableFor? numbered.vars "orders" "max_page_size").map Tree.text).or _ = none
    rw [hunset, numbered_base, numbered_overlay]
    rfl
  have hdefault : LeafValue.whole c.orders.maxPageSize = .whole 100 :=
    (hleaves leaves[39] (List.getElem_mem _)).1 hlow
  exact ⟨c, hload, (LeafValue.whole.inj (Option.some.inj hread)).symm,
    LeafValue.whole.inj hdefault⟩

end Sources

end OrderDesk.Settings
