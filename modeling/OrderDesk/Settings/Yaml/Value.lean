import OrderDesk.Settings.Yaml.Node
import OrderDesk.Text.Base64

/-!
# The tree of a settings file

* `Effort`           how many nodes were visited, and how many of them through aliases: a file that
                     is almost nothing but aliases is refused;
* `Node.tree`        the tree of a node;
* `Node.children`    the children that a map has, those that it takes over included;
* `parse?`           the children of the map that a file holds.

A key that a map sets itself wins over one that it takes over by `<<`, and of two maps that it takes
over the earlier wins.
-/

namespace OrderDesk.Settings.Yaml

/-- How many nodes were visited, and how many of them through aliases. -/
structure Effort where
  visits : Nat := 0
  aliased : Nat := 0

/-- The share of visits through aliases that is still accepted, in parts of `10 ^ 9`: 99 of 100 up
to 400000 visits, 10 of 100 from 4000000 visits on, and evenly less between. -/
def Effort.limit (e : Effort) : Nat :=
  if e.visits ≤ 400000 then 990000000
  else if 4000000 ≤ e.visits then 100000000
  else 990000000 - 890000000 * (e.visits - 400000) / 3600000

/-- are these too many visits through aliases -/
def Effort.exceeded (e : Effort) : Bool :=
  100 < e.aliased && 1000 < e.visits && e.limit * e.visits < e.aliased * 1000000000

/-- a step of building a tree; `none` for a file that is refused -/
abbrev Build := StateT Effort Option

def visit (aliased : Bool) : Build Unit := do
  modify fun e =>
    { visits := e.visits + 1, aliased := if aliased then e.aliased + 1 else e.aliased }
  if (← get).exceeded then failure

def scalarTree (tag text : String) : Build Tree := do
  if tag = Tag.text then pure (.text text)
  else
    let some (kind, t) := resolve? tag text | failure
    if kind = Tag.binary then
      match Base64.decode? text with
      | some bs => pure (.text (Octets.lossyText bs))
      | none => failure
    else pure t

namespace Node

/-- the kind of a key, as far as it tells texts from other keys -/
def kind : Node → String
  | .scalar tag _ => tag
  | .alias _ (some (.scalar tag _)) => tag
  | _ => ""

/-- is this the key that takes over the members of other maps -/
def isMerge : Node → Bool
  | .scalar tag text => text == "<<" && tag == Tag.merge
  | _ => false

/-- are two keys spelled alike; all lists are, and all maps -/
def alike : Node → Node → Bool
  | .scalar _ s, .scalar _ t => s == t
  | .list _, .list _ => true
  | .map _, .map _ => true
  | .alias m _, .alias n _ => m == n
  | _, _ => false

/-- no two keys are spelled alike -/
def distinctKeys : List (Node × Node) → Bool
  | [] => true
  | (k, _) :: rest => rest.all (fun (l, _) => !k.alike l) && distinctKeys rest

/-- Are the keys of a map texts only. Otherwise they keep their values and are named by these. -/
def textKeys (members : List (Node × Node)) : Bool :=
  members.all fun (k, _) => k.kind == Tag.text || k.kind == Tag.merge

/-- the name of a key with a value of its own; a list or a map is no key -/
def nameOf? (text : String) : Tree → Option String
  | .null => some "<nil>"
  | .bool b => some (if b then "true" else "false")
  | .int n => some (toString n)
  | .float _ | .moment => some text
  | .text s => some s
  | .seq _ | .map _ => none

/-- The name of a key. In a map of texts a key that is nothing names nothing, and one of another
kind is named as it is spelled. -/
def keyName (texts aliased : Bool) : Node → Build (Option String)
  | .scalar tag text => do
    visit aliased
    let t ← scalarTree tag text
    if texts then
      match t with
      | .null => pure none
      | .text s => pure (some s)
      | _ => pure (some text)
    else
      match nameOf? text t with
      | some s => pure (some s)
      | none => failure
  | .alias _ (some target) => do
    visit aliased
    keyName texts true target
  | _ => failure

def keyNames (aliased : Bool) : List (Node × Node) → Build (List String)
  | [] => pure []
  | (k, _) :: rest => do
    let name ← keyName false aliased k
    pure (name.toList ++ (← keyNames aliased rest))

mutual

def tree (aliased : Bool) (n : Node) : Build Tree :=
  match n with
  | .scalar tag text => do
    visit aliased
    scalarTree tag text
  | .list items => do
    visit aliased
    pure (.seq (← trees aliased items))
  | .map members => do
    visit aliased
    let (_, cs) ← children (textKeys members) aliased none [] members
    pure (.map cs)
  | .alias _ (some target) => do
    visit aliased
    tree true target
  | .alias _ none => failure
termination_by (sizeOf n, 0)

def trees (aliased : Bool) (ns : List Node) : Build (List Tree) :=
  match ns with
  | [] => pure []
  | n :: rest => do
    let t ← tree aliased n
    pure (t :: (← trees aliased rest))
termination_by (sizeOf ns, 0)

/-- Adds the children of a map to those that are there. `taken` has the names that are settled when
the map is taken over by another one. -/
def children (texts aliased : Bool) (taken : Option (List String)) (out : List (String × Tree))
    (members : List (Node × Node)) : Build (Option (List String) × List (String × Tree)) := do
  if !distinctKeys members then failure
  let (taken, out) ← ownChildren texts aliased taken out members
  if members.any fun (k, _) => k.isMerge then
    let settled ← match taken with
      | some l => pure l
      | none => keyNames aliased members
    let (settled, out) ← takenOver texts aliased settled out members
    pure (taken.map fun _ => settled, out)
  else pure (taken, out)
termination_by (sizeOf members, 1)

/-- adds the children that a map sets itself -/
def ownChildren (texts aliased : Bool) (taken : Option (List String)) (out : List (String × Tree))
    (members : List (Node × Node)) : Build (Option (List String) × List (String × Tree)) :=
  match members with
  | [] => pure (taken, out)
  | (k, v) :: rest => do
    if k.isMerge then ownChildren texts aliased taken out rest
    else
      match ← keyName texts aliased k with
      | none => ownChildren texts aliased taken out rest
      | some name =>
        if taken.any (·.contains name) then ownChildren texts aliased taken out rest
        else
          let t ← tree aliased v
          ownChildren texts aliased (taken.map (name :: ·)) (putChild name t out) rest
termination_by (sizeOf members, 0)

/-- adds the children that a map takes over by its merge key -/
def takenOver (texts aliased : Bool) (settled : List String) (out : List (String × Tree))
    (members : List (Node × Node)) : Build (List String × List (String × Tree)) :=
  match members with
  | [] => pure (settled, out)
  | (k, v) :: rest => do
    if k.isMerge then
      match v with
      | .list items => sources texts aliased settled out items
      | v => source texts aliased settled out v
    else takenOver texts aliased settled out rest
termination_by (sizeOf members, 0)

/-- adds the children of a map that is taken over, or of the map that an alias stands for -/
def source (texts aliased : Bool) (settled : List String) (out : List (String × Tree)) (n : Node) :
    Build (List String × List (String × Tree)) :=
  match n with
  | .map members => do
    visit aliased
    let (taken, out) ← children texts aliased (some settled) out members
    pure (taken.getD settled, out)
  | .alias _ (some (.map members)) => do
    visit aliased
    visit true
    let (taken, out) ← children texts true (some settled) out members
    pure (taken.getD settled, out)
  | _ => failure
termination_by (sizeOf n, 0)

/-- adds the children of maps that are taken over, one after the other -/
def sources (texts aliased : Bool) (settled : List String) (out : List (String × Tree))
    (ns : List Node) : Build (List String × List (String × Tree)) :=
  match ns with
  | [] => pure (settled, out)
  | n :: rest => do
    let (settled, out) ← source texts aliased settled out n
    sources texts aliased settled out rest
termination_by (sizeOf ns, 0)

end

/-- the children of the map that a file holds; nothing has none -/
def rootChildren (n : Node) : Build (List (String × Tree)) := do
  visit false
  match n with
  | .map members =>
    visit false
    let (_, cs) ← children true false none [] members
    pure cs
  | .scalar tag text =>
    match ← scalarTree tag text with
    | .null => pure []
    | _ => failure
  | _ => failure

end Node

/-- The children of the map that a file holds, none for an empty file. -/
def parse? (file : String) : Option (List (String × Tree)) := do
  match ← Node.document? file.toList with
  | none => some []
  | some n => ((Node.rootChildren n).run {}).map Prod.fst

end OrderDesk.Settings.Yaml
