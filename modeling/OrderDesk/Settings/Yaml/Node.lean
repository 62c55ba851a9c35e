import OrderDesk.Settings.Yaml.Plain
import OrderDesk.Settings.Yaml.Token

/-!
# Nodes of a settings file

* `Node`             scalars, lists and maps with their tags; an alias carries the node that it
                     stands for;
* `Reader`           tokens, the anchors so far and the handles of tags;
* `Reader.node?`     the node that starts at the next token;
* `Node.document?`   the node of the first document of a text, `none` inside for an empty text.
-/

namespace OrderDesk.Settings.Yaml

/-- A part of a settings file. An alias without a target stands for a node that it lies in. -/
inductive Node where
  | scalar (tag : String) (text : String)
  | list (items : List Node)
  | map (members : List (Node × Node))
  | alias (name : String) (target : Option Node)
  deriving Inhabited

/-- A name given to a node: it has no target as long as the node is being read. -/
structure Anchor where
  name : String
  number : Nat
  target : Option Node

/-- A file that is being read: its tokens, its anchors, the last one first, and the handles of tags
with their expansions. -/
structure Reader where
  scanner : Scanner
  anchors : List Anchor := []
  handles : List (List Char × List Char) := []

/-- a step of reading; `none` for a broken file -/
abbrev Read := StateT Reader Option

namespace Reader

/-- the next token, which stays -/
def peek : Read Token := fun r => do
  let (t, s) ← r.scanner.peek?
  some (t, { r with scanner := s })

def take : Read Unit := modify fun r => { r with scanner := r.scanner.take }

/-- past the next token, to the one after it -/
def next : Read Token := do
  take
  peek

/-- the tag of an empty value, and of a plain scalar -/
def plainTag (text : String) : String :=
  if text = "<<" then Tag.merge else (spelled true text).1

def empty : Node := .scalar Tag.null ""

/-- The tag of a handle and a suffix, none for a handle that is not declared. -/
def expand? (handles : List (List Char × List Char)) (handle suffix : List Char) :
    Option (List Char) :=
  if handle.isEmpty then some suffix
  else (handles.find? (·.1 == handle)).map fun (_, e) => e ++ suffix

/-- the anchor and the tag in front of a node, in either order -/
def properties : Read (Option String × Option (List Char)) := do
  let tagOf := fun (h s : List Char) => do
    match expand? (← get).handles h s with
    | some [] | none => failure
    | some t => pure t
  match ← peek with
  | .anchor name =>
    match ← next with
    | .tag h s =>
      take
      pure (some name, some (← tagOf h s))
    | _ => pure (some name, none)
  | .tag h s =>
    match ← next with
    | .anchor name =>
      take
      pure (some name, some (← tagOf h s))
    | _ => pure (none, some (← tagOf h s))
  | _ => pure (none, none)

def declare (name : Option String) : Read Nat := do
  let n := (← get).anchors.length
  match name with
  | some name => modify fun r => { r with anchors := ⟨name, n, none⟩ :: r.anchors }
  | none => pure ()
  pure n

/-- completes the node of an anchor, if it has one -/
def complete (name : Option String) (number : Nat) (node : Node) : Read Node := do
  if name.isSome then
    modify fun r => { r with anchors := r.anchors.map fun a =>
      if a.number = number then { a with target := some node } else a }
  pure node

/-- a node that an alias stands for -/
def recalled (name : String) : Read Node := do
  match (← get).anchors.find? (·.name == name) with
  | some a => pure (.alias name a.target)
  | none => failure

/-- the short form of a tag, none for the tag that leaves the choice open -/
def ownTag? (tag : Option (List Char)) : Option String :=
  match tag with
  | none | some ['!'] => none
  | some t => some (Tag.short t)

/-- Where a node stands: inside brackets, in a block, or as a part of a block map, where a list may
be as deep as the map. -/
inductive Place where
  | flow
  | block
  | member
  deriving DecidableEq

mutual

/-- the node that starts at the next token -/
def node (fuel : Nat) (place : Place) : Read Node :=
  match fuel with
  | 0 => failure
  | fuel + 1 => do
    match ← peek with
    | .alias name =>
      take
      recalled name
    | _ =>
      let (name, tag) ← properties
      let number ← declare name
      complete name number (← content fuel place (name.isSome || tag.isSome) (ownTag? tag))

/-- the node after its anchor and tag; with one of them it may be empty -/
def content (fuel : Nat) (place : Place) (marked : Bool) (own : Option String) : Read Node :=
  match fuel with
  | 0 => failure
  | fuel + 1 => do
    let void := if marked then pure (.scalar (own.getD Tag.null) "") else failure
    match ← peek with
    | .item => if place = .member then pure (.list (← looseItems fuel)) else void
    | .scalar plain text =>
      take
      pure (.scalar (own.getD (if plain then plainTag text else Tag.text)) text)
    | .openList =>
      take
      pure (.list (← flowItems fuel true))
    | .openMap =>
      take
      pure (.map (← flowMembers fuel true))
    | .blockList =>
      if place = .flow then void
      else
        take
        pure (.list (← blockItems fuel))
    | .blockMap =>
      if place = .flow then void
      else
        take
        pure (.map (← blockMembers fuel))
    | _ => void

def blockItems (fuel : Nat) : Read (List Node) :=
  match fuel with
  | 0 => failure
  | fuel + 1 => do
    match ← peek with
    | .item =>
      let item ← match ← next with
        | .item | .blockEnd => pure empty
        | _ => node fuel .block
      pure (item :: (← blockItems fuel))
    | .blockEnd =>
      take
      pure []
    | _ => failure

/-- the items of a list as deep as the map that it is in -/
def looseItems (fuel : Nat) : Read (List Node) :=
  match fuel with
  | 0 => failure
  | fuel + 1 => do
    match ← peek with
    | .item =>
      let item ← match ← next with
        | .item | .key | .value | .blockEnd => pure empty
        | _ => node fuel .block
      pure (item :: (← looseItems fuel))
    | _ => pure []

def blockMembers (fuel : Nat) : Read (List (Node × Node)) :=
  match fuel with
  | 0 => failure
  | fuel + 1 => do
    match ← peek with
    | .key =>
      let key ← match ← next with
        | .key | .value | .blockEnd => pure empty
        | _ => node fuel .member
      let value ← match ← peek with
        | .value =>
          match ← next with
          | .key | .value | .blockEnd => pure empty
          | _ => node fuel .member
        | _ => pure empty
      pure ((key, value) :: (← blockMembers fuel))
    | .blockEnd =>
      take
      pure []
    | _ => failure

/-- the items of a list in brackets; a key makes an item a map of one member -/
def flowItems (fuel : Nat) (first : Bool) : Read (List Node) :=
  match fuel with
  | 0 => failure
  | fuel + 1 => do
    let t ← match ← peek with
      | .closeList => pure .closeList
      | t => if first then pure t else if t = .comma then next else failure
    match t with
    | .closeList =>
      take
      pure []
    | .key =>
      let key ← match ← next with
        | .value | .comma | .closeList =>
          take
          pure empty
        | _ => node fuel .flow
      let value ← match ← peek with
        | .value =>
          match ← next with
          | .comma | .closeList => pure empty
          | _ => node fuel .flow
        | _ => pure empty
      pure (.map [(key, value)] :: (← flowItems fuel false))
    | _ =>
      let item ← node fuel .flow
      pure (item :: (← flowItems fuel false))

/-- the members of a map in brackets; a key may stand alone -/
def flowMembers (fuel : Nat) (first : Bool) : Read (List (Node × Node)) :=
  match fuel with
  | 0 => failure
  | fuel + 1 => do
    let t ← match ← peek with
      | .closeMap => pure .closeMap
      | t => if first then pure t else if t = .comma then next else failure
    match t with
    | .closeMap =>
      take
      pure []
    | .key =>
      let key ← match ← next with
        | .value | .comma | .closeMap => pure empty
        | _ => node fuel .flow
      let value ← match ← peek with
        | .value =>
          match ← next with
          | .comma | .closeMap => pure empty
          | _ => node fuel .flow
        | _ => pure empty
      pure ((key, value) :: (← flowMembers fuel false))
    | _ =>
      let key ← node fuel .flow
      pure ((key, empty) :: (← flowMembers fuel false))

end

def standardHandles : List (List Char × List Char) := [(['!'], ['!']), (['!', '!'], Tag.standard)]

/-- The directives of a document: at most one version, which must be 1.1, and handles of tags, each
declared once. -/
def directives : Nat → (versioned : Bool) → Read Unit
  | 0, _ => failure
  | fuel + 1, versioned => do
    match ← peek with
    | .version major minor =>
      if versioned || major ≠ 1 || minor ≠ 1 then failure
      else
        take
        directives fuel true
    | .tagHandle h e =>
      if (← get).handles.any (·.1 == h) then failure
      else
        modify fun r => { r with handles := r.handles ++ [(h, e)] }
        take
        directives fuel versioned
    | _ => pure ()

/-- the end of the first document: the mark after it, if there is one -/
def documentEnd : Read Unit := do
  if (← peek) = .documentEnd then take

/-- the node of the first document, `none` for a file without one -/
def document (fuel : Nat) : Read (Option Node) := do
  take
  let declared ← match ← peek with
    | .version _ _ | .tagHandle _ _ | .documentStart => pure true
    | .fileEnd => return none
    | _ => pure false
  directives fuel false
  modify fun r => { r with handles := r.handles ++ standardHandles }
  let root ← if declared then do
      if (← peek) ≠ .documentStart then failure
      match ← next with
      | .version _ _ | .tagHandle _ _ | .documentStart | .documentEnd | .fileEnd => pure empty
      | _ => node fuel .block
    else node fuel .block
  documentEnd
  pure (some root)

end Reader

/-- The node of the first document of a text, `some none` for a text without one. What follows the
document is not read. -/
def Node.document? (cs : List Char) : Option (Option Node) := do
  let s ← Scanner.ofText? cs
  let (n, _) ← Reader.document (8 * cs.length + 32) { scanner := s }
  some n

end OrderDesk.Settings.Yaml
