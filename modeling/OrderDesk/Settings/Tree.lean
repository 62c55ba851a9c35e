import OrderDesk.Number.Literal

/-!
# Trees of settings

* `Tree`            scalars, lists and maps with named children;
* `Tree.merge`      lays one tree over another, map by map;
* `putText`         sets a text under a path.
-/

namespace OrderDesk.Settings

/-- A tree of settings. A number may be infinite or undefined; no setting is a moment in time. -/
inductive Tree where
  | null
  | bool (b : Bool)
  | int (n : Int)
  | float (x : Real64)
  | text (s : String)
  | moment
  | seq (items : List Tree)
  | map (children : List (String × Tree))
  deriving Inhabited

def child? (name : String) : List (String × Tree) → Option Tree
  | [] => none
  | (k, t) :: rest => if k = name then some t else child? name rest

/-- puts a child in the place of one of the same name, or at the end -/
def putChild (name : String) (t : Tree) : List (String × Tree) → List (String × Tree)
  | [] => [(name, t)]
  | (k, u) :: rest => if k = name then (k, t) :: rest else (k, u) :: putChild name t rest

mutual

/-- `upper` laid over `lower`: two maps are laid over each other, anything else replaces -/
def Tree.merge (upper lower : Tree) : Tree :=
  match upper, lower with
  | .map us, .map ls => .map (mergeChildren us ls)
  | u, _ => u

/-- lays children over children, one after the other -/
def mergeChildren : List (String × Tree) → List (String × Tree) → List (String × Tree)
  | [], ls => ls
  | (k, u) :: us, ls =>
    let t := match child? k ls with
      | some l => u.merge l
      | none => u
    mergeChildren us (putChild k t ls)

end

/-- Sets a text under a path; a text hides what would lie under it. -/
def putText (value : String) : List String → List (String × Tree) → List (String × Tree)
  | [], ms => ms
  | [k], ms => putChild k (.text value) ms
  | k :: path, ms =>
    match child? k ms with
    | none => putChild k (.map (putText value path [])) ms
    | some (.map us) => putChild k (.map (putText value path us)) ms
    | some _ => ms

end OrderDesk.Settings
