import OrderDesk.Text.Octets

/-!
# Paths

A path is a row of segments with slashes between them; it begins at the root if a slash comes
first.

* `tidy`      a path without empty segments, `.` and `..`;
* `folder`    the part of a path up to its last slash.
-/

namespace OrderDesk.Path

/-- The segments that are left, the last one first: `..` takes away the one before it. At the start
of a path that does not begin at the root it stays. -/
def tidySegments (rooted : Bool) : List Octets → List Octets → List Octets
  | kept, [] => kept
  | kept, s :: rest =>
    if s = [] ∨ s = [0x2E] then tidySegments rooted kept rest
    else if s = [0x2E, 0x2E] then
      match kept with
      | [] => tidySegments rooted (if rooted then [] else [s]) rest
      | k :: ks => tidySegments rooted (if k = [0x2E, 0x2E] then s :: k :: ks else ks) rest
    else tidySegments rooted (s :: kept) rest

/-- a path without empty segments, `.` and `..` -/
def tidy (path : Octets) : Octets :=
  let rooted := path.head? == some 0x2F
  let kept := (tidySegments rooted [] (Octets.splitAtMark 0x2F path)).reverse
  if rooted then 0x2F :: List.intercalate [0x2F] kept
  else if kept.isEmpty then [0x2E]
  else List.intercalate [0x2F] kept

/-- the part of a path up to its last slash -/
def folder (path : Octets) : Octets := (path.reverse.dropWhile (· != 0x2F)).reverse

end OrderDesk.Path
