import OrderDesk.Number.Word

/-!
# Pages of a listing

* `PageRequest`               a page number from zero and a size;
* `PageRequest.offset`        how many rows lie before the page;
* `PageRequest.normalize`     the request within the configured bounds;
* `Page`                      one page with the number of all rows;
* `Page.pages`                how many pages there are.
-/

namespace OrderDesk

/-- A page asked for. -/
structure PageRequest where
  number : Int
  size : Int
  deriving DecidableEq, Repr, Inhabited

/-- how many rows lie before the page -/
def PageRequest.offset (p : PageRequest) : Int := Word.wrap (p.number * p.size)

/-- A negative number is zero, a size below one is the usual size, and a positive greatest size
bounds it. -/
def PageRequest.normalize (p : PageRequest) (usual greatest : Int) : PageRequest :=
  let number := if p.number < 0 then 0 else p.number
  let size := if p.size ≤ 0 then usual else p.size
  ⟨number, if 0 < greatest ∧ greatest < size then greatest else size⟩

/-- One page of a listing. -/
structure Page (α : Type) where
  content : List α
  number : Int
  size : Int
  total : Int
  deriving Repr, Inhabited

/-- how many pages there are, zero when the size is none -/
def Page.pages {α : Type} (p : Page α) : Int :=
  if p.size ≤ 0 then 0 else Word.wrap ((Word.wrap (p.total + p.size - 1)).tdiv p.size)

/-- a page with its content converted -/
def Page.map {α β : Type} (f : α → β) (p : Page α) : Page β :=
  ⟨p.content.map f, p.number, p.size, p.total⟩

end OrderDesk
