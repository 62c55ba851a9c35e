import OrderDesk.Store.Backend

/-!
# Categories in the store

* `Categories.get`, `Categories.save`, `Categories.delete`;
* `Categories.nameTaken`      does another category have this name, in any casing;
* `Categories.list`           every category, by name without case.
-/

namespace OrderDesk.Store.Categories

/-- the cause when a category is not there -/
def missing (id : Int) : Cause := .notFound "category" id

def scan : Row → Except Failure Category :=
  scanRow 4 fun
    | [id, name, createdAt, updatedAt] => do
      some ⟨← id.int?, ← name.text?, ← createdAt.time?, ← updatedAt.time?⟩
    | _ => none

def get (id : Int) : Action Backend Category :=
  readOne ("get category " ++ toString id) (missing id) scan (.selectCategory id)

/-- does a category other than `besides` have this name, in any casing -/
def nameTaken (name : String) (besides : Int) : Action Backend Bool := do
  let n ← (firstRow scanInt (.countCategories name besides)).context "check category name"
  return decide (0 < n)

/-- stores a category, and gives it back with its id -/
def save (c : Category) : Action Backend Category :=
  if c.id = 0 then do
    let id ← (insertNew (.insertCategory c.name c.createdAt c.updatedAt)).context
      "insert category"
    return { c with id }
  else do
    changeOne ("update category " ++ toString c.id) (missing c.id)
      (.updateCategory c.id c.name c.updatedAt)
    return c

def delete (id : Int) : Action Backend Unit :=
  changeOne ("delete category " ++ toString id) (missing id) (.deleteCategory id)

/-- every category, by name without case -/
def list : Action Backend (List Category) := allRows "list categories" scan .listCategories

end OrderDesk.Store.Categories
