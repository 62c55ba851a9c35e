import OrderDesk.Page
import OrderDesk.Store.Backend

/-!
# Products in the store

* `Products.get`, `Products.lock`      a product, the second one kept for the transaction;
* `Products.save`                      a product without id is new, any other has to be there;
* `Products.delete`;
* `Products.list`                      one page by id, of those whose name has a fragment.
-/

namespace OrderDesk.Store.Products

/-- the cause when a product is not there -/
def missing (id : Int) : Cause := .notFound "product" id

def scan : Row → Except Failure Product :=
  scanRow 6 fun
    | [id, name, price, stock, createdAt, updatedAt] => do
      some ⟨← id.int?, ← name.text?, ← price.amount?, ← stock.int?, ← createdAt.time?,
        ← updatedAt.time?⟩
    | _ => none

/-- a product, kept for the transaction if `keep` says so -/
def read (keep : Bool) (id : Int) : Action Backend Product :=
  readOne ("get product " ++ toString id) (missing id) scan (.selectProduct id keep)

def get (id : Int) : Action Backend Product := read false id

/-- a product whose row is kept for the transaction -/
def lock (id : Int) : Action Backend Product := read true id

/-- stores a product, and gives it back with its id -/
def save (p : Product) : Action Backend Product :=
  if p.id = 0 then do
    let id ← (insertNew (.insertProduct p.name p.price p.stock p.createdAt p.updatedAt)).context
      "insert product"
    return { p with id }
  else do
    changeOne ("update product " ++ toString p.id) (missing p.id)
      (.updateProduct p.id p.name p.price p.stock p.updatedAt)
    return p

/-- removes a product; the lines of orders keep their copy of it -/
def delete (id : Int) : Action Backend Unit :=
  changeOne ("delete product " ++ toString id) (missing id) (.deleteProduct id)

/-- the pattern of a fragment; an empty one is none -/
def pattern (fragment : String) : Option String :=
  if fragment = "" then none else some ("%" ++ Text.lower fragment ++ "%")

def list (fragment : String) (page : PageRequest) : Action Backend (Page Product) := do
  let p := pattern fragment
  let total ← (firstRow scanInt (.countProducts p)).context "count products"
  let content ← allRows "list products" scan (.listProducts p page.size page.offset)
  return ⟨content, page.number, page.size, total⟩

end OrderDesk.Store.Products
