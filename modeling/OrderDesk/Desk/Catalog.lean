import OrderDesk.Desk.State

/-!
# The catalog

* `ProductDraft.check`      a draft with its name trimmed and its price at two places, or a refusal;
* `createProduct`, `updateProduct`, `deleteProduct`, `getProduct`, `listProducts`;
* `createCategory`, `renameCategory`, `deleteCategory`, `getCategory`, `listCategories`.
-/

namespace OrderDesk.Desk

/-- What a product is to be. -/
structure ProductDraft where
  name : String
  price : Decimal
  stock : Int
  deriving DecidableEq, Repr, Inhabited

/-- a name without the blanks around it, of at most `limit` octets -/
def checkName (limit : Nat) (raw : String) : Except Failure String :=
  let name := Text.trim raw
  if name = "" then .error (.cause (.validation "name" .required))
  else if limit < name.utf8ByteSize then .error (.cause (.validation "name" (.tooLong limit)))
  else .ok name

/-- a draft with its name trimmed and its price at two places -/
def ProductDraft.check (p : ProductDraft) : Except Failure ProductDraft := do
  let name ← checkName 120 p.name
  if p.price.isNegative then .error (.cause (.validation "price" .negative))
  else if p.stock < 0 then .error (.cause (.validation "stock" .negative))
  else .ok ⟨name, p.price.round 2, p.stock⟩

def createProduct (draft : ProductDraft) : Action Desk Product := do
  let p ← Action.ofExcept draft.check
  let now ← now
  stored .saveProduct (Store.Products.save ⟨0, p.name, p.price, p.stock, now, now⟩)

/-- gives a product that is there the name, price and stock of a draft -/
def replaceProduct (id : Int) (new : ProductDraft) : Action Desk Product := do
  let p ← stored .lockProduct (Store.Products.lock id)
  let now ← now
  stored .saveProduct (Store.Products.save
    { p with name := new.name, price := new.price, stock := new.stock, updatedAt := now })

/-- gives a product another name, price and stock; orders keep the price they were made with -/
def updateProduct (s : Scope) (id : Int) (draft : ProductDraft) : Action Desk Product := do
  let new ← Action.ofExcept draft.check
  let p ← transaction (replaceProduct id new)
  log s .info "product updated" [("product_id", .int id), ("stock", .int p.stock)]
  return p

def deleteProduct (s : Scope) (id : Int) : Action Desk Unit := do
  Store.onStore (Store.Products.delete id)
  log s .info "product deleted" [("product_id", .int id)]

def getProduct (id : Int) : Action Desk Product := stored .getProduct (Store.Products.get id)

def listProducts (fragment : String) (page : PageRequest) : Action Desk (Page Product) :=
  Store.onStore (Store.Products.list (Text.trim fragment) page)

/-- the category that is being saved: a new one, or the one that is there -/
def categoryToSave (id : Int) (now : Stamp) : Action Desk Category :=
  if id = 0 then pure ⟨0, "", now, now⟩ else Store.onStore (Store.Categories.get id)

def nameCategory (id : Int) (name : String) : Action Desk Category := do
  let now ← now
  let c ← categoryToSave id now
  if ← stored .nameTaken (Store.Categories.nameTaken name id) then
    Action.raise (.conflict "category" "name" name)
  else stored .saveCategory (Store.Categories.save { c with name, updatedAt := now })

/-- Saves a category under a name that no other has, in one transaction; the id zero is new. -/
def saveCategory (id : Int) (raw : String) : Action Desk Category := do
  let name ← Action.ofExcept (checkName 100 raw)
  transaction (nameCategory id name)

def createCategory (raw : String) : Action Desk Category := saveCategory 0 raw

def renameCategory (id : Int) (raw : String) : Action Desk Category := saveCategory id raw

def deleteCategory (id : Int) : Action Desk Unit := Store.onStore (Store.Categories.delete id)

def getCategory (id : Int) : Action Desk Category := Store.onStore (Store.Categories.get id)

/-- every category by name -/
def listCategories : Action Desk (List Category) := Store.onStore Store.Categories.list

end OrderDesk.Desk
