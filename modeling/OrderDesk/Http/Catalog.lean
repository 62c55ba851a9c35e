import OrderDesk.Desk.Catalog
import OrderDesk.Http.Orders

/-!
# Requests on the catalog

* `createProduct`, `updateProduct`, `deleteProduct`, `getProduct`, `listProducts`;
* `createCategory`, `renameCategory`, `deleteCategory`, `getCategory`, `listCategories`.
-/

namespace OrderDesk.Http

open Desk (ProductDraft)
open Json (Value Doc)

def writtenTimes (createdAt updatedAt : Stamp) : Except Unwritable (List (String × Value)) := do
  return [("createdAt", .str (← createdAt.json)), ("updatedAt", .str (← updatedAt.json))]

def writtenProduct (p : Product) : Except Unwritable Value := do
  return .obj ([("id", .int p.id), ("name", .str p.name), ("price", .str p.price.fixed),
    ("stock", .int p.stock)] ++ (← writtenTimes p.createdAt p.updatedAt))

def writtenCategory (c : Category) : Except Unwritable Value := do
  return .obj ([("id", .int c.id), ("name", .str c.name)] ++
    (← writtenTimes c.createdAt c.updatedAt))

def readDraft? (p : ProductDraft) (k : List Char) (d : Doc) : Option ProductDraft :=
  if Json.named "name" k then (Json.text? p.name d).map fun v => { p with name := v }
  else if Json.named "price" k then (Json.decimal? p.price d).map fun v => { p with price := v }
  else if Json.named "stock" k then (Json.int? p.stock d).map fun v => { p with stock := v }
  else some p

def requestedDraft? (r : Request) : Option ProductDraft := do
  Json.object? readDraft? ⟨"", .zero, 0⟩ (← bodyDoc? r)

def requestedName? (r : Request) : Option String := do
  Json.object? (fun name k d => if Json.named "name" k then Json.text? name d else some name) ""
    (← bodyDoc? r)

/-- goes on with what a body holds -/
def withBody {α : Type} (x : Option α) (f : α → Action Desk Answer) : Action Desk Answer :=
  match x with
  | some a => f a
  | none => pure .malformed

def createProduct (s : Scope) (r : Request) : Action Desk Answer :=
  withBody (requestedDraft? r) fun draft =>
    Answer.of s (Desk.createProduct draft) fun p =>
      (Answer.written 201 (writtenProduct p)).withHeader "Location"
        ("/v1/products/" ++ toString p.id)

/-- another name, price and stock of a product -/
def updateProduct (s : Scope) (id : Octets) (r : Request) : Action Desk Answer :=
  orAnswer (pathId id) fun id => withBody (requestedDraft? r) fun draft =>
    Answer.of s (Desk.updateProduct s id draft) fun p => .written 200 (writtenProduct p)

def deleteProduct (s : Scope) (id : Octets) : Action Desk Answer :=
  orAnswer (pathId id) fun id => Answer.of s (Desk.deleteProduct s id) fun _ => .noContent

def getProduct (s : Scope) (id : Octets) : Action Desk Answer :=
  orAnswer (pathId id) fun id =>
    Answer.of s (Desk.getProduct id) fun p => .written 200 (writtenProduct p)

def listProducts (l : Limits) (s : Scope) (r : Request) : Action Desk Answer :=
  orAnswer (pageOf l r) fun page =>
    Answer.of s (Desk.listProducts (Octets.lossyText (r.queryValue "name")) page) fun p =>
      .written 200 (writtenPage writtenProduct p)

def createCategory (s : Scope) (r : Request) : Action Desk Answer :=
  withBody (requestedName? r) fun name =>
    Answer.of s (Desk.createCategory name) fun c =>
      (Answer.written 201 (writtenCategory c)).withHeader "Location"
        ("/v1/categories/" ++ toString c.id)

def renameCategory (s : Scope) (id : Octets) (r : Request) : Action Desk Answer :=
  orAnswer (pathId id) fun id => withBody (requestedName? r) fun name =>
    Answer.of s (Desk.renameCategory id name) fun c => .written 200 (writtenCategory c)

def deleteCategory (s : Scope) (id : Octets) : Action Desk Answer :=
  orAnswer (pathId id) fun id => Answer.of s (Desk.deleteCategory id) fun _ => .noContent

def getCategory (s : Scope) (id : Octets) : Action Desk Answer :=
  orAnswer (pathId id) fun id =>
    Answer.of s (Desk.getCategory id) fun c => .written 200 (writtenCategory c)

def listCategories (s : Scope) : Action Desk Answer :=
  Answer.of s Desk.listCategories fun cs =>
    .written 200 ((allWritten writtenCategory cs).map .arr)

end OrderDesk.Http
