import OrderDesk.Desk.Orders
import OrderDesk.Http.Answer

/-!
# Requests on orders

* `Limits`              the checks before a request reaches the desk;
* `requestFaults`       every field of a requested order that is wrong;
* `pathId`, `pageOf`    the number in the path, and the page that is asked for;
* `createOrder`, `getOrder`, `listOrders`, `changeStatus`, `deleteOrder`.
-/

namespace OrderDesk.Http

open Desk (ItemRequest OrderRequest)
open Json (Value Doc)

/-- The checks before a request reaches the desk. -/
structure Limits where
  maxItemQuantity : Int
  defaultPageSize : Int
  maxPageSize : Int
  deriving DecidableEq, Repr, Inhabited

/-- a requested line read over another -/
def readItem? (start : ItemRequest) : Doc → Option ItemRequest :=
  Json.object? (fun i k d =>
    if Json.named "productId" k then
      (Json.int? i.productId d).map fun v => { i with productId := v }
    else if Json.named "quantity" k then
      (Json.int? i.quantity d).map fun v => { i with quantity := v }
    else some i) start

def readItems? (slots : Json.Slots ItemRequest) (k : List Char) (d : Doc) :
    Option (Json.Slots ItemRequest) :=
  if Json.named "items" k then slots.read? readItem? ⟨0, 0⟩ d else some slots

/-- the first document of a body -/
def bodyDoc? (r : Request) : Option Doc := (Json.read? (Octets.lossy r.body)).map Prod.fst

def requestedItems? (r : Request) : Option (List ItemRequest) := do
  let slots ← Json.object? readItems? {} (← bodyDoc? r)
  some (slots.items.getD [])

/-- what is wrong with the `i`-th line -/
def itemFaults (maxQuantity : Int) (i : Nat) (it : ItemRequest) : List (String × Reason) :=
  (if it.productId ≤ 0 then [(Desk.itemField i "productId", .required)] else []) ++
    (if it.quantity < 1 then [(Desk.itemField i "quantity", .belowOne)]
     else if 0 < maxQuantity ∧ maxQuantity < it.quantity then
      [(Desk.itemField i "quantity", .above maxQuantity)]
     else [])

/-- what is wrong with the lines from the `i`-th on -/
def itemsFaults (maxQuantity : Int) (i : Nat) : List ItemRequest → List (String × Reason)
  | [] => []
  | it :: its => itemFaults maxQuantity i it ++ itemsFaults maxQuantity (i + 1) its

/-- every field of a requested order that is wrong -/
def requestFaults (maxQuantity : Int) (items : List ItemRequest) : List (String × Reason) :=
  if items.isEmpty then [("items", .empty)] else itemsFaults maxQuantity 0 items

/-- a positive number in the path -/
def pathId (raw : Octets) : Except Answer Int :=
  match raw.toText?.bind Word.parseInt? with
  | some id =>
    if 0 < id then .ok id else .error (.invalid [("id", .notPositive)])
  | none => .error (.invalid [("id", .notPositive)])

/-- a number of the query that is at least `least`; without one it is zero -/
def queryNumber (r : Request) (name : String) (least : Int) : Option Int :=
  let raw := r.queryValue name
  if raw.isEmpty then some 0
  else match raw.toText?.bind Word.parseInt? with
    | some n => if least ≤ n then some n else none
    | none => none

/-- the page that is asked for, within the limits -/
def pageOf (l : Limits) (r : Request) : Except Answer PageRequest :=
  match queryNumber r "page" 0, queryNumber r "size" 1 with
  | some number, some size =>
    .ok (PageRequest.normalize ⟨number, size⟩ l.defaultPageSize l.maxPageSize)
  | none, some _ => .error (.invalid [("page", .notNatural)])
  | some _, none => .error (.invalid [("size", .notPositive)])
  | none, none => .error (.invalid [("page", .notNatural), ("size", .notPositive)])

/-- the values of a list, all of them writable -/
def allWritten {α : Type} (f : α → Except Unwritable Value) :
    List α → Except Unwritable (List Value)
  | [] => .ok []
  | a :: as => do
    let v ← f a
    let vs ← allWritten f as
    return v :: vs

def writtenPage {α : Type} (f : α → Except Unwritable Value) (p : Page α) :
    Except Unwritable Value := do
  let content ← allWritten f p.content
  return .obj [("content", .arr content), ("page", .int p.number), ("size", .int p.size),
    ("totalElements", .int p.total), ("totalPages", .int p.pages)]

/-- goes on with a value, or answers -/
def orAnswer {α : Type} : Except Answer α → (α → Action Desk Answer) → Action Desk Answer
  | .ok a, f => f a
  | .error a, _ => pure a

def createOrder (l : Limits) (s : Scope) (client : Option String) (r : Request) :
    Action Desk Answer :=
  match requestedItems? r with
  | none => pure .malformed
  | some items =>
    match requestFaults l.maxItemQuantity items with
    | [] =>
      let request : OrderRequest := ⟨client.getD "", r.header "X-Idempotency-Key", items⟩
      Answer.of s (Desk.createOrder s request) fun o =>
        (Answer.written 201 o.written).withHeader "Location" ("/v1/orders/" ++ toString o.id)
    | faults => pure (.invalid faults)

def getOrder (s : Scope) (id : Octets) : Action Desk Answer :=
  orAnswer (pathId id) fun id => Answer.of s (Desk.getOrder s id) fun o => .written 200 o.written

/-- the status that is asked for, if one is -/
def statusFilter (r : Request) : Except Failure (Option Status) :=
  let raw := r.queryValue "status"
  if raw.isEmpty then .ok none else (Status.parse raw).map some

def listOrders (l : Limits) (s : Scope) (r : Request) : Action Desk Answer :=
  orAnswer (pageOf l r) fun page =>
    Answer.of s (do
      let filter ← Action.ofExcept (statusFilter r)
      Desk.listOrders filter page) fun p => .written 200 (writtenPage Summary.written p)

def changeStatus (s : Scope) (id : Octets) (r : Request) : Action Desk Answer :=
  orAnswer (pathId id) fun id =>
    let raw := r.queryValue "status"
    if raw.isEmpty then pure (.invalid [("status", .required)])
    else Answer.of s (do
      let target ← Action.ofExcept (Status.parse raw)
      Desk.changeStatus s id target) fun _ => .noContent

def deleteOrder (s : Scope) (id : Octets) : Action Desk Answer :=
  orAnswer (pathId id) fun id => Answer.of s (Desk.deleteOrder s id) fun _ => .noContent

end OrderDesk.Http
