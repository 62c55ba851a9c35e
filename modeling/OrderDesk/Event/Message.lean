import OrderDesk.Order.Wire

/-!
# Messages

* `Created`            an order was committed;
* `StatusChanged`      an order moved to another status;
* `PaymentOutcome`     what the payment gateway reports on an order.

Each has the members it is written with and a reader over a start value.
-/

namespace OrderDesk

open Json (Value Doc)

/-- A line of a creation message. -/
structure CreatedItem where
  productId : Int
  quantity : Int
  deriving DecidableEq, Repr, Inhabited

/-- An order was committed. -/
structure Created where
  orderId : Int
  number : String
  total : String
  items : Option (List CreatedItem)
  deriving DecidableEq, Repr, Inhabited

/-- An order moved to another status. -/
structure StatusChanged where
  orderId : Int
  source : String
  target : String
  deriving DecidableEq, Repr, Inhabited

/-- What the payment gateway reports on an order. -/
structure PaymentOutcome where
  orderId : Int
  status : String
  deriving DecidableEq, Repr, Inhabited

def Order.created (o : Order) : Created :=
  ⟨o.id, o.number, o.total.fixed, some (o.items.map fun l => ⟨l.productId, l.quantity⟩)⟩

def CreatedItem.value (i : CreatedItem) : Value :=
  .obj [("productId", .int i.productId), ("quantity", .int i.quantity)]

def Created.value (m : Created) : Value :=
  let items := match m.items with
    | none => Value.null
    | some is => .arr (is.map CreatedItem.value)
  .obj ([("orderId", .int m.orderId)] ++ optionalText "orderNumber" m.number ++
    [("total", .str m.total), ("items", items)])

def StatusChanged.value (m : StatusChanged) : Value :=
  .obj [("orderId", .int m.orderId), ("from", .str m.source), ("to", .str m.target)]

/-- a line read over another -/
def CreatedItem.ofDoc? (start : CreatedItem) : Doc → Option CreatedItem :=
  Json.object? (fun i k d =>
    if Json.named "productId" k then
      (Json.int? i.productId d).map fun v => { i with productId := v }
    else if Json.named "quantity" k then
      (Json.int? i.quantity d).map fun v => { i with quantity := v }
    else some i) start

/-- one member of a creation message, with the memory of its list field -/
def Created.readMember? (s : Created × Json.Slots CreatedItem) (k : List Char) (d : Doc) :
    Option (Created × Json.Slots CreatedItem) :=
  let (m, slots) := s
  if Json.named "orderId" k then
    (Json.int? m.orderId d).map fun v => ({ m with orderId := v }, slots)
  else if Json.named "orderNumber" k then
    (Json.text? m.number d).map fun v => ({ m with number := v }, slots)
  else if Json.named "total" k then
    (Json.text? m.total d).map fun v => ({ m with total := v }, slots)
  else if Json.named "items" k then
    (slots.read? CreatedItem.ofDoc? ⟨0, 0⟩ d).map fun v => ({ m with items := v.items }, v)
  else some s

def Created.ofDoc? (d : Doc) : Option Created :=
  (Json.object? Created.readMember? (⟨0, "", "", none⟩, {}) d).map Prod.fst

def StatusChanged.ofDoc? : Doc → Option StatusChanged :=
  Json.object? (fun m k d =>
    if Json.named "orderId" k then (Json.int? m.orderId d).map fun v => { m with orderId := v }
    else if Json.named "from" k then (Json.text? m.source d).map fun v => { m with source := v }
    else if Json.named "to" k then (Json.text? m.target d).map fun v => { m with target := v }
    else some m) ⟨0, "", ""⟩

def PaymentOutcome.ofDoc? : Doc → Option PaymentOutcome :=
  Json.object? (fun m k d =>
    if Json.named "orderId" k then (Json.int? m.orderId d).map fun v => { m with orderId := v }
    else if Json.named "status" k then (Json.text? m.status d).map fun v => { m with status := v }
    else some m) ⟨0, ""⟩

end OrderDesk
