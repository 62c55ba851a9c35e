import OrderDesk.Json.Decode
import OrderDesk.Json.Value
import OrderDesk.Order.Basic

/-!
# Orders on the wire

Two forms: the whole order, as it is cached, and the summary shown to clients, whose amounts have
two places.

* `Order.written`      the whole order, unless a time cannot be written;
* `Order.ofDoc?`       reads an order over a start value;
* `Summary`            the shape shown to clients;
* `Summary.written`    its members in order.
-/

namespace OrderDesk

open Json (Value Doc)

def Line.value (l : Line) : Value :=
  .obj [("productId", .int l.productId), ("productName", .str l.productName),
    ("quantity", .int l.quantity), ("unitPrice", .str l.unitPrice.text)]

/-- a member that is left out when its text is empty -/
def optionalText (name s : String) : List (String × Value) :=
  if s = "" then [] else [(name, .str s)]

/-- The whole order, unless one of its times has no written form. -/
def Order.written (o : Order) : Except Unwritable Value := do
  let created ← o.createdAt.json
  let updated ← o.updatedAt.json
  let lines := match o.lines with
    | none => Value.null
    | some ls => .arr (ls.map Line.value)
  return .obj ([("id", .int o.id)] ++ optionalText "orderNumber" o.number ++
    [("status", .str o.status.name), ("total", .str o.total.text), ("items", lines),
      ("createdAt", .str created), ("updatedAt", .str updated)])

/-- a line read over another -/
def Line.ofDoc? (start : Line) : Doc → Option Line :=
  Json.object? (fun l k d =>
    if Json.named "productId" k then
      (Json.int? l.productId d).map fun v => { l with productId := v }
    else if Json.named "productName" k then
      (Json.text? l.productName d).map fun v => { l with productName := v }
    else if Json.named "quantity" k then
      (Json.int? l.quantity d).map fun v => { l with quantity := v }
    else if Json.named "unitPrice" k then
      (Json.decimal? l.unitPrice d).map fun v => { l with unitPrice := v }
    else some l) start

/-- the line that an empty object spells -/
def Line.blank : Line := ⟨0, "", 0, .zero⟩

/-- the order that an empty object spells -/
def Order.blank : Order := ⟨0, "", ⟨""⟩, .zero, none, .zero, .zero⟩

/-- one member of an order, with the memory of its list field -/
def Order.readMember? (s : Order × Json.Slots Line) (k : List Char) (d : Doc) :
    Option (Order × Json.Slots Line) :=
  let (o, slots) := s
  if Json.named "id" k then (Json.int? o.id d).map fun v => ({ o with id := v }, slots)
  else if Json.named "orderNumber" k then
    (Json.text? o.number d).map fun v => ({ o with number := v }, slots)
  else if Json.named "status" k then
    (Json.text? o.status.name d).map fun v => ({ o with status := ⟨v⟩ }, slots)
  else if Json.named "total" k then
    (Json.decimal? o.total d).map fun v => ({ o with total := v }, slots)
  else if Json.named "items" k then
    (slots.read? Line.ofDoc? Line.blank d).map fun v => ({ o with lines := v.items }, v)
  else if Json.named "createdAt" k then
    (Json.stamp? o.createdAt d).map fun v => ({ o with createdAt := v }, slots)
  else if Json.named "updatedAt" k then
    (Json.stamp? o.updatedAt d).map fun v => ({ o with updatedAt := v }, slots)
  else some s

/-- an order read over another -/
def Order.ofDoc? (start : Order) (d : Doc) : Option Order :=
  (Json.object? Order.readMember? (start, ⟨start.lines, []⟩) d).map Prod.fst

/-- A line as shown to clients. -/
structure LineSummary where
  productId : Int
  productName : String
  quantity : Int
  unitPrice : String
  subtotal : String
  deriving DecidableEq, Repr, Inhabited

/-- An order as shown to clients. -/
structure Summary where
  id : Int
  number : String
  status : String
  total : String
  createdAt : Stamp
  updatedAt : Stamp
  items : List LineSummary
  deriving DecidableEq, Repr, Inhabited

/-- a line with its amounts at two places -/
def Line.summary (l : Line) : LineSummary :=
  ⟨l.productId, l.productName, l.quantity, l.unitPrice.fixed, l.subtotal.fixed⟩

/-- an order with its amounts at two places -/
def Order.summary (o : Order) : Summary :=
  { id := o.id, number := o.number, status := o.status.name, total := o.total.fixed,
    createdAt := o.createdAt, updatedAt := o.updatedAt, items := o.items.map Line.summary }

def LineSummary.value (l : LineSummary) : Value :=
  .obj [("productId", .int l.productId), ("productName", .str l.productName),
    ("quantity", .int l.quantity), ("unitPrice", .str l.unitPrice), ("subtotal", .str l.subtotal)]

/-- The members of a summary, unless one of its times has no written form. -/
def Summary.written (s : Summary) : Except Unwritable Value := do
  let created ← s.createdAt.json
  let updated ← s.updatedAt.json
  return .obj ([("id", .int s.id)] ++ optionalText "orderNumber" s.number ++
    [("status", .str s.status), ("total", .str s.total), ("createdAt", .str created),
      ("updatedAt", .str updated), ("items", .arr (s.items.map LineSummary.value))])

end OrderDesk
