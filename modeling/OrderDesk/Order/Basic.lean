import OrderDesk.Failure
import OrderDesk.Time.Stamp

/-!
# Products, orders and categories

* `Product.reserve`        takes units out of stock, or refuses;
* `Order.start`            an empty order awaiting payment;
* `Order.addLine`          appends a line at the product's present price;
* `Order.itemTotal`        the sum of the lines;
* `Order.moveTo`           changes the status, if the move is allowed;
* `Status.parse`           a status from what was sent.
-/

namespace OrderDesk

/-- A catalog record. -/
structure Product where
  id : Int
  name : String
  price : Decimal
  stock : Int
  createdAt : Stamp
  updatedAt : Stamp
  deriving DecidableEq, Repr, Inhabited

/-- A named grouping of the catalog. -/
structure Category where
  id : Int
  name : String
  createdAt : Stamp
  updatedAt : Stamp
  deriving DecidableEq, Repr, Inhabited

/-- One line of an order, with the name and price the product had when it was ordered. -/
structure Line where
  productId : Int
  productName : String
  quantity : Int
  unitPrice : Decimal
  deriving DecidableEq, Repr, Inhabited

/-- An order. `lines` is absent until a line is added or the order is read from the store; an
order without a number has the empty number. -/
structure Order where
  id : Int
  number : String
  status : Status
  total : Decimal
  lines : Option (List Line)
  createdAt : Stamp
  updatedAt : Stamp
  deriving DecidableEq, Repr, Inhabited

def Status.parse (raw : Octets) : Except Failure Status :=
  match Status.ofText? (Octets.lossyText raw) with
  | some s => .ok s
  | none => .error (.cause (.validation "status" (.unknownStatus raw)))

/-- takes `qty` units out of stock; a refusal leaves the stock as it was -/
def Product.reserve (p : Product) (qty : Int) : Except Failure Product :=
  if qty < 1 then .error (.cause (.validation "quantity" .belowOne))
  else if p.stock < qty then .error (.cause (.insufficientStock p.id p.name qty p.stock))
  else .ok { p with stock := p.stock - qty }

def Line.subtotal (l : Line) : Decimal := l.unitPrice.mul (.ofInt l.quantity)

namespace Order

/-- an order without lines, awaiting payment -/
def start (number : String) (now : Stamp) : Order :=
  { id := 0, number, status := .pending, total := .zero, lines := none, createdAt := now,
    updatedAt := now }

/-- the lines, none when they are absent -/
def items (o : Order) : List Line := o.lines.getD []

def lineOf (p : Product) (qty : Int) : Line := ⟨p.id, p.name, qty, p.price⟩

/-- appends a line priced from the product and adds its subtotal to the total -/
def addLine (o : Order) (p : Product) (qty : Int) : Order :=
  let l := lineOf p qty
  { o with lines := some (o.items ++ [l]), total := o.total.add l.subtotal }

def itemTotal (o : Order) : Decimal := .sum (o.items.map Line.subtotal)

/-- moves to `t` at `now`, if the move is allowed -/
def moveTo (o : Order) (t : Status) (now : Stamp) : Except Failure Order :=
  if o.status.canMoveTo t then .ok { o with status := t, updatedAt := now }
  else .error (.cause (.invalidMove o.status t))

def checkValue (o : Order) (limit : Decimal) : Except Failure Unit :=
  if o.total.gt limit then .error (.cause (.valueExceeded o.total limit)) else .ok ()

end Order

end OrderDesk
