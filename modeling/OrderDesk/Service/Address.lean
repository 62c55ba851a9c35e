import OrderDesk.Failure

/-!
# Addresses to listen on

* `splitHost?`      the host and the number of an address, which the last colon divides;
* `canListen`       can the service listen on an address.
-/

namespace OrderDesk.Service

/-- the host of an address in brackets, without them, and what follows it -/
def bracketed? (cs : List Char) : Option (List Char × List Char) :=
  let host := cs.takeWhile (· != ']')
  match cs.dropWhile (· != ']') with
  | _ :: ':' :: number => some (host, number)
  | _ => none

/-- the host and the number of an address; a host with colons of its own stands in brackets -/
def splitHost? : List Char → Option (List Char × List Char)
  | '[' :: cs => bracketed? cs
  | cs =>
    match cs.dropWhile (· != ':') with
    | _ :: number =>
      if number.contains ':' then none else some (cs.takeWhile (· != ':'), number)
    | [] => none

/-- the value of a text of digits, of which none is zero -/
def digitsValue? (cs : List Char) : Option Nat :=
  if cs.all Char.isDigit then some (cs.foldl (fun n c => n * 10 + (c.toNat - 48)) 0) else none

/-- is this the number of a place on a host, or a usual name for one -/
def isNumber (cs : List Char) : Bool :=
  match digitsValue? cs with
  | some n => n ≤ 65535
  | none => ["http", "https"].contains (String.ofList cs)

/-- does a name mean this host -/
def isThisHost (cs : List Char) : Bool :=
  let s := String.ofList cs
  ["", "localhost", "0.0.0.0", "::", "::1"].contains s || s.startsWith "127."

def canListen (address : String) : Bool :=
  match splitHost? address.toList with
  | some (host, number) => isThisHost host && isNumber number
  | none => false

end OrderDesk.Service
