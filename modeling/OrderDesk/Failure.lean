import OrderDesk.Json.Value
import OrderDesk.Number.Decimal
import OrderDesk.Order.Status

/-!
# Failures

A failure is a cause under any number of contexts, or two failures side by side when undoing a
change failed as well.

* `Reason`              why a field is invalid;
* `Cause`               what went wrong;
* `Failure`             a cause with the contexts it passed through;
* `Failure.message`     the wording, contexts first;
* `Failure.kind`        the class by which callers decide, which no context changes.
-/

namespace OrderDesk

/-- Why a field is invalid. -/
inductive Reason where
  | required
  | empty
  | belowOne
  | above (limit : Int)
  | tooLong (limit : Nat)
  | negative
  | notPositive
  | notNatural
  | malformed
  | unknownStatus (raw : Octets)
  | other (text : String)
  deriving DecidableEq, Repr

/-- the wording of a reason, in octets, since a status is repeated as it was sent -/
def Reason.octets : Reason → Octets
  | .required => Octets.ofText "is required"
  | .empty => Octets.ofText "must not be empty"
  | .belowOne => Octets.ofText "must be at least 1"
  | .above n => Octets.ofText ("must be at most " ++ toString n)
  | .tooLong n => Octets.ofText ("must be at most " ++ toString n ++ " characters")
  | .negative => Octets.ofText "must not be negative"
  | .notPositive => Octets.ofText "must be a positive integer"
  | .notNatural => Octets.ofText "must be a non-negative integer"
  | .malformed => Octets.ofText "malformed JSON"
  | .unknownStatus raw => Octets.ofText "unknown status " ++ raw
  | .other s => Octets.ofText s

def Reason.text (r : Reason) : String := Octets.lossyText r.octets

/-- What went wrong. -/
inductive Cause where
  | validation (field : String) (reason : Reason)
  | notFound (entity : String) (id : Int)
  | insufficientStock (productId : Int) (name : String) (requested available : Int)
  | valueExceeded (total limit : Decimal)
  | mismatch (orderId : Int) (total items : Decimal)
  | invalidMove (source target : Status)
  | conflict (entity field value : String)
  | duplicate
  | poison
  | noRows
  | plain (text : String)
  deriving DecidableEq, Repr

def Cause.message : Cause → String
  | .validation field reason => field ++ ": " ++ reason.text
  | .notFound entity id => entity ++ " " ++ toString id ++ " not found"
  | .insufficientStock _ name requested available =>
    "insufficient stock for product " ++ name ++ ": requested " ++ toString requested ++
      ", available " ++ toString available
  | .valueExceeded total limit =>
    "order value exceeded: total " ++ total.fixed ++ " is above the limit of " ++ limit.fixed
  | .mismatch orderId total items =>
    "order " ++ toString orderId ++ ": total " ++ total.fixed ++ " does not match items " ++
      items.fixed
  | .invalidMove source target =>
    "invalid status transition: " ++ source.name ++ " -> " ++ target.name
  | .conflict entity field value =>
    entity ++ " with " ++ field ++ " " ++ Text.quoted value ++ " already exists"
  | .duplicate => "duplicate idempotency key"
  | .poison => "poison message"
  | .noRows => "sql: no rows in result set"
  | .plain text => text

/-- A cause under contexts, or two failures side by side. -/
inductive Failure where
  | cause (c : Cause)
  | within (context : String) (inner : Failure)
  | both (first second : Failure)
  deriving DecidableEq, Repr

namespace Failure

/-- a failure known by its wording only -/
def plain (text : String) : Failure := .cause (.plain text)

/-- the causes, the outermost first one in front -/
def causes : Failure → List Cause
  | .cause c => [c]
  | .within _ f => f.causes
  | .both f g => f.causes ++ g.causes

/-- the wording: each context and a colon, then the cause; two failures on two lines -/
def message : Failure → String
  | .cause c => c.message
  | .within context f => context ++ ": " ++ f.message
  | .both f g => f.message ++ "\n" ++ g.message

def has (p : Cause → Bool) (f : Failure) : Bool := f.causes.any p

end Failure

/-- The classes of failures. -/
inductive Kind where
  | validation
  | notFound
  | insufficientStock
  | valueExceeded
  | invalidMove
  | duplicate
  | conflict
  | other
  deriving DecidableEq, Repr

def Cause.kind : Cause → Kind
  | .validation .. => .validation
  | .notFound .. => .notFound
  | .insufficientStock .. => .insufficientStock
  | .valueExceeded .. => .valueExceeded
  | .invalidMove .. => .invalidMove
  | .conflict .. => .conflict
  | .duplicate => .duplicate
  | _ => .other

/-- the order in which the classes are looked for -/
def Kind.all : List Kind :=
  [.validation, .notFound, .insufficientStock, .valueExceeded, .invalidMove, .duplicate, .conflict]

/-- the first class that one of the causes has -/
def Failure.kind (f : Failure) : Kind :=
  (Kind.all.find? fun k => f.has (·.kind == k)).getD .other

end OrderDesk
