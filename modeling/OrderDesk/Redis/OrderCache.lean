import OrderDesk.Order.Wire
import OrderDesk.Redis.Keyspace

/-!
# The order cache

Whole orders are kept by id. An order that was deleted leaves a mark, so that a reader who loaded
it before cannot bring it back.

* `OrderCache.get`        the cached order; what cannot be read is dropped;
* `OrderCache.set`        the committed state of an order, in the place of whatever was cached;
* `OrderCache.fill`       what a reader loaded, if nothing is cached;
* `OrderCache.evict`      the mark of a deletion.
-/

namespace OrderDesk.OrderCache

def key (id : Int) : String := "order:" ++ toString id

/-- the mark of a deletion -/
def tombstone : String := "-"

def encode (o : Order) : Except Failure String :=
  match o.written with
  | .ok v => .ok v.text
  | .error u => .error (.plain u.message)

def decode? (raw : String) : Option Order :=
  (Json.readWhole? raw.toList).bind (Order.ofDoc? .blank)

def get (id : Int) : Action Redis (Option Order) := do
  match ← Redis.fetch (key id) with
  | none => return none
  | some raw =>
    if raw = tombstone then return none
    else match decode? raw with
      | some o => return some o
      | none =>
        let _ ← (Redis.remove (key id)).attempt
        return none

/-- the committed state of an order -/
def set (nanos : Int) (o : Order) : Action Redis Unit := do
  Redis.put (key o.id) (← Action.ofExcept (encode o)) nanos

/-- what a reader loaded, if nothing is cached -/
def fill (nanos : Int) (o : Order) : Action Redis Unit := do
  let _ ← Redis.putNew (key o.id) (← Action.ofExcept (encode o)) nanos
  return ()

/-- the mark of a deletion -/
def evict (nanos : Int) (id : Int) : Action Redis Unit := Redis.put (key id) tombstone nanos

end OrderDesk.OrderCache
