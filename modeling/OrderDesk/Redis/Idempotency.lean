import OrderDesk.Redis.Keyspace

/-!
# Idempotency keys

A client's key is locked while its request runs; once an order is stored, the key remembers the
order.

* `Idempotency.tryLock`       takes the lock, if nobody has it;
* `Idempotency.release`       gives it back, so that a failed request can be tried again;
* `Idempotency.remember`      what a key led to;
* `Idempotency.lookBack`      what a key led to before.
-/

namespace OrderDesk.Idempotency

/-- where the lock of a client's key is kept -/
def lockKey (scope key : String) : String := "idemp:" ++ scope ++ ":" ++ key

/-- where the result of a client's key is kept -/
def resultKey (scope key : String) : String := "idemp:map:" ++ scope ++ ":" ++ key

/-- takes the lock, if nobody has it -/
def tryLock (nanos : Int) (scope key : String) : Action Redis Bool :=
  Redis.putNew (lockKey scope key) "1" nanos

def release (scope key : String) : Action Redis Unit := Redis.remove (lockKey scope key)

/-- notes what a key led to -/
def remember (nanos : Int) (scope key value : String) : Action Redis Unit :=
  Redis.put (resultKey scope key) value nanos

/-- what a key led to before -/
def lookBack (scope key : String) : Action Redis (Option String) :=
  Redis.fetch (resultKey scope key)

end OrderDesk.Idempotency
