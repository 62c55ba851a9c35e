/-!
# Clients and their permissions

* `ordersRead` and the like     the four permissions, by name;
* `registered`                   the clients the service knows;
* `authenticate`                 the enabled client of an id and a secret.
-/

namespace OrderDesk.Access

def ordersRead : String := "orders.read"

def ordersWrite : String := "orders.write"

/-- change the status of orders and delete them -/
def ordersAdmin : String := "orders.admin"

def catalogWrite : String := "catalog.write"

/-- A client. -/
structure Client where
  id : String
  secret : String
  perms : List String
  enabled : Bool
  deriving DecidableEq, Repr, Inhabited

def registered : List Client :=
  [⟨"simulated-client", "simulated-client-secret", [ordersRead, ordersWrite], true⟩,
   ⟨"backoffice", "backoffice-secret", [ordersRead, ordersWrite, ordersAdmin, catalogWrite], true⟩,
   ⟨"svc-analytics", "ana-secret", [ordersRead], true⟩]

def find? (clients : List Client) (id : String) : Option Client := clients.find? (·.id == id)

def authenticate (clients : List Client) (id secret : String) : Option Client := do
  let c ← find? clients id
  if c.enabled && c.secret == secret then some c else none

def disable (clients : List Client) (id : String) : List Client :=
  clients.map fun c => if c.id = id then { c with enabled := false } else c

end OrderDesk.Access
