import OrderDesk.Order.Basic
import OrderDesk.Store.Schema

/-!
# Statements

Everything that is sent to an engine, as a closed set of statements with their values.

* `Statement`            the statements;
* `Statement.template`   the text with a placeholder for each value;
* `Statement.args`       the values, in the order of the placeholders;
* `Statement.sql`        the text as an engine gets it;
* `Statement.isQuery`    does the engine answer with rows.
-/

namespace OrderDesk.Store

/-- A value of a statement. -/
inductive Arg where
  | null
  | int (n : Int)
  | text (s : String)
  | amount (d : Decimal)
  | time (t : Stamp)
  | present
  deriving DecidableEq, Repr, Inhabited

/-- The statements. A select with `lock` keeps its row for the transaction. -/
inductive Statement where
  | insertProduct (name : String) (price : Decimal) (stock : Int) (createdAt updatedAt : Stamp)
  | updateProduct (id : Int) (name : String) (price : Decimal) (stock : Int) (updatedAt : Stamp)
  | deleteProduct (id : Int)
  | selectProduct (id : Int) (lock : Bool)
  | countProducts (pattern : Option String)
  | listProducts (pattern : Option String) (limit offset : Int)
  | insertOrder (number : Option String) (status : String) (total : Decimal)
      (createdAt updatedAt : Stamp)
  | updateOrder (id : Int) (number : Option String) (status : String) (total : Decimal)
      (updatedAt : Stamp)
  | deleteOrder (id : Int)
  | selectOrder (id : Int) (lock : Bool)
  | countOrders (status : Option String)
  | listOrders (status : Option String) (limit offset : Int)
  | countOrder (id : Int)
  | insertItem (orderId lineNo : Int) (line : Line)
  | deleteItems (orderId : Int)
  | selectItems (orderIds : List Int)
  | insertCategory (name : String) (createdAt updatedAt : Stamp)
  | updateCategory (id : Int) (name : String) (updatedAt : Stamp)
  | deleteCategory (id : Int)
  | selectCategory (id : Int)
  | countCategories (name : String) (besides : Int)
  | listCategories
  | createVersions
  | readVersion
  | schema (object : SchemaObject)
  | recordVersion (version : Int)
  deriving DecidableEq, Repr

namespace Statement

def productColumns : String := "id, name, price, stock, created_at, updated_at"

def orderColumns : String := "id, order_number, status, total_amount, created_at, updated_at"

def categoryColumns : String := "id, name, created_at, updated_at"

/-- the condition on a name, if there is one -/
def whereName : Option String → String
  | none => ""
  | some _ => " WHERE LOWER(name) LIKE ?"

/-- the condition on a status, if there is one -/
def whereStatus : Option String → String
  | none => ""
  | some _ => " WHERE status = ?"

/-- the suffix of a select that keeps its row -/
def locking (d : Dialect) (lock : Bool) : String := if lock then d.forUpdate else ""

/-- the suffix of an insert whose new id comes back as a row -/
def returning (d : Dialect) : String := if d.returning then " RETURNING id" else ""

/-- the text with a placeholder for each value -/
def template (d : Dialect) : Statement → String
  | insertProduct .. =>
    "INSERT INTO products (name, price, stock, created_at, updated_at) VALUES (?, ?, ?, ?, ?)" ++
      returning d
  | updateProduct .. =>
    "UPDATE products SET name = ?, price = ?, stock = ?, updated_at = ? WHERE id = ?"
  | deleteProduct _ => "DELETE FROM products WHERE id = ?"
  | selectProduct _ lock =>
    "SELECT " ++ productColumns ++ " FROM products WHERE id = ?" ++ locking d lock
  | countProducts pattern => "SELECT COUNT(*) FROM products" ++ whereName pattern
  | listProducts pattern _ _ =>
    "SELECT " ++ productColumns ++ " FROM products" ++ whereName pattern ++
      " ORDER BY id LIMIT ? OFFSET ?"
  | insertOrder .. =>
    "INSERT INTO orders (order_number, status, total_amount, created_at, updated_at) " ++
      "VALUES (?, ?, ?, ?, ?)" ++ returning d
  | updateOrder .. =>
    "UPDATE orders SET order_number = ?, status = ?, total_amount = ?, updated_at = ? WHERE id = ?"
  | deleteOrder _ => "DELETE FROM orders WHERE id = ?"
  | selectOrder _ lock =>
    "SELECT " ++ orderColumns ++ " FROM orders WHERE id = ?" ++ locking d lock
  | countOrders status => "SELECT COUNT(*) FROM orders" ++ whereStatus status
  | listOrders status _ _ =>
    "SELECT " ++ orderColumns ++ " FROM orders" ++ whereStatus status ++
      " ORDER BY id LIMIT ? OFFSET ?"
  | countOrder _ => "SELECT COUNT(*) FROM orders WHERE id = ?"
  | insertItem .. =>
    "INSERT INTO order_items (order_id, line_no, product_id, product_name, quantity, " ++
      "unit_price) VALUES (?, ?, ?, ?, ?, ?)"
  | deleteItems _ => "DELETE FROM order_items WHERE order_id = ?"
  | selectItems ids =>
    "SELECT order_id, product_id, product_name, quantity, unit_price FROM order_items " ++
      "WHERE order_id IN (" ++ placeholders ids.length ++ ") ORDER BY order_id, line_no"
  | insertCategory .. =>
    "INSERT INTO categories (name, created_at, updated_at) VALUES (?, ?, ?)" ++ returning d
  | updateCategory .. => "UPDATE categories SET name = ?, updated_at = ? WHERE id = ?"
  | deleteCategory _ => "DELETE FROM categories WHERE id = ?"
  | selectCategory _ => "SELECT " ++ categoryColumns ++ " FROM categories WHERE id = ?"
  | countCategories .. =>
    "SELECT COUNT(*) FROM categories WHERE LOWER(name) = LOWER(?) AND id <> ?"
  | listCategories =>
    "SELECT " ++ categoryColumns ++ " FROM categories ORDER BY LOWER(name), id"
  | createVersions =>
    "CREATE TABLE IF NOT EXISTS schema_version ( version INTEGER PRIMARY KEY, applied_at " ++
      timeType d.engine ++ " NOT NULL )"
  | readVersion => "SELECT COALESCE(MAX(version), 0) FROM schema_version"
  | schema object => object.text d.engine
  | recordVersion _ => "INSERT INTO schema_version (version, applied_at) VALUES (?, ?)"

/-- a text that may be absent -/
def optional : Option String → Arg
  | none => .null
  | some s => .text s

/-- the value of a condition, if there is one -/
def condition : Option String → List Arg
  | none => []
  | some s => [.text s]

/-- the values, in the order of the placeholders -/
def args : Statement → List Arg
  | insertProduct name price stock createdAt updatedAt =>
    [.text name, .amount price, .int stock, .time createdAt, .time updatedAt]
  | updateProduct id name price stock updatedAt =>
    [.text name, .amount price, .int stock, .time updatedAt, .int id]
  | deleteProduct id | selectProduct id _ | deleteOrder id | selectOrder id _ | countOrder id
  | deleteItems id | deleteCategory id | selectCategory id => [.int id]
  | countProducts pattern => condition pattern
  | listProducts pattern limit offset => condition pattern ++ [.int limit, .int offset]
  | insertOrder number status total createdAt updatedAt =>
    [optional number, .text status, .amount total, .time createdAt, .time updatedAt]
  | updateOrder id number status total updatedAt =>
    [optional number, .text status, .amount total, .time updatedAt, .int id]
  | countOrders status => condition status
  | listOrders status limit offset => condition status ++ [.int limit, .int offset]
  | insertItem orderId lineNo l =>
    [.int orderId, .int lineNo, .int l.productId, .text l.productName, .int l.quantity,
      .amount l.unitPrice]
  | selectItems ids => ids.map .int
  | insertCategory name createdAt updatedAt => [.text name, .time createdAt, .time updatedAt]
  | updateCategory id name updatedAt => [.text name, .time updatedAt, .int id]
  | countCategories name besides => [.text name, .int besides]
  | recordVersion version => [.int version, .present]
  | listCategories | createVersions | readVersion | schema _ => []

/-- the text as an engine gets it -/
def sql (d : Dialect) (s : Statement) : String := d.rebind (s.template d)

/-- does the engine answer with rows; a new id comes back as a row where the dialect says so -/
def isQuery (d : Dialect) : Statement → Bool
  | insertProduct .. | insertOrder .. | insertCategory .. => d.returning
  | selectProduct .. | countProducts _ | listProducts .. | selectOrder .. | countOrders _
  | listOrders .. | countOrder _ | selectItems _ | selectCategory _ | countCategories ..
  | listCategories | readVersion => true
  | _ => false

end Statement

end OrderDesk.Store
