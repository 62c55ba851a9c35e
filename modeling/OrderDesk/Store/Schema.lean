import OrderDesk.Store.Dialect

/-!
# The schema and its versions

* `SchemaObject`            the tables and indexes;
* `SchemaObject.text`       how an engine is told to make one that is not there yet;
* `migrations`              the versions of the schema and what each of them adds.
-/

namespace OrderDesk.Store

/-- The tables and indexes. -/
inductive SchemaObject where
  | products
  | orders
  | ordersByStatus
  | items
  | itemsByOrder
  | categories
  | categoriesByName
  deriving DecidableEq, Repr

/-- the type of a column of times -/
def timeType : Engine → String
  | .mysql => "DATETIME(6)"
  | .postgres => "TIMESTAMPTZ"
  | .sqlite => "DATETIME"

/-- the tables and indexes in the words of MySQL -/
def SchemaObject.mysqlText : SchemaObject → String
  | .products =>
    "CREATE TABLE IF NOT EXISTS products ( id BIGINT AUTO_INCREMENT PRIMARY KEY, name " ++
      "VARCHAR(120) NOT NULL, price DECIMAL(15,2) NOT NULL, stock INT NOT NULL, created_at " ++
      "DATETIME(6) NOT NULL, updated_at DATETIME(6) NOT NULL, CONSTRAINT chk_products_price " ++
      "CHECK (price >= 0), CONSTRAINT chk_products_stock CHECK (stock >= 0) ) ENGINE=InnoDB"
  | .orders =>
    "CREATE TABLE IF NOT EXISTS orders ( id BIGINT AUTO_INCREMENT PRIMARY KEY, order_number " ++
      "VARCHAR(40) NULL UNIQUE, status VARCHAR(20) NOT NULL, total_amount DECIMAL(15,2) NOT " ++
      "NULL, created_at DATETIME(6) NOT NULL, updated_at DATETIME(6) NOT NULL, INDEX " ++
      "idx_orders_status (status, id) ) ENGINE=InnoDB"
  | .items =>
    "CREATE TABLE IF NOT EXISTS order_items ( id BIGINT AUTO_INCREMENT PRIMARY KEY, order_id " ++
      "BIGINT NOT NULL, line_no INT NOT NULL, product_id BIGINT NOT NULL, product_name " ++
      "VARCHAR(120) NOT NULL, quantity INT NOT NULL, unit_price DECIMAL(15,2) NOT NULL, INDEX " ++
      "idx_order_items_order (order_id, line_no), CONSTRAINT fk_order_items_order FOREIGN KEY " ++
      "(order_id) REFERENCES orders(id) ON DELETE CASCADE ) ENGINE=InnoDB"
  | .categories =>
    "CREATE TABLE IF NOT EXISTS categories ( id BIGINT AUTO_INCREMENT PRIMARY KEY, name " ++
      "VARCHAR(100) NOT NULL, created_at DATETIME(6) NOT NULL, updated_at DATETIME(6) NOT " ++
      "NULL, UNIQUE KEY uq_categories_name (name) ) ENGINE=InnoDB"
  | _ => ""

/-- the tables and indexes in the words of PostgreSQL -/
def SchemaObject.postgresText : SchemaObject → String
  | .products =>
    "CREATE TABLE IF NOT EXISTS products ( id BIGSERIAL PRIMARY KEY, name VARCHAR(120) NOT " ++
      "NULL, price NUMERIC(15,2) NOT NULL CHECK (price >= 0), stock INTEGER NOT NULL CHECK " ++
      "(stock >= 0), created_at TIMESTAMPTZ NOT NULL, updated_at TIMESTAMPTZ NOT NULL )"
  | .orders =>
    "CREATE TABLE IF NOT EXISTS orders ( id BIGSERIAL PRIMARY KEY, order_number VARCHAR(40) " ++
      "UNIQUE, status VARCHAR(20) NOT NULL, total_amount NUMERIC(15,2) NOT NULL, created_at " ++
      "TIMESTAMPTZ NOT NULL, updated_at TIMESTAMPTZ NOT NULL )"
  | .ordersByStatus =>
    "CREATE INDEX IF NOT EXISTS idx_orders_status ON orders(status, id)"
  | .items =>
    "CREATE TABLE IF NOT EXISTS order_items ( id BIGSERIAL PRIMARY KEY, order_id BIGINT NOT " ++
      "NULL REFERENCES orders(id) ON DELETE CASCADE, line_no INTEGER NOT NULL, product_id " ++
      "BIGINT NOT NULL, product_name VARCHAR(120) NOT NULL, quantity INTEGER NOT NULL, " ++
      "unit_price NUMERIC(15,2) NOT NULL )"
  | .itemsByOrder =>
    "CREATE INDEX IF NOT EXISTS idx_order_items_order ON order_items(order_id, line_no)"
  | .categories =>
    "CREATE TABLE IF NOT EXISTS categories ( id BIGSERIAL PRIMARY KEY, name VARCHAR(100) NOT " ++
      "NULL, created_at TIMESTAMPTZ NOT NULL, updated_at TIMESTAMPTZ NOT NULL )"
  | .categoriesByName =>
    "CREATE UNIQUE INDEX IF NOT EXISTS uq_categories_name ON categories(LOWER(name))"

/-- the tables and indexes in the words of SQLite -/
def SchemaObject.sqliteText : SchemaObject → String
  | .products =>
    "CREATE TABLE IF NOT EXISTS products ( id INTEGER PRIMARY KEY AUTOINCREMENT, name TEXT " ++
      "NOT NULL, price TEXT NOT NULL, stock INTEGER NOT NULL CHECK (stock >= 0), created_at " ++
      "DATETIME NOT NULL, updated_at DATETIME NOT NULL )"
  | .orders =>
    "CREATE TABLE IF NOT EXISTS orders ( id INTEGER PRIMARY KEY AUTOINCREMENT, order_number " ++
      "TEXT UNIQUE, status TEXT NOT NULL, total_amount TEXT NOT NULL, created_at DATETIME NOT " ++
      "NULL, updated_at DATETIME NOT NULL )"
  | .ordersByStatus =>
    "CREATE INDEX IF NOT EXISTS idx_orders_status ON orders(status, id)"
  | .items =>
    "CREATE TABLE IF NOT EXISTS order_items ( id INTEGER PRIMARY KEY AUTOINCREMENT, order_id " ++
      "INTEGER NOT NULL REFERENCES orders(id) ON DELETE CASCADE, line_no INTEGER NOT NULL, " ++
      "product_id INTEGER NOT NULL, product_name TEXT NOT NULL, quantity INTEGER NOT NULL, " ++
      "unit_price TEXT NOT NULL )"
  | .itemsByOrder =>
    "CREATE INDEX IF NOT EXISTS idx_order_items_order ON order_items(order_id, line_no)"
  | .categories =>
    "CREATE TABLE IF NOT EXISTS categories ( id INTEGER PRIMARY KEY AUTOINCREMENT, name TEXT " ++
      "NOT NULL UNIQUE COLLATE NOCASE, created_at DATETIME NOT NULL, updated_at DATETIME NOT " ++
      "NULL )"
  | _ => ""

/-- how an engine is told to make a table or index that is not there yet -/
def SchemaObject.text : Engine → SchemaObject → String
  | .mysql => mysqlText
  | .postgres => postgresText
  | .sqlite => sqliteText

/-- One step of the schema. -/
structure Migration where
  version : Int
  adds : List SchemaObject
  deriving DecidableEq, Repr

/-- the versions of the schema, the oldest first -/
def migrations : Engine → List Migration
  | .mysql => [⟨1, [.products, .orders, .items]⟩, ⟨2, [.categories]⟩]
  | .postgres =>
    [⟨1, [.products, .orders, .ordersByStatus, .items, .itemsByOrder]⟩,
     ⟨2, [.categories, .categoriesByName]⟩]
  | .sqlite =>
    [⟨1, [.products, .orders, .ordersByStatus, .items, .itemsByOrder]⟩, ⟨2, [.categories]⟩]

end OrderDesk.Store
