import EntityAtlas.Build
import EntityAtlas.Json.Display
import EntityAtlas.Mapper.Registry

/-!
# A sample registry

Mappers of a small trading company: customers with orders, products with suppliers and
categories, employees in a hierarchy over one table, and documents with two links to people. They
show an embedded address, a composite key, a natural key, a version column, an enumeration, a
table between two ends, and a relationship of a class with itself.
-/

set_option autoImplicit false

namespace EntityAtlas.Sample

/-! ## Building blocks -/

/-- A column of a table that is never null. -/
def required (table name typeName : String) : TableColumn :=
  { label := table ++ "." ++ name, name, key := name, typeName, nullable := false }

/-- A text column of a table that may be null. -/
def text (table name : String) (length : Int) : TableColumn :=
  { label := table ++ "." ++ name, name, key := name, typeName := "String", length := some length }

/-- A text column of a table that is never null. -/
def requiredText (table name : String) (length : Int) : TableColumn :=
  { text table name length with nullable := false }

/-- The numbered key column of a table. -/
def numberedKey (table : String) : TableColumn :=
  { required table "id" "Integer" with isNumbered := true }

/-- A column that refers to another table. -/
def reference (table name : String) : TableColumn :=
  { label := table ++ "." ++ name, name, key := name, isForeignKey := true }

/-- An attribute over one column of the same name. -/
def field (column : TableColumn) : String × Attribute := (column.name, .columns [column])

/-- A relationship to one instance. -/
def toOne (name target : String) (pair : TableColumn × TableColumn) : String × Attribute :=
  (name, .relationship { target, pairs := [pair] })

/-- A relationship to many instances. -/
def toMany (name target : String) (pair : TableColumn × TableColumn) (deleteOrphan : Bool) :
    String × Attribute :=
  (name, .relationship
    { target, pairs := [pair], isManyToOne := false, isList := true, deleteOrphan })

/-- A relationship to many instances over a table in between. -/
def linked (name target : String) (columns : List TableColumn) : String × Attribute :=
  (name, .relationship
    { target, secondary := some columns, isManyToOne := false, isList := true })

/-- The class of postal addresses. -/
def addressClass : CompositeClass :=
  { name := "Address"
    space := "models.customer"
    fields := some ["street", "city", "postal_code"] }

/-- The columns of a postal address in a table. -/
def addressColumns (table : String) : List TableColumn :=
  [text table "street" 200, text table "city" 100, text table "postal_code" 20]

/-- The embedded address of a table. -/
def address (table : String) : String × Attribute :=
  ("address", .composite addressClass (addressColumns table))

/-! ## Key and reference columns -/

/-- The key of customers. -/
def customerId : TableColumn := numberedKey "customers"

/-- The key of orders. -/
def orderId : TableColumn := numberedKey "orders"

/-- The reference of an order to its customer. -/
def orderCustomer : TableColumn :=
  { reference "orders" "customer_id" with nullable := false }

/-- The version column of orders. -/
def orderVersion : TableColumn := required "orders" "row_version" "Integer"

/-- The part of an order line's key that refers to its order. -/
def lineOrder : TableColumn :=
  { reference "order_details" "order_id" with nullable := false }

/-- The part of an order line's key that refers to its product. -/
def lineProduct : TableColumn :=
  { reference "order_details" "product_id" with nullable := false }

/-- The key of products. -/
def productId : TableColumn := numberedKey "products"

/-- The reference of a product to its supplier. -/
def productSupplier : TableColumn := reference "products" "supplier_id"

/-- The key of suppliers. -/
def supplierId : TableColumn := numberedKey "suppliers"

/-- The key of categories. -/
def categoryId : TableColumn := numberedKey "categories"

/-- The columns of the table between products and categories. -/
def productCategories : List TableColumn :=
  [ { reference "product_categories" "product_id" with nullable := false },
    { reference "product_categories" "category_id" with nullable := false } ]

/-- The key of employees. -/
def employeeId : TableColumn := numberedKey "employees"

/-- The reference of an employee to another one. -/
def reportsToId : TableColumn := reference "employees" "reports_to_id"

/-- The key of people, which the program makes. -/
def personId : TableColumn := { requiredText "people" "id" 36 with hasDefault := true }

/-- The key of documents. -/
def documentId : TableColumn := numberedKey "documents"

/-- The reference of a document to its author. -/
def documentAuthor : TableColumn :=
  { requiredText "documents" "author_id" 36 with isForeignKey := true }

/-- The reference of a document to its reviewer. -/
def documentReviewer : TableColumn :=
  { text "documents" "reviewer_id" 36 with isForeignKey := true }

/-! ## Mappers -/

/-- Customers. -/
def customer : Mapper :=
  { className := "Customer"
    space := "models.customer"
    primaryKey := [customerId]
    attributes :=
      [ address "customers", toMany "orders" "Order" (customerId, orderCustomer) true,
        field customerId,
        field { requiredText "customers" "code" 10 with isNaturalKey := true },
        field (requiredText "customers" "name" 100) ] ++
      (addressColumns "customers").map field }

/-- Orders. -/
def order : Mapper :=
  { className := "Order"
    space := "models.order"
    primaryKey := [orderId]
    attributes :=
      [ toOne "customer" "Customer" (orderCustomer, customerId),
        toMany "details" "OrderDetail" (orderId, lineOrder) true,
        field orderId, field orderCustomer,
        field
          { required "orders" "status" "Enum" with
            hasDefault := true
            enumeration := some
              { name := "OrderStatus"
                space := "models.order"
                values := ["PENDING", "SHIPPED", "DELIVERED", "CANCELLED"] } },
        field (required "orders" "ordered_at" "DateTime"), field orderVersion ]
    version := some orderVersion }

/-- Order lines. -/
def orderDetail : Mapper :=
  { className := "OrderDetail"
    space := "models.order"
    primaryKey := [lineOrder, lineProduct]
    attributes :=
      [ toOne "order" "Order" (lineOrder, orderId),
        toOne "product" "Product" (lineProduct, productId),
        field lineOrder, field lineProduct,
        field (required "order_details" "quantity" "Integer"),
        field (required "order_details" "unit_price" "Numeric") ] }

/-- Suppliers. -/
def supplier : Mapper :=
  { className := "Supplier"
    space := "models.product"
    primaryKey := [supplierId]
    attributes :=
      [ address "suppliers", toMany "products" "Product" (supplierId, productSupplier) false,
        field supplierId, field (requiredText "suppliers" "name" 100) ] ++
      (addressColumns "suppliers").map field }

/-- Products. -/
def product : Mapper :=
  { className := "Product"
    space := "models.product"
    primaryKey := [productId]
    attributes :=
      [ toOne "supplier" "Supplier" (productSupplier, supplierId),
        linked "categories" "Category" productCategories,
        field productId, field (requiredText "products" "sku" 20),
        field (requiredText "products" "name" 100), field productSupplier ] }

/-- Categories of products. -/
def category : Mapper :=
  { className := "Category"
    space := "models.product"
    primaryKey := [categoryId]
    attributes :=
      [ linked "products" "Product" productCategories,
        field categoryId, field (requiredText "categories" "name" 50) ] }

/-- The attributes of all employees. -/
def employeeAttributes : List (String × Attribute) :=
  [ toOne "reports_to" "Employee" (reportsToId, employeeId),
    toMany "reports" "Employee" (employeeId, reportsToId) false,
    field employeeId, field (requiredText "employees" "name" 100),
    field (requiredText "employees" "kind" 20), field reportsToId ]

/-- Employees. -/
def employee : Mapper :=
  { className := "Employee"
    space := "models.employee"
    primaryKey := [employeeId]
    attributes := employeeAttributes
    isPolymorphic := true
    identity := .text "employee" }

/-- Employees with a budget. -/
def manager : Mapper :=
  { className := "Manager"
    space := "models.employee"
    primaryKey := [employeeId]
    attributes :=
      employeeAttributes ++
        [field { required "employees" "budget" "Numeric" with nullable := true }]
    inherits := some "Employee"
    isPolymorphic := true
    identity := .text "manager"
    isSingle := true }

/-- People. -/
def person : Mapper :=
  { className := "Person"
    space := "models.document"
    primaryKey := [personId]
    attributes :=
      [ toMany "authored_documents" "Document" (personId, documentAuthor) false,
        toMany "reviewed_documents" "Document" (personId, documentReviewer) false,
        field personId, field (requiredText "people" "name" 100) ] }

/-- Documents. -/
def document : Mapper :=
  { className := "Document"
    space := "models.document"
    primaryKey := [documentId]
    attributes :=
      [ toOne "author" "Person" (documentAuthor, personId),
        toOne "reviewer" "Person" (documentReviewer, personId),
        field documentId, field (requiredText "documents" "title" 200), field documentAuthor,
        field documentReviewer ] }

/-- The sample registry. -/
def registry : MapperRegistry :=
  { mappers :=
      [ customer, order, orderDetail, supplier, product, category, employee, manager, person,
        document ] }

/-- The catalogue of the sample registry. -/
def catalogue : Catalogue := registry.catalogue.toOption.getD {}

/-- Options for the sample, in which an s after the name of a type makes the resource name. -/
def options : BuildOptions := { plural := fun name => some (name ++ "s") }

/-! ## Instances as text -/

/-- The fields that show in the text of an instance of a class, and which of them stand in
quotes. -/
def shownFields : String → Option (List (String × Bool))
  | "Customer" => some [("id", false), ("code", true)]
  | "Document" => some [("id", false), ("title", true)]
  | "Order" => some [("id", false), ("customer_id", false)]
  | "OrderDetail" => some [("order_id", false), ("product_id", false)]
  | "Product" => some [("id", false), ("sku", true)]
  | _ => none

/-- A field of an instance as text. -/
def fieldText (values : List (String × Json)) : String × Bool → String
  | (name, inQuotes) =>
    let value := ((values.lookup name).getD .null).display
    name ++ "=" ++ (if inQuotes then "'" ++ value ++ "'" else value)

/-- The text of an instance of a class. -/
def instanceText? (className : String) (values : List (String × Json)) : Option String :=
  (shownFields className).map fun fields =>
    "<" ++ className ++ "(" ++ ", ".intercalate (fields.map (fieldText values)) ++ ")>"

end EntityAtlas.Sample
