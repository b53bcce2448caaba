import SupplyChainHub.Database.Schema
import SupplyChainHub.Integrations.Adapters
import SupplyChainHub.Pipelines.Keys

/-!
Master data as the API creates it: the request schemas of `api/schemas.py`, the rows they become, and
`create_supplier`, `create_product`, `create_warehouse` and `create_purchase_order`.
-/

namespace SupplyChainHub

/-! ### Requests -/

/-- `[A-Za-z0-9_-]` -/
def inCode (c : Char) : Bool := c.isAlphanum || c = '_' || c = '-'

def codePattern : List Char → Bool
  | [] => false
  | c :: rest => c.isAlphanum && rest.all inCode

structure Code where
  text : String
  bounds : 2 ≤ text.length ∧ text.length ≤ 100
  pattern : codePattern text.toList = true
  deriving DecidableEq

def upperCase (s : String) : String := String.ofList (s.toList.map Char.toUpper)

theorem alphanum_ascii {c : Char} (alphanum : c.isAlphanum = true) : c.toNat < 128 := by
  have capital : 'Z'.val.toNat = 90 := rfl
  have small : 'z'.val.toNat = 122 := rfl
  have digit : '9'.val.toNat = 57 := rfl
  have below {last : Char} (atMost : c.val ≤ last.val) : c.toNat ≤ last.val.toNat := UInt32.le_iff_toNat_le.mp atMost
  rcases (Bool.or_eq_true _ _).mp alphanum with alpha | digits
  · rcases (Bool.or_eq_true _ _).mp alpha with upper | lower
    · have last := below (of_decide_eq_true upper).2
      omega
    · have last := below (of_decide_eq_true ((Bool.and_eq_true _ _).mp lower).2)
      omega
  · have last := below (of_decide_eq_true ((Bool.and_eq_true _ _).mp digits).2)
    omega

theorem toUpper_alphanum {c : Char} (alphanum : c.isAlphanum = true) : c.toUpper.isAlphanum = true := by
  have letters : ∀ n < 128, (Char.ofNat n).isAlphanum = true → (Char.ofNat n).toUpper.isAlphanum = true := by
    decide
  have mine := letters c.toNat (alphanum_ascii alphanum)
  rw [Char.ofNat_toNat] at mine
  exact mine alphanum

theorem upper_pattern {cs : List Char} (pattern : codePattern cs = true) :
    codePattern (cs.map Char.toUpper) = true := by
  have kept {c : Char} (member : inCode c = true) : inCode c.toUpper = true := by
    simp only [inCode, Bool.or_eq_true, decide_eq_true_eq] at member ⊢
    rcases member with (alphanum | rfl) | rfl
    · exact .inl (.inl (toUpper_alphanum alphanum))
    · exact .inl (.inr rfl)
    · exact .inr rfl
  cases cs with
  | nil => cases pattern
  | cons c rest =>
    rw [codePattern, Bool.and_eq_true] at pattern
    rw [List.map_cons, codePattern, toUpper_alphanum pattern.1, Bool.true_and, List.all_map, List.all_eq_true]
    exact fun x member => kept (List.all_eq_true.mp pattern.2 x member)

/-- The pattern is checked before the letters become capitals. -/
def Code.validate (s : String) : Option Code :=
  if accepted : (2 ≤ (stripWhitespace s).length ∧ (stripWhitespace s).length ≤ 100) ∧
      codePattern (stripWhitespace s).toList = true then
    some {
      text := upperCase (stripWhitespace s)
      bounds := by
        rw [upperCase, String.length_ofList, List.length_map, String.length_toList]
        exact accepted.1
      pattern := by
        rw [upperCase, String.toList_ofList]
        exact upper_pattern accepted.2 }
  else none

example : (Code.validate " lax-01 ").map (·.text) = some "LAX-01" := by decide

theorem Code.plain (code : Code) : hasNul code.text = false := by
  have pattern := code.pattern
  rw [hasNul, ← Bool.not_eq_true, List.contains_iff_mem]
  intro member
  cases chars : code.text.toList with
  | nil => simp [chars] at member
  | cons c rest =>
    rw [chars, codePattern, Bool.and_eq_true, List.all_eq_true] at pattern
    rw [chars] at member
    rcases List.mem_cons.mp member with rfl | later
    · exact absurd pattern.1 (by decide)
    · exact absurd (pattern.2 _ later) (by decide)

structure Name where
  text : String
  bounds : 1 ≤ text.length ∧ text.length ≤ 200
  deriving DecidableEq

def Name.validate (s : String) : Option Name :=
  if bounds : 1 ≤ (stripWhitespace s).length ∧ (stripWhitespace s).length ≤ 200 then
    some ⟨stripWhitespace s, bounds⟩
  else none

structure SupplierCreate where
  code : Code
  name : Name

structure ProductCreate where
  sku : Code
  name : Name
  baseUnit : UnitOfMeasure

/-- The time zones that `ZoneInfo` knows. It looks them up as files, and no path has a NUL. -/
structure TimeZones where
  known : String → Bool
  plain : ∀ zone, known zone = true → hasNul zone = false

structure WarehouseCreate (zones : TimeZones) where
  code : Code
  name : Name
  timezone : String
  bounds : 1 ≤ timezone.length ∧ timezone.length ≤ 100
  known : zones.known timezone = true

structure PurchaseOrderLineCreate where
  productId : Id
  orderedQuantity : PositiveQuantity

structure PurchaseOrderCreate where
  supplierId : Id
  externalReference : ExternalReference
  expectedDate : Option CalendarDate := none
  lines : List PurchaseOrderLineCreate
  bounds : 1 ≤ lines.length ∧ lines.length ≤ 100

/-! ### Rows -/

inductive RecordStatus where
  | active | inactive
  deriving DecidableEq

def RecordStatus.value : RecordStatus → String
  | .active => "active"
  | .inactive => "inactive"

inductive PurchaseOrderStatus where
  | submitted | partiallyReceived | received | cancelled
  deriving DecidableEq

def PurchaseOrderStatus.value : PurchaseOrderStatus → String
  | .submitted => "submitted"
  | .partiallyReceived => "partially_received"
  | .received => "received"
  | .cancelled => "cancelled"

structure SupplierRow extends Supplier where
  name : String
  status : RecordStatus := .active

def SupplierRow.row (s : SupplierRow) : Storage.Row := [
  ("id", .other),
  ("code", .text s.code),
  ("name", .text s.name),
  ("status", .text s.status.value)]

structure Product where
  id : Id
  sku : String
  name : String
  baseUnit : UnitOfMeasure
  status : RecordStatus := .active

def Product.row (p : Product) : Storage.Row := [
  ("id", .other),
  ("sku", .text p.sku),
  ("name", .text p.name),
  ("base_unit", .text p.baseUnit.value),
  ("status", .text p.status.value)]

structure Warehouse where
  id : Id
  code : String
  name : String
  timezone : String
  status : RecordStatus := .active

def Warehouse.row (w : Warehouse) : Storage.Row := [
  ("id", .other),
  ("code", .text w.code),
  ("name", .text w.name),
  ("timezone", .text w.timezone),
  ("status", .text w.status.value)]

theorem zero_fits : (0 : Int).natAbs < 10 ^ 18 := by decide

structure PurchaseOrderLine where
  lineNumber : Nat
  productId : Id
  orderedQuantity : Numeric183
  receivedQuantity : Numeric183 := ⟨0, zero_fits⟩

def PurchaseOrderLine.row (line : PurchaseOrderLine) : Storage.Row := [
  ("id", .other),
  ("purchase_order_id", .other),
  ("line_number", .natural line.lineNumber),
  ("product_id", .other),
  ("ordered_quantity", line.orderedQuantity.column),
  ("received_quantity", line.receivedQuantity.column)]

structure PurchaseOrderRow where
  id : Id
  supplierId : Id
  externalReference : String
  status : PurchaseOrderStatus := .submitted
  expectedDate : Option CalendarDate := none
  lines : List PurchaseOrderLine

def PurchaseOrderRow.row (order : PurchaseOrderRow) : Storage.Row := [
  ("id", .other),
  ("supplier_id", .other),
  ("external_reference", .text order.externalReference),
  ("status", .text order.status.value),
  ("expected_date", otherOrNull order.expectedDate)]

/-! ### The calls -/

structure Catalog where
  suppliers : List SupplierRow := []
  products : List Product := []
  warehouses : List Warehouse := []
  purchaseOrders : List PurchaseOrderRow := []

def createSupplier (catalog : Catalog) (request : SupplierCreate) (id : Id) : CallOutcome Catalog :=
  let supplier : SupplierRow := { id, code := request.code.text, name := request.name.text }
  commit catalog { catalog with suppliers := catalog.suppliers ++ [supplier] }
    [{ table := Schema.suppliers
       row := supplier.row
       violates := catalog.suppliers.any fun s => s.code = supplier.code }]
    ("Supplier code '" ++ request.code.text ++ "' already exists.")

def createProduct (catalog : Catalog) (request : ProductCreate) (id : Id) : CallOutcome Catalog :=
  let product : Product := { id, sku := request.sku.text, name := request.name.text, baseUnit := request.baseUnit }
  commit catalog { catalog with products := catalog.products ++ [product] }
    [{ table := Schema.products
       row := product.row
       violates := catalog.products.any fun p => p.sku = product.sku }]
    ("Product SKU '" ++ request.sku.text ++ "' already exists.")

def createWarehouse {zones : TimeZones} (catalog : Catalog) (request : WarehouseCreate zones) (id : Id) :
    CallOutcome Catalog :=
  let warehouse : Warehouse :=
    { id, code := request.code.text, name := request.name.text, timezone := request.timezone }
  commit catalog { catalog with warehouses := catalog.warehouses ++ [warehouse] }
    [{ table := Schema.warehouses
       row := warehouse.row
       violates := catalog.warehouses.any fun w => w.code = warehouse.code }]
    ("Warehouse code '" ++ request.code.text ++ "' already exists.")

/-- `enumerate(request.lines, start=1)` -/
def purchaseOrderLines (lines : List PurchaseOrderLineCreate) : List PurchaseOrderLine :=
  (lines.zipIdx 1).map fun (line, lineNumber) =>
    { lineNumber, productId := line.productId, orderedQuantity := line.orderedQuantity.toNumeric183 }

/-- What `create_purchase_order` refuses before it writes. -/
def purchaseOrderRefused (catalog : Catalog) (request : PurchaseOrderCreate) : Option DomainError :=
  let productIds := request.lines.map (·.productId)
  let missing := productIds.filter fun id => !catalog.products.any fun p => p.id = id
  if !catalog.suppliers.any (fun s => s.id = request.supplierId) then
    some (.resourceNotFound ("Supplier '" ++ request.supplierId.repr ++ "' was not found."))
  else if ¬ productIds.Nodup then
    some (.resourceConflict "A product may appear only once in a purchase order.")
  else if missing ≠ [] then
    some (.resourceNotFound ("Products were not found: " ++ ", ".intercalate (missing.map Nat.repr) ++ "."))
  else none

/-- The supplier and the products are there, each product once. -/
def PurchaseOrderCreate.Writes (request : PurchaseOrderCreate) (catalog : Catalog) : Prop :=
  (∃ s ∈ catalog.suppliers, s.id = request.supplierId) ∧
    (request.lines.map (·.productId)).Nodup ∧
    ∀ line ∈ request.lines, ∃ p ∈ catalog.products, p.id = line.productId

def createPurchaseOrder (catalog : Catalog) (request : PurchaseOrderCreate) (id : Id) : CallOutcome Catalog :=
  match purchaseOrderRefused catalog request with
  | some e => ⟨catalog, some (.domain e)⟩
  | none =>
    let order : PurchaseOrderRow := {
      id
      supplierId := request.supplierId
      externalReference := request.externalReference.text
      expectedDate := request.expectedDate
      lines := purchaseOrderLines request.lines }
    commit catalog { catalog with purchaseOrders := catalog.purchaseOrders ++ [order] }
      ({ table := Schema.purchaseOrders
         row := order.row
         violates := catalog.purchaseOrders.any fun o =>
           o.supplierId = order.supplierId && o.externalReference = order.externalReference } ::
        order.lines.map fun line => { table := Schema.purchaseOrderLines, row := line.row })
      ("This supplier already has a purchase order with external reference '" ++
        request.externalReference.text ++ "'.")

/-! ### What the columns can hold -/

section
variable {catalog : Catalog} {id : Id} {statusCodes : List Nat}

theorem status_holds (status : RecordStatus) : status.value.length ≤ 20 ∧ hasNul status.value = false := by
  cases status <;> decide

theorem orderStatus_holds (status : PurchaseOrderStatus) :
    status.value.length ≤ 30 ∧ hasNul status.value = false := by
  cases status <;> decide

/-- A code has up to 100 characters, and the column of supplier codes takes 50. -/
theorem createSupplier_mapped (request : SupplierCreate) (covered : 409 ∈ statusCodes) :
    (createSupplier catalog request id).Mapped statusCodes ↔
      request.code.text.length ≤ 50 ∧ hasNul request.name.text = false := by
  unfold createSupplier
  rw [commit_mapped covered (by simp)]
  simp [Schema.suppliers, SupplierRow.row, request.code.plain, request.name.bounds, status_holds]

theorem createProduct_mapped (request : ProductCreate) (covered : 409 ∈ statusCodes) :
    (createProduct catalog request id).Mapped statusCodes ↔ hasNul request.name.text = false := by
  unfold createProduct
  rw [commit_mapped covered (by simp)]
  simp [Schema.products, Product.row, request.sku.plain, request.sku.bounds, request.name.bounds, status_holds,
    unit_holds]

theorem createWarehouse_mapped {zones : TimeZones} (request : WarehouseCreate zones) (covered : 409 ∈ statusCodes) :
    (createWarehouse catalog request id).Mapped statusCodes ↔
      request.code.text.length ≤ 50 ∧ hasNul request.name.text = false := by
  have zone := zones.plain _ request.known
  unfold createWarehouse
  rw [commit_mapped covered (by simp)]
  simp [Schema.warehouses, Warehouse.row, request.code.plain, request.name.bounds, request.bounds, zone, status_holds]

theorem line_holds {lines : List PurchaseOrderLineCreate} (bound : lines.length ≤ 100) {line : PurchaseOrderLine}
    (member : line ∈ purchaseOrderLines lines) : Schema.purchaseOrderLines.holds line.row = true := by
  obtain ⟨⟨create, n⟩, present, rfl⟩ := List.mem_map.mp member
  have last := (List.mem_zipIdx present).2.1
  have small : n < 2147483648 := by omega
  simp [Schema.purchaseOrderLines, PurchaseOrderLine.row, small]

theorem purchaseOrder_writes {request : PurchaseOrderCreate} :
    purchaseOrderRefused catalog request = none ↔ request.Writes catalog := by
  have missing : (request.lines.map (·.productId)).filter (fun id => !catalog.products.any fun p => p.id = id) = [] ↔
      ∀ line ∈ request.lines, ∃ p ∈ catalog.products, p.id = line.productId := by
    simp [List.filter_eq_nil_iff]
  unfold purchaseOrderRefused PurchaseOrderCreate.Writes
  dsimp only
  by_cases known : catalog.suppliers.any (fun s => s.id = request.supplierId) = true
  · have supplier : ∃ s ∈ catalog.suppliers, s.id = request.supplierId := by simpa using known
    rw [if_neg (by simp [known])]
    by_cases once : (request.lines.map (·.productId)).Nodup
    · rw [if_neg (not_not.mpr once), ← missing]
      split
      · rename_i lacks
        exact iff_of_false nofun fun writes => lacks writes.2.2
      · rename_i complete
        exact iff_of_true rfl ⟨supplier, once, not_not.mp complete⟩
    · rw [if_pos once]
      exact iff_of_false nofun fun writes => once writes.2.1
  · rw [if_pos (by simpa using known)]
    refine iff_of_false nofun fun writes => known ?_
    simpa using writes.1

theorem purchaseOrderRefused_code {request : PurchaseOrderCreate} {e : DomainError}
    (refused : purchaseOrderRefused catalog request = some e) : e.statusCode ∈ [404, 409] := by
  unfold purchaseOrderRefused at refused
  dsimp only at refused
  split at refused
  · cases refused
    simp [DomainError.statusCode]
  · split at refused
    · cases refused
      simp [DomainError.statusCode]
    · split at refused
      · cases refused
        simp [DomainError.statusCode]
      · cases refused

theorem createPurchaseOrder_failed {request : PurchaseOrderCreate}
    (failed : (createPurchaseOrder catalog request id).error ≠ none) :
    (createPurchaseOrder catalog request id).db = catalog := by
  unfold createPurchaseOrder at *
  split
  · rfl
  · rename_i writes
    rw [writes] at failed
    exact commit_failed failed

theorem createPurchaseOrder_mapped (request : PurchaseOrderCreate) (covered : ∀ code ∈ [404, 409], code ∈ statusCodes) :
    (createPurchaseOrder catalog request id).Mapped statusCodes ↔
      (request.Writes catalog → hasNul request.externalReference.text = false) := by
  unfold createPurchaseOrder
  rw [← purchaseOrder_writes]
  cases refused : purchaseOrderRefused catalog request with
  | some e => exact iff_of_true (CallOutcome.mapped_domain _ (covered _ (purchaseOrderRefused_code refused))) nofun
  | none =>
    have held : ∀ s ∈ (purchaseOrderLines request.lines).map fun line =>
        ({ table := Schema.purchaseOrderLines, row := line.row } : Storage.Statement),
        s.table.holds s.row = true := by
      intro s member
      obtain ⟨line, present, rfl⟩ := List.mem_map.mp member
      exact line_holds request.bounds.2 present
    dsimp only
    rw [commit_mapped (covered 409 (by simp)) held]
    simp [Schema.purchaseOrders, PurchaseOrderRow.row, request.externalReference.bounds, orderStatus_holds]

end

end SupplyChainHub
