import SupplyChainHub.Imports.Records

/-!
API calls that write inventory positions and partner mappings: `set_inventory`,
`upsert_product_mapping` and `upsert_warehouse_mapping`. Each reads without a lock and commits
later what it computed from the row it read.
-/

namespace SupplyChainHub

/-! ### Inventory positions -/

structure InventorySet where
  onHandQuantity : ℚ
  reservedQuantity : ℚ := 0
  deriving DecidableEq

def calculateAvailableQuantity (onHandQuantity reservedQuantity : ℚ) : Except DomainError ℚ :=
  if onHandQuantity < 0 then .error (.domainValidation "On-hand quantity cannot be negative.")
  else if reservedQuantity < 0 then .error (.domainValidation "Reserved quantity cannot be negative.")
  else .ok (max (onHandQuantity - reservedQuantity) 0)

inductive InventoryCall where
  | loaded (warehouseId productId : Id) (request : InventorySet) (position : Option InventoryPosition)
  | returned
  | raised (error : DomainError)
  /-- An error of the database that the API maps to no status of its own. -/
  | failed (error : Raised)

/-- `set_inventory` up to its read of the position. -/
def setInventoryRead (db : Database) (warehouseId productId : Id) (request : InventorySet) : InventoryCall :=
  if !db.warehouses.contains warehouseId then
    .raised (.resourceNotFound ("Warehouse '" ++ warehouseId.repr ++ "' was not found."))
  else if !db.products.contains productId then
    .raised (.resourceNotFound ("Product '" ++ productId.repr ++ "' was not found."))
  else
    match calculateAvailableQuantity request.onHandQuantity request.reservedQuantity with
    | .error e => .raised e
    | .ok _ => .loaded warehouseId productId request (db.position warehouseId productId)

/-- The statement `set_inventory` sends at its commit, if the columns can hold what it writes. -/
def setInventoryWrite (warehouseId productId : Id) (request : InventorySet)
    (position : Option InventoryPosition) : Except Raised PositionWrite :=
  match storesOnHand : Numeric183.store? request.onHandQuantity,
      storesReserved : Numeric183.store? request.reservedQuantity with
  | some storedOnHand, some storedReserved =>
    if versionFits : ∀ p ∈ position, p.version < integerMax then .ok {
      warehouseId, productId
      onHand := request.onHandQuantity
      reserved := request.reservedQuantity
      storedOnHand, storedReserved, storesOnHand, storesReserved
      origin := none
      loaded := position
      versionFits }
    else .error ⟨[.dataError], "integer out of range"⟩
  | _, _ => .error ⟨[.dataError], "numeric field overflow"⟩

/-- The commit of `set_inventory`: the write, or the error it ends with. -/
def setInventoryCommit (db : Database) (warehouseId productId : Id) (request : InventorySet)
    (position : Option InventoryPosition) : Except InventoryCall PositionWrite :=
  match setInventoryWrite warehouseId productId request position with
  | .error e => .error (.failed e)
  | .ok write =>
    if position.isNone && db.positions.any (fun p => p.key = (warehouseId, productId)) then
      .error (.raised (.resourceConflict "The inventory position conflicts with an existing record."))
    else .ok write

/-! ### Partner mappings -/

structure ProductMappingUpsert where
  supplierId : Id
  externalSku : String
  productId : Id
  sourceUnit : UnitOfMeasure
  unitsPerSourceUnit : Numeric183
  active : Bool := true
  positive : 0 < unitsPerSourceUnit.thousandths

structure WarehouseMappingUpsert where
  supplierId : Id
  externalLocation : String
  warehouseId : Id
  active : Bool := true

inductive MappingCall where
  | product (request : ProductMappingUpsert) (loaded : Option SupplierProductMapping)
  | warehouse (request : WarehouseMappingUpsert) (loaded : Option SupplierWarehouseMapping)
  | returned
  | raised (error : DomainError)

def upsertProductMappingRead (db : Database) (request : ProductMappingUpsert) : MappingCall :=
  if !db.suppliers.any (fun s => s.id = request.supplierId) then
    .raised (.resourceNotFound ("Supplier '" ++ request.supplierId.repr ++ "' was not found."))
  else if !db.products.contains request.productId then
    .raised (.resourceNotFound ("Product '" ++ request.productId.repr ++ "' was not found."))
  else .product request (Table.lookup SupplierProductMapping.key (request.supplierId, request.externalSku)
    db.productMappings)

def newProductMapping (request : ProductMappingUpsert) : SupplierProductMapping where
  supplierId := request.supplierId
  externalSku := request.externalSku
  productId := request.productId
  sourceUnit := request.sourceUnit
  unitsPerSourceUnit := request.unitsPerSourceUnit
  active := request.active

def changedProductMapping (request : ProductMappingUpsert) (loaded : SupplierProductMapping) :
    SupplierProductMapping :=
  if loaded.productId ≠ request.productId ∨ loaded.sourceUnit ≠ request.sourceUnit ∨
      loaded.unitsPerSourceUnit ≠ request.unitsPerSourceUnit ∨ loaded.active ≠ request.active then
    { loaded with
      productId := request.productId
      sourceUnit := request.sourceUnit
      unitsPerSourceUnit := request.unitsPerSourceUnit
      active := request.active
      version := loaded.version + 1 }
  else loaded

def SupplierProductMapping.writeBack (loaded new current : SupplierProductMapping) : SupplierProductMapping :=
  { current with
    productId := Columns.writeBack loaded.productId new.productId current.productId
    sourceUnit := Columns.writeBack loaded.sourceUnit new.sourceUnit current.sourceUnit
    unitsPerSourceUnit :=
      Columns.writeBack loaded.unitsPerSourceUnit new.unitsPerSourceUnit current.unitsPerSourceUnit
    active := Columns.writeBack loaded.active new.active current.active
    version := Columns.writeBack loaded.version new.version current.version }

def upsertProductMappingCommit (db : Database) (request : ProductMappingUpsert)
    (loaded : Option SupplierProductMapping) : Except DomainError Database :=
  match loaded with
  | none =>
    if db.productMappings.any fun m => m.key = (request.supplierId, request.externalSku) then
      .error (.resourceConflict "The supplier product mapping could not be saved.")
    else .ok { db with productMappings := db.productMappings ++ [newProductMapping request] }
  | some mapping =>
    let changed := mapping.writeBack (changedProductMapping request mapping)
    .ok { db with
      productMappings := Table.modify SupplierProductMapping.key mapping.key changed db.productMappings }

def upsertWarehouseMappingRead (db : Database) (request : WarehouseMappingUpsert) : MappingCall :=
  if !db.suppliers.any (fun s => s.id = request.supplierId) then
    .raised (.resourceNotFound ("Supplier '" ++ request.supplierId.repr ++ "' was not found."))
  else if !db.warehouses.contains request.warehouseId then
    .raised (.resourceNotFound ("Warehouse '" ++ request.warehouseId.repr ++ "' was not found."))
  else .warehouse request (Table.lookup SupplierWarehouseMapping.key
    (request.supplierId, request.externalLocation) db.warehouseMappings)

def newWarehouseMapping (request : WarehouseMappingUpsert) : SupplierWarehouseMapping where
  supplierId := request.supplierId
  externalLocation := request.externalLocation
  warehouseId := request.warehouseId
  active := request.active

def changedWarehouseMapping (request : WarehouseMappingUpsert) (loaded : SupplierWarehouseMapping) :
    SupplierWarehouseMapping :=
  if loaded.warehouseId ≠ request.warehouseId ∨ loaded.active ≠ request.active then
    { loaded with warehouseId := request.warehouseId, active := request.active, version := loaded.version + 1 }
  else loaded

def SupplierWarehouseMapping.writeBack (loaded new current : SupplierWarehouseMapping) :
    SupplierWarehouseMapping :=
  { current with
    warehouseId := Columns.writeBack loaded.warehouseId new.warehouseId current.warehouseId
    active := Columns.writeBack loaded.active new.active current.active
    version := Columns.writeBack loaded.version new.version current.version }

def upsertWarehouseMappingCommit (db : Database) (request : WarehouseMappingUpsert)
    (loaded : Option SupplierWarehouseMapping) : Except DomainError Database :=
  match loaded with
  | none =>
    if db.warehouseMappings.any fun m => m.key = (request.supplierId, request.externalLocation) then
      .error (.resourceConflict "The supplier warehouse mapping could not be saved.")
    else .ok { db with warehouseMappings := db.warehouseMappings ++ [newWarehouseMapping request] }
  | some mapping =>
    let changed := mapping.writeBack (changedWarehouseMapping request mapping)
    .ok { db with
      warehouseMappings := Table.modify SupplierWarehouseMapping.key mapping.key changed db.warehouseMappings }

end SupplyChainHub
