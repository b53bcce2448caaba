import SupplyChainHub.Api.Calls
import SupplyChainHub.Imports.Constraints
import SupplyChainHub.Imports.UniqueKeys

/-!
The tables over whole runs of calls: the unique constraints, the foreign keys and the checks of
`infrastructure/db/models.py`, and what is beyond them. The lines of an order are numbered as they came, and a
shipment is of an order of its own supplier.
-/

namespace SupplyChainHub

/-- `set_inventory` with nothing in between. -/
def setInventory (db : Database) (warehouseId productId : Id) (request : InventorySet) : Database :=
  match setInventoryRead db warehouseId productId request with
  | .loaded warehouseId productId request position =>
    match setInventoryCommit db warehouseId productId request position with
    | .ok write => { db with positions := write.apply db.positions }
    | .error _ => db
  | _ => db

/-! ### The machine -/

inductive ApiLabel (zones : TimeZones) where
  | serve (occasion : Occasion) (call : ApiCall zones)
  | setInventory (warehouseId productId : Id) (request : InventorySet)

namespace ApiState

/-- The ids that rows have. -/
def ids (state : ApiState) : List Id :=
  state.catalog.suppliers.map (·.id) ++ state.catalog.products.map (·.id) ++ state.catalog.warehouses.map (·.id) ++
    state.catalog.purchaseOrders.map (·.id) ++ state.shipments.map (·.id) ++ state.imports.jobs.map (·.id)

/-- The `uuid4` of a new row is fresh. -/
def step {zones : TimeZones} (env : Env) (state : ApiState) : ApiLabel zones → Option ApiState
  | .serve occasion call =>
    if occasion.id ∈ state.ids then none else some (serve env state occasion call).db
  | .setInventory warehouseId productId request =>
    some { state with imports := SupplyChainHub.setInventory state.importing warehouseId productId request }

abbrev Run (zones : TimeZones) (env : Env) : ApiState → ApiState → Prop :=
  Machine.Run (@step zones env) Machine.unguarded

end ApiState

/-! ### The constraints of a row

Every column can hold its value. -/

section
variable (catalog : Catalog)

structure PurchaseOrderLine.Constrained (line : PurchaseOrderLine) : Prop where
  held : Schema.purchaseOrderLines.holds line.row = true
  product : line.productId ∈ catalog.products.map (·.id)
  orderedQuantityPositive : 0 < line.orderedQuantity.thousandths
  receivedQuantityNonnegative : 0 ≤ line.receivedQuantity.thousandths

/-- The lines are numbered from 1 on, and have a product each. -/
structure PurchaseOrderRow.Constrained (order : PurchaseOrderRow) : Prop where
  held : Schema.purchaseOrders.holds order.row = true
  supplier : order.supplierId ∈ catalog.suppliers.map (·.id)
  some : order.lines ≠ []
  lineNumbers : order.lines.map (·.lineNumber) = List.range' 1 order.lines.length
  lineProducts : (order.lines.map (·.productId)).Nodup
  lines : ∀ line ∈ order.lines, line.Constrained catalog

structure Shipment.Constrained (s : Shipment) : Prop where
  held : Schema.shipments.holds s.row = true
  supplier : s.supplierId ∈ catalog.suppliers.map (·.id)
  purchaseOrder : ∃ order ∈ catalog.purchaseOrders, order.id = s.purchaseOrderId ∧ order.supplierId = s.supplierId

end

structure Catalog.Constrained (catalog : Catalog) : Prop where
  suppliersHeld : ∀ s ∈ catalog.suppliers, Schema.suppliers.holds s.row = true
  supplierIds : (catalog.suppliers.map fun s => s.id).Nodup
  supplierCodes : (catalog.suppliers.map fun s => s.code).Nodup
  productsHeld : ∀ p ∈ catalog.products, Schema.products.holds p.row = true
  productIds : (catalog.products.map Product.id).Nodup
  productSkus : (catalog.products.map Product.sku).Nodup
  warehousesHeld : ∀ w ∈ catalog.warehouses, Schema.warehouses.holds w.row = true
  warehouseIds : (catalog.warehouses.map Warehouse.id).Nodup
  warehouseCodes : (catalog.warehouses.map Warehouse.code).Nodup
  orderIds : (catalog.purchaseOrders.map PurchaseOrderRow.id).Nodup
  orderReferences : (catalog.purchaseOrders.map fun o => (o.supplierId, o.externalReference)).Nodup
  orders : ∀ o ∈ catalog.purchaseOrders, o.Constrained catalog

structure ApiState.Constrained (state : ApiState) : Prop where
  catalog : state.catalog.Constrained
  shipmentIds : (state.shipments.map Shipment.id).Nodup
  trackingReferences : (state.shipments.map fun s => (s.supplierId, s.trackingReference)).Nodup
  shipments : ∀ s ∈ state.shipments, s.Constrained state.catalog
  eventKeys : (state.shipmentEvents.map ShipmentEvent.key).Nodup
  events : ∀ e ∈ state.shipmentEvents, e.shipmentId ∈ state.shipments.map (·.id)
  imports : state.importing.Constrained
  importKeys : state.importing.UniqueKeys

/-! ### Master data -/

/-- Nothing that a row may refer to is gone. -/
structure Catalog.Within (catalog later : Catalog) : Prop where
  suppliers : catalog.suppliers ⊆ later.suppliers
  products : catalog.products ⊆ later.products
  warehouses : catalog.warehouses ⊆ later.warehouses
  purchaseOrders : catalog.purchaseOrders ⊆ later.purchaseOrders

section
variable {catalog later : Catalog} {id : Id}

theorem PurchaseOrderRow.Constrained.mono {order : PurchaseOrderRow} (within : catalog.Within later)
    (row : order.Constrained catalog) : order.Constrained later :=
  { row with
    supplier := List.map_subset _ within.suppliers row.supplier
    lines := fun line member =>
      { row.lines line member with product := List.map_subset _ within.products (row.lines line member).product } }

theorem Shipment.Constrained.mono {s : Shipment} (within : catalog.Within later) (row : s.Constrained catalog) :
    s.Constrained later := by
  obtain ⟨order, present, mine⟩ := row.purchaseOrder
  exact { row with
    supplier := List.map_subset _ within.suppliers row.supplier
    purchaseOrder := ⟨order, within.purchaseOrders present, mine⟩ }

/-- What a call makes of the catalog: what it was, or one row more, of a key that no row had. -/
inductive Catalog.Grown (catalog : Catalog) (id : Id) : Catalog → Prop where
  | same : Grown catalog id catalog
  | supplier (row : SupplierRow) (new : row.id = id) (held : Schema.suppliers.holds row.row = true)
      (free : ∀ s ∈ catalog.suppliers, s.code ≠ row.code) :
      Grown catalog id { catalog with suppliers := catalog.suppliers ++ [row] }
  | product (row : Product) (new : row.id = id) (held : Schema.products.holds row.row = true)
      (free : ∀ p ∈ catalog.products, p.sku ≠ row.sku) :
      Grown catalog id { catalog with products := catalog.products ++ [row] }
  | warehouse (row : Warehouse) (new : row.id = id) (held : Schema.warehouses.holds row.row = true)
      (free : ∀ w ∈ catalog.warehouses, w.code ≠ row.code) :
      Grown catalog id { catalog with warehouses := catalog.warehouses ++ [row] }
  | purchaseOrder (row : PurchaseOrderRow) (new : row.id = id) (sound : row.Constrained catalog)
      (free : ∀ o ∈ catalog.purchaseOrders,
        (o.supplierId, o.externalReference) ≠ (row.supplierId, row.externalReference)) :
      Grown catalog id { catalog with purchaseOrders := catalog.purchaseOrders ++ [row] }

theorem createSupplier_grown (request : SupplierCreate) :
    catalog.Grown id (createSupplier catalog request id).db := by
  unfold createSupplier
  refine commit_either (P := catalog.Grown id) .same fun passed => ?_
  obtain ⟨held, free⟩ := List.forall_mem_singleton.mp passed
  exact .supplier _ rfl held (by simpa using free)

theorem createProduct_grown (request : ProductCreate) :
    catalog.Grown id (createProduct catalog request id).db := by
  unfold createProduct
  refine commit_either (P := catalog.Grown id) .same fun passed => ?_
  obtain ⟨held, free⟩ := List.forall_mem_singleton.mp passed
  exact .product _ rfl held (by simpa using free)

theorem createWarehouse_grown {zones : TimeZones} (request : WarehouseCreate zones) :
    catalog.Grown id (createWarehouse catalog request id).db := by
  unfold createWarehouse
  refine commit_either (P := catalog.Grown id) .same fun passed => ?_
  obtain ⟨held, free⟩ := List.forall_mem_singleton.mp passed
  exact .warehouse _ rfl held (by simpa using free)

theorem purchaseOrderLines_numbers (lines : List PurchaseOrderLineCreate) :
    (purchaseOrderLines lines).map (·.lineNumber) = List.range' 1 lines.length := by
  rw [purchaseOrderLines, List.map_map]
  exact List.zipIdx_map_snd 1 lines

theorem purchaseOrderLines_products (lines : List PurchaseOrderLineCreate) :
    (purchaseOrderLines lines).map (·.productId) = lines.map (·.productId) := by
  have create : ((lines.zipIdx 1).map Prod.fst).map (·.productId) = lines.map (·.productId) := by
    rw [List.zipIdx_map_fst]
  rw [List.map_map] at create
  rw [purchaseOrderLines, List.map_map]
  exact create

theorem line_constrained {request : PurchaseOrderCreate} (writes : request.Writes catalog) {line : PurchaseOrderLine}
    (member : line ∈ purchaseOrderLines request.lines) : line.Constrained catalog := by
  obtain ⟨⟨create, n⟩, present, rfl⟩ := List.mem_map.mp member
  obtain ⟨product, there, same⟩ := writes.2.2 create (List.fst_mem_of_mem_zipIdx present)
  refine ⟨line_holds request.bounds.2 member, List.mem_map.mpr ⟨product, there, same⟩, ?_, le_refl _⟩
  exact create.orderedQuantity.positive

theorem createPurchaseOrder_grown (request : PurchaseOrderCreate) :
    catalog.Grown id (createPurchaseOrder catalog request id).db := by
  unfold createPurchaseOrder
  cases refused : purchaseOrderRefused catalog request with
  | some e => exact .same
  | none =>
    obtain ⟨⟨supplier, there, same⟩, once, products⟩ := purchaseOrder_writes.mp refused
    refine commit_either (P := catalog.Grown id) .same fun passed => ?_
    obtain ⟨⟨held, free⟩, -⟩ := List.forall_mem_cons.mp passed
    refine .purchaseOrder _ rfl ?_ (by simpa using free)
    constructor
    · exact held
    · exact List.mem_map.mpr ⟨supplier, there, same⟩
    · exact fun none => absurd request.bounds.1 (by simpa [purchaseOrderLines] using none)
    · rw [purchaseOrderLines_numbers]
      simp [purchaseOrderLines]
    · exact purchaseOrderLines_products request.lines ▸ once
    · exact fun line member => line_constrained (purchaseOrder_writes.mp refused) member

namespace Catalog.Grown

theorem within (grown : catalog.Grown id later) : catalog.Within later := by
  cases grown <;> exact ⟨by simp, by simp, by simp, by simp⟩

theorem constrained (grown : catalog.Grown id later) (sound : catalog.Constrained)
    (fresh : id ∉ catalog.suppliers.map (·.id) ++ catalog.products.map (·.id) ++ catalog.warehouses.map (·.id) ++
      catalog.purchaseOrders.map (·.id)) : later.Constrained := by
  have orders : ∀ o ∈ catalog.purchaseOrders, o.Constrained later :=
    fun o member => (sound.orders o member).mono grown.within
  simp only [List.mem_append, not_or, List.mem_map, not_exists, not_and] at fresh
  obtain ⟨⟨⟨supplier, product⟩, warehouse⟩, order⟩ := fresh
  cases grown with
  | same => exact sound
  | supplier row new held free =>
    exact { sound with
      suppliersHeld := Table.forall_push sound.suppliersHeld held
      supplierIds := Table.keys_push sound.supplierIds (new ▸ supplier)
      supplierCodes := Table.keys_push sound.supplierCodes free
      orders }
  | product row new held free =>
    exact { sound with
      productsHeld := Table.forall_push sound.productsHeld held
      productIds := Table.keys_push sound.productIds (new ▸ product)
      productSkus := Table.keys_push sound.productSkus free
      orders }
  | warehouse row new held free =>
    exact { sound with
      warehousesHeld := Table.forall_push sound.warehousesHeld held
      warehouseIds := Table.keys_push sound.warehouseIds (new ▸ warehouse)
      warehouseCodes := Table.keys_push sound.warehouseCodes free
      orders }
  | purchaseOrder row new constrained free =>
    exact { sound with
      orderIds := Table.keys_push sound.orderIds (new ▸ order)
      orderReferences := Table.keys_push sound.orderReferences free
      orders := Table.forall_push orders (constrained.mono (within (.purchaseOrder row new constrained free))) }

end Catalog.Grown

end

/-! ### Shipments -/

section
variable {db later : ShipmentDatabase} {catalog : Catalog} {id : Id}

theorem shipmentStatus_holds (status : ShipmentStatus) : status.value.length ≤ 30 ∧ hasNul status.value = false := by
  cases status <;> decide

theorem Shipment.row_holds (s : Shipment) : Schema.shipments.holds s.row =
    (s.trackingReference.length ≤ 100 && !hasNul s.trackingReference) := by
  simp [Schema.shipments, Shipment.row, shipmentStatus_holds]

/-- What a call makes of the shipments and their events. -/
inductive ShipmentDatabase.Grown (db : ShipmentDatabase) (id : Id) : ShipmentDatabase → Prop where
  | same : Grown db id db
  | created (row : Shipment) (new : row.id = id) (held : Schema.shipments.holds row.row = true)
      (supplier : row.supplierId ∈ db.suppliers)
      (order : ∃ order ∈ db.purchaseOrders, order.id = row.purchaseOrderId ∧ order.supplierId = row.supplierId)
      (free : ∀ s ∈ db.shipments, (s.supplierId, s.trackingReference) ≠ (row.supplierId, row.trackingReference)) :
      Grown db id { db with shipments := db.shipments ++ [row] }
  | added (p : PendingEvent) (present : p.loaded ∈ db.shipments)
      (free : ∀ e ∈ db.shipmentEvents, e.key ≠ p.event.key) : Grown db id (p.written db)

theorem createShipment_grown (request : ShipmentCreate) : db.Grown id (createShipment db request id).db := by
  unfold createShipment
  cases refused : shipmentRefused db request with
  | some e => exact .same
  | none =>
    obtain ⟨supplier, order, ordered, mine⟩ := shipment_writes.mp refused
    have there := List.mem_of_find?_eq_some ordered
    have same : order.id = request.purchaseOrderId := by simpa using List.find?_some ordered
    have committed : db.Grown id (commit db { db with shipments := db.shipments ++ [newShipment request id] }
        [{ table := Schema.shipments, row := (newShipment request id).row, violates := request.taken db }]
        ("This supplier already has a shipment with tracking reference '" ++ request.trackingReference.text ++
          "'.")).db := by
      refine commit_either (P := db.Grown id) .same fun passed => ?_
      obtain ⟨held, free⟩ := List.forall_mem_singleton.mp passed
      refine .created (newShipment request id) rfl held supplier ⟨order, there, same, mine⟩ ?_
      simpa [ShipmentCreate.taken, newShipment] using free
    dsimp only
    split <;> exact committed

theorem addShipmentEvent_grown (shipmentId : Id) (request : ShipmentEventCreate) :
    db.Grown id (addShipmentEvent db shipmentId request).db := by
  cases found : db.shipment shipmentId with
  | none =>
    obtain ⟨e, ended⟩ := addShipmentEvent_absent found request
    rw [ended]
    exact .same
  | some s =>
    cases loads : db.loads shipmentId with
    | false =>
      rw [addShipmentEvent_unloadable loads]
      exact .same
    | true =>
      have effect := addShipmentEvent_effect request found loads
      generalize addShipmentEvent db shipmentId request = outcome at effect
      cases effect with
      | unsent | refused | unwritten => exact .same
      | committed p loaded asked plain free =>
        subst loaded asked
        refine .added p (Table.lookup_mem found) fun e member same => ?_
        exact List.any_eq_false.mp free e member (decide_eq_true same)

end

/-! ### Imports -/

/-- What a call makes of the tables of the imports: rows that satisfy the constraints, under the same master data. -/
structure Database.Kept (db after : Database) : Prop where
  suppliers : after.suppliers = db.suppliers
  products : after.products = db.products
  warehouses : after.warehouses = db.warehouses
  rows : after.Constrained
  unique : after.UniqueKeys

section
variable {env : Env} {settings : Settings} {db after : Database} {objects : ObjectStore} {request : SubmitRequest}
    {correlationId : Option CorrelationId} {occasion : Occasion}

theorem Database.Kept.refl (rows : db.Constrained) (unique : db.UniqueKeys) : db.Kept db :=
  ⟨rfl, rfl, rfl, rows, unique⟩

theorem MappingCall.send_either {P : Database → Prop} (call : MappingCall) (stays : P db)
    (commits : ∀ after, call.commit db = .ok after → P after) : P (call.send db).db := by
  unfold MappingCall.send
  split
  · exact stays
  · split
    · exact stays
    · cases ended : call.commit db with
      | error e => exact stays
      | ok after => exact commits after ended

theorem sendMapping_kept {call : MappingCall} (refers : call.Refers db.keys) (rows : db.Constrained)
    (unique : db.UniqueKeys) : db.Kept (call.send db).db := by
  refine call.send_either (.refl rows unique) fun after committed => ?_
  have others (imports : SameImports db after) (positions : after.positions = db.positions)
      (mappings : after.MappingsUnique) : after.UniqueKeys := by
    refine ⟨mappings, ?_, ?_, ?_, ?_, ?_⟩
    · exact positions ▸ unique.positions
    · exact imports.jobs ▸ unique.jobIds
    · exact imports.jobs ▸ unique.jobs
    · exact imports.attempts ▸ unique.attempts
    · exact imports.snapshots ▸ unique.snapshots
  cases call with
  | product request loaded =>
    obtain ⟨imports, positions⟩ := upsertProductMapping_imports committed
    obtain ⟨same, constrained⟩ := upsertProductMappingCommit_constrained rows refers committed
    refine ⟨imports.suppliers, congrArg Keys.products same, congrArg Keys.warehouses same, ?_, ?_⟩
    · rw [Database.Constrained, same]
      exact constrained
    · exact others imports positions (productMappingCommit_unique unique.toMappingsUnique committed)
  | warehouse request loaded =>
    obtain ⟨imports, positions⟩ := upsertWarehouseMapping_imports committed
    obtain ⟨same, constrained⟩ := upsertWarehouseMappingCommit_constrained rows refers committed
    refine ⟨imports.suppliers, congrArg Keys.products same, congrArg Keys.warehouses same, ?_, ?_⟩
    · rw [Database.Constrained, same]
      exact constrained
    · exact others imports positions (warehouseMappingCommit_unique unique.toMappingsUnique committed)
  | returned =>
    obtain rfl := Except.ok.inj committed
    exact .refl rows unique
  | raised e => cases committed

/-- The rows of a submission are those of its insert, or none. -/
theorem submitInventoryImport_either {P : Database → Prop} (stays : P db)
    (inserts : ∀ supplierId objectKey after, supplierId ∈ db.keys.suppliers →
      submitInsert settings db request supplierId objectKey occasion.id occasion.now = .ok after → P after) :
    P (submitInventoryImport settings db objects request correlationId occasion).db.1 := by
  unfold submitInventoryImport
  split
  · rename_i missed
    dsimp only
    split
    · exact stays
    · refine commit_either (P := fun outcome : Database × ObjectStore => P outcome.1) stays fun passed => ?_
      obtain ⟨held, free⟩ := passed _ List.mem_cons_self
      have fitting : request.Fitting := queuedJob_fitting held
      have vacant := Bool.eq_false_iff.mp free
      refine inserts _ _ _ ?_ ((if_neg (not_not.mpr fitting)).trans (if_neg vacant))
      unfold submitLookup at missed
      split at missed
      · cases missed
      · rename_i supplier found
        split at missed
        · obtain ⟨-, rfl⟩ := Submission.missed.inj missed
          exact List.mem_map_of_mem (List.mem_of_find?_eq_some found)
        · split at missed <;> cases missed
  · exact stays
  · exact stays

theorem submitInsert_kept {supplierId : Id} {objectKey : String} {id : Id} {now : Timestamp} (rows : db.Constrained)
    (unique : db.UniqueKeys) (fresh : id ∉ db.jobs.map (·.id)) (supplier : supplierId ∈ db.keys.suppliers)
    (first : request.replayOfJobId = none)
    (h : submitInsert settings db request supplierId objectKey id now = .ok after) : db.Kept after := by
  have master := submitInsert_master h
  obtain ⟨-, constrained⟩ := submitInsert_constrained rows supplier (by simp [first]) h
  refine ⟨master.suppliers, master.products, master.warehouses, constrained, ?_⟩
  obtain ⟨-, free, rfl⟩ := submitInsert_written h
  refine { unique with jobIds := Table.keys_push unique.jobIds ?_, jobs := Table.keys_push unique.jobs free }
  exact fun j member same => fresh (List.mem_map.mpr ⟨j, member, same⟩)

theorem importInventory_kept {upload : Upload} {key : IdempotencyKey} (rows : db.Constrained)
    (unique : db.UniqueKeys) (fresh : occasion.id ∉ db.jobs.map (·.id)) :
    db.Kept (importInventory env db objects upload key correlationId occasion).db.1 := by
  have submits {request : SubmitRequest} (first : request.replayOfJobId = none) :
      db.Kept (submitInventoryImport env.settings db objects request correlationId occasion).db.1 := by
    refine submitInventoryImport_either (.refl rows unique) fun supplierId objectKey after supplier inserted => ?_
    exact submitInsert_kept rows unique fresh supplier first inserted
  unfold importInventory
  cases upload with
  | supplierA => exact submits rfl
  | supplierB =>
    dsimp only
    split
    · exact .refl rows unique
    · exact submits rfl

theorem setInventory_kept {warehouseId productId : Id} {request : InventorySet} (rows : db.Constrained)
    (unique : db.UniqueKeys) : db.Kept (setInventory db warehouseId productId request) := by
  unfold setInventory
  split
  · rename_i position loaded
    have refers : (InventoryCall.loaded _ _ _ _).Refers db.keys := loaded ▸ setInventoryRead_refers
    split
    · rename_i write committed
      have written := apply_constrained (setInventoryCommit_refers refers committed) rows.positions
      refine ⟨rfl, rfl, rfl, { rows with positions := written }, { unique with positions := ?_ }⟩
      show (List.map _ (write.apply db.positions)).Nodup
      rw [apply_keys]
      obtain ⟨-, read, same⟩ := setInventoryCommit_origin committed
      cases position with
      | some row =>
        rw [inserted_some read, List.append_nil]
        exact unique.positions
      | none =>
        have absent := setInventoryCommit_absent committed
        rw [inserted_none read, same]
        refine unique.positions.append (List.nodup_singleton _) fun place old new => ?_
        exact absent (List.mem_singleton.mp new ▸ old)
    · exact .refl rows unique
  · exact .refl rows unique

end

/-! ### Every run -/

namespace ApiState

section
variable {zones : TimeZones} {env : Env} {start state next : ApiState} {id : Id} {catalog : Catalog}
    {db : ShipmentDatabase} {imports : Database}

theorem grown_constrained (sound : state.Constrained) (fresh : id ∉ state.ids)
    (grown : state.catalog.Grown id catalog) : ({ state with catalog } : ApiState).Constrained := by
  have within := grown.within
  have keys : state.importing.keys.Within ({ state with catalog } : ApiState).importing.keys := by
    refine ⟨?_, List.map_subset _ within.products, List.map_subset _ within.warehouses, fun _ member => member⟩
    exact List.map_subset _ (List.map_subset _ within.suppliers)
  simp only [ids, List.mem_append, not_or] at fresh
  have rows : ({ state with catalog } : ApiState).importing.ConstrainedBy state.importing.keys := { sound.imports with }
  exact { sound with
    catalog := grown.constrained sound.catalog (by simp only [List.mem_append, not_or]; exact fresh.1.1)
    shipments := fun s member => (sound.shipments s member).mono within
    imports := rows.mono keys
    importKeys := { sound.importKeys with } }

theorem shipped_constrained (sound : state.Constrained) (fresh : id ∉ state.ids) (grown : state.shipping.Grown id db) :
    (state.shipped db).Constrained := by
  simp only [ids, List.mem_append, not_or] at fresh
  cases grown with
  | same => exact { sound with }
  | created row new held supplier order free =>
    obtain ⟨order, there, same, mine⟩ := order
    obtain ⟨ordered, present, rfl⟩ := List.mem_map.mp there
    have refers : ∃ o ∈ state.catalog.purchaseOrders, o.id = row.purchaseOrderId ∧ o.supplierId = row.supplierId :=
      ⟨ordered, present, same, mine⟩
    have ids : row.id ∉ state.shipments.map (·.id) := new ▸ fresh.1.2
    exact { sound with
      shipmentIds := Table.keys_push sound.shipmentIds fun s member same => ids (List.mem_map.mpr ⟨s, member, same⟩)
      trackingReferences := Table.keys_push sound.trackingReferences free
      shipments := Table.forall_push sound.shipments ⟨held, supplier, refers⟩
      events := fun e member => List.map_subset _ (List.subset_append_left _ _) (sound.events e member) }
  | added p present free =>
    let shipments := Table.modify Shipment.id p.loaded.id (p.loaded.writeBack p.changed) state.shipments
    have ids : shipments.map Shipment.id = state.shipments.map Shipment.id := Table.map_modify fun _ _ => rfl
    have references : (shipments.map fun s => (s.supplierId, s.trackingReference)) =
        state.shipments.map fun s => (s.supplierId, s.trackingReference) := Table.map_modify fun _ _ => rfl
    refine { sound with
      shipmentIds := ids ▸ sound.shipmentIds
      trackingReferences := references ▸ sound.trackingReferences
      shipments := Table.forall_modify sound.shipments fun s _ row => ?_
      eventKeys := Table.keys_push sound.eventKeys free
      events := ?_ }
    · have held := row.held
      rw [Shipment.row_holds] at held
      exact { row with held := (Shipment.row_holds _).trans held }
    · have known : ∀ e ∈ state.shipmentEvents ++ [p.event], e.shipmentId ∈ state.shipments.map Shipment.id :=
        Table.forall_push sound.events (List.mem_map_of_mem present)
      exact ids ▸ known

theorem kept_constrained (sound : state.Constrained) (kept : state.importing.Kept imports) (objects : ObjectStore) :
    ({ state with imports, objects } : ApiState).Constrained := by
  have same : ({ state with imports, objects } : ApiState).importing = imports := by
    obtain ⟨suppliers, products, warehouses, -, -⟩ := kept
    show { imports with
      suppliers := state.importing.suppliers
      products := state.importing.products
      warehouses := state.importing.warehouses } = imports
    rw [← suppliers, ← products, ← warehouses]
  exact { sound with imports := same ▸ kept.rows, importKeys := same ▸ kept.unique }

theorem serve_constrained (sound : state.Constrained) {occasion : Occasion} (fresh : occasion.id ∉ state.ids)
    (call : ApiCall zones) : (serve env state occasion call).db.Constrained := by
  cases call with
  | createSupplier request => exact grown_constrained sound fresh (createSupplier_grown request)
  | createProduct request => exact grown_constrained sound fresh (createProduct_grown request)
  | createWarehouse request => exact grown_constrained sound fresh (createWarehouse_grown request)
  | createPurchaseOrder request => exact grown_constrained sound fresh (createPurchaseOrder_grown request)
  | createShipment request => exact shipped_constrained sound fresh (createShipment_grown request)
  | addShipmentEvent shipmentId request =>
    exact shipped_constrained sound fresh (addShipmentEvent_grown shipmentId request)
  | upsertProductMapping request =>
    exact kept_constrained sound (sendMapping_kept upsertProductMappingRead_refers sound.imports sound.importKeys) _
  | upsertWarehouseMapping request =>
    exact kept_constrained sound (sendMapping_kept upsertWarehouseMappingRead_refers sound.imports sound.importKeys) _
  | importInventory upload key correlationId =>
    simp only [ids, List.mem_append, not_or] at fresh
    exact kept_constrained sound (importInventory_kept sound.imports sound.importKeys fresh.2) _

theorem step_constrained {l : ApiLabel zones} (sound : state.Constrained) (h : step env state l = some next) :
    next.Constrained := by
  cases l with
  | serve occasion call =>
    rw [step] at h
    split at h
    · cases h
    · rename_i fresh
      obtain rfl := Option.some.inj h
      exact serve_constrained sound fresh call
  | setInventory warehouseId productId request =>
    obtain rfl := Option.some.inj h
    exact kept_constrained sound (setInventory_kept sound.imports sound.importKeys) _

theorem empty_constrained : ({} : ApiState).Constrained := by
  have none {α : Type} {P : α → Prop} : ∀ x ∈ ([] : List α), P x := List.forall_mem_nil P
  constructor
  · exact ⟨none, List.nodup_nil, List.nodup_nil, none, List.nodup_nil, List.nodup_nil, none, List.nodup_nil,
      List.nodup_nil, List.nodup_nil, List.nodup_nil, none⟩
  · exact List.nodup_nil
  · exact List.nodup_nil
  · exact none
  · exact List.nodup_nil
  · exact none
  · exact ⟨none, none, none, none, none, none, none, none⟩
  · exact ⟨⟨List.nodup_nil, List.nodup_nil⟩, List.nodup_nil, List.nodup_nil, List.nodup_nil, List.nodup_nil,
      List.nodup_nil⟩

theorem run_constrained (sound : start.Constrained) (run : Run zones env start state) : state.Constrained :=
  run.invariant (fun _ _ _ sound _ step => step_constrained sound step) sound

/-- From an empty database on, whatever calls are served, every row satisfies the constraints of its table. -/
theorem api_constraints_hold (run : Run zones env {} state) : state.Constrained :=
  run_constrained empty_constrained run

end

end ApiState

/-! ### A small order

Supplier B delivers five of a product. -/

namespace SmallDesk

theorem sku_bounds : 2 ≤ "SKU-1".length ∧ "SKU-1".length ≤ 100 := by decide

theorem sku_pattern : codePattern "SKU-1".toList = true := by decide

theorem five_fits : (5000 : Int).natAbs < 10 ^ 18 := by decide

theorem five_positive : (0 : Int) < 5000 := by decide

def line : PurchaseOrderLineCreate where
  productId := 3
  orderedQuantity := ⟨⟨5000, five_fits⟩, five_positive⟩

theorem one_line : 1 ≤ [line].length ∧ [line].length ≤ 100 := by decide

theorem order_bounds : 1 ≤ "PO-1".length ∧ "PO-1".length ≤ 100 := by decide

theorem code_bounds : 2 ≤ "SUPPLIER_B".length ∧ "SUPPLIER_B".length ≤ 100 := by decide

theorem code_pattern : codePattern "SUPPLIER_B".toList = true := by decide

def code : Code := ⟨"SUPPLIER_B", code_bounds, code_pattern⟩

def received (id : Id) : Occasion := { occasion with id }

/-- The calls up to the pick-up of the shipment. -/
def delivery : List (ApiLabel zones) := [
  .serve (received 2) (supplier code),
  .serve (received 3) (.createProduct {
    sku := ⟨"SKU-1", sku_bounds, sku_pattern⟩
    name := ⟨"Supplier C", name_bounds⟩
    baseUnit := .each }),
  .serve (received 4) (.createPurchaseOrder {
    supplierId := 2
    externalReference := ⟨"PO-1", order_bounds⟩
    lines := [line]
    bounds := one_line }),
  .serve (received 5) (.createShipment { SmallYard.shipment with supplierId := 2, purchaseOrderId := 4 }),
  .serve (received 6) (.addShipmentEvent 5 SmallYard.pickedUp)]

end SmallDesk

theorem api_constraints_hold_picked_up : ∃ state, ApiState.Run SmallDesk.zones SmallDesk.env {} state ∧
    state.shipmentEvents.length = 1 ∧ state.Constrained := by
  have shown : (Machine.exec (ApiState.step SmallDesk.env) ({} : ApiState) SmallDesk.delivery).any
      (fun state => decide (state.shipmentEvents.length = 1)) = true := by decide +kernel
  simp only [Option.any_eq_true, decide_eq_true_eq] at shown
  obtain ⟨state, steps, added⟩ := shown
  have run : ApiState.Run SmallDesk.zones SmallDesk.env {} state := Machine.exec_run (fun _ _ _ => trivial) steps
  exact ⟨state, run, added, ApiState.api_constraints_hold run⟩

end SupplyChainHub
