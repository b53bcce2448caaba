import SupplyChainHub.Catalog.Calls
import SupplyChainHub.Imports.Uploads
import SupplyChainHub.Inventory.MappingColumns
import SupplyChainHub.Shipments.Sending

/-!
What the API admits and what the database can store: the calls that write a request's values, on one state,
and when each ends in a way that the API answers.
-/

namespace SupplyChainHub

open Storage (Fits)

/-- The committed rows, and the objects of the bucket. The master data is what `catalog` has. -/
structure ApiState where
  catalog : Catalog := {}
  shipments : List Shipment := []
  shipmentEvents : List ShipmentEvent := []
  imports : Database := {}
  objects : ObjectStore := fun _ => none

namespace ApiState

/-- The tables of the shipment calls. -/
def shipping (state : ApiState) : ShipmentDatabase where
  suppliers := state.catalog.suppliers.map (·.id)
  purchaseOrders := state.catalog.purchaseOrders.map fun order => ⟨order.id, order.supplierId⟩
  shipments := state.shipments
  shipmentEvents := state.shipmentEvents

/-- The tables of the mappings and of the imports. -/
def importing (state : ApiState) : Database :=
  { state.imports with
    suppliers := state.catalog.suppliers.map (·.toSupplier)
    products := state.catalog.products.map (·.id)
    warehouses := state.catalog.warehouses.map (·.id) }

def shipped (state : ApiState) (db : ShipmentDatabase) : ApiState :=
  { state with shipments := db.shipments, shipmentEvents := db.shipmentEvents }

end ApiState

/-- A call with a request that its schema accepts. -/
inductive ApiCall (zones : TimeZones) where
  | createSupplier (request : SupplierCreate)
  | createProduct (request : ProductCreate)
  | createWarehouse (request : WarehouseCreate zones)
  | createPurchaseOrder (request : PurchaseOrderCreate)
  | createShipment (request : ShipmentCreate)
  | addShipmentEvent (shipmentId : Id) (request : ShipmentEventCreate)
  | upsertProductMapping (request : ProductMappingUpsert) (bounds : request.externalSku.length ≤ 100)
  | upsertWarehouseMapping (request : WarehouseMappingUpsert) (bounds : request.externalLocation.length ≤ 100)
  | importInventory (upload : Upload) (key : IdempotencyKey) (correlationId : Option CorrelationId)

def CallOutcome.map {σ τ : Type} (f : σ → τ) (outcome : CallOutcome σ) : CallOutcome τ :=
  ⟨f outcome.db, outcome.error⟩

/-- The status codes of `DomainError.statusCode`. -/
def handledCodes : List Nat := [404, 409, 422, 503]

section
variable {zones : TimeZones}

def serve (env : Env) (state : ApiState) (occasion : Occasion) : ApiCall zones → CallOutcome ApiState
  | .createSupplier request =>
    (createSupplier state.catalog request occasion.id).map fun catalog => { state with catalog }
  | .createProduct request =>
    (createProduct state.catalog request occasion.id).map fun catalog => { state with catalog }
  | .createWarehouse request =>
    (createWarehouse state.catalog request occasion.id).map fun catalog => { state with catalog }
  | .createPurchaseOrder request =>
    (createPurchaseOrder state.catalog request occasion.id).map fun catalog => { state with catalog }
  | .createShipment request => (createShipment state.shipping request occasion.id).map state.shipped
  | .addShipmentEvent shipmentId request => (addShipmentEvent state.shipping shipmentId request).map state.shipped
  | .upsertProductMapping request _ =>
    (sendProductMapping state.importing request).map fun imports => { state with imports }
  | .upsertWarehouseMapping request _ =>
    (sendWarehouseMapping state.importing request).map fun imports => { state with imports }
  | .importInventory upload key correlationId =>
    (importInventory env state.importing state.objects upload key correlationId occasion).map
      fun (imports, objects) => { state with imports, objects }

/-- No value of the call is refused by its column: the codes of suppliers and warehouses have up to 50
characters, what a file is called up to 255, its content type up to 100; no text that is sent has a NUL; no time
that is loaded again is outside the years 1 to 9999 of UTC; no version goes past its column. -/
def ApiCall.Storable (state : ApiState) (occasion : Occasion) : ApiCall zones → Prop
  | .createSupplier request => request.code.text.length ≤ 50 ∧ hasNul request.name.text = false
  | .createProduct request => hasNul request.name.text = false
  | .createWarehouse request => request.code.text.length ≤ 50 ∧ hasNul request.name.text = false
  | .createPurchaseOrder request => request.Writes state.catalog → hasNul request.externalReference.text = false
  | .createShipment request => request.Writes state.shipping →
    hasNul request.trackingReference.text = false ∧
      (request.taken state.shipping = true ∨ request.shippedAt.all readable = true)
  | .addShipmentEvent shipmentId request => ∀ s, state.shipping.shipment shipmentId = some s →
    state.shipping.loads shipmentId = true ∧ hasNul request.externalEventId.text = false ∧
      (state.shipping.hasEvent (s.id, request.externalEventId.text) = true ∨
        allowedTransitions s.status request.eventType = none ∨
        request.reasonCode.any hasNul = false ∧ readable request.occurredAt = true)
  | .upsertProductMapping request _ => request.Writes state.importing →
    hasNul request.externalSku = false ∧
      ∀ m, Table.lookup SupplierProductMapping.key (request.supplierId, request.externalSku)
          state.imports.productMappings = some m →
        changedProductMapping request m ≠ m → m.version < integerMax
  | .upsertWarehouseMapping request _ => request.Writes state.importing →
    hasNul request.externalLocation = false ∧
      ∀ w, Table.lookup SupplierWarehouseMapping.key (request.supplierId, request.externalLocation)
          state.imports.warehouseMappings = some w →
        changedWarehouseMapping request w ≠ w → w.version < integerMax
  | .importInventory upload key _ => upload.Submits key state.importing →
    occasion.outcome = .stored → upload.Fitting

theorem handledCodes_domain (e : DomainError) : e.statusCode ∈ handledCodes := by
  cases e <;> simp [DomainError.statusCode, handledCodes]

/-- The same rows. Only the bucket may have changed. -/
def ApiState.SameRows (after before : ApiState) : Prop :=
  after.catalog = before.catalog ∧ after.shipping = before.shipping ∧ after.importing = before.importing

theorem catalog_kept {state : ApiState} {catalog : Catalog} (same : catalog = state.catalog) :
    ({ state with catalog } : ApiState).SameRows state := by
  subst same
  exact ⟨rfl, rfl, rfl⟩

theorem shipping_kept {state : ApiState} {db : ShipmentDatabase} (same : db = state.shipping) :
    (state.shipped db).SameRows state := by
  subst same
  exact ⟨rfl, rfl, rfl⟩

theorem importing_kept {state : ApiState} {imports : Database} (same : imports = state.importing)
    (objects : ObjectStore) : ({ state with imports, objects } : ApiState).SameRows state := by
  subst same
  exact ⟨rfl, rfl, rfl⟩

/-- A call that the API answers with an error has written no row. -/
theorem answered_error_writes_nothing {env : Env} {state : ApiState} {occasion : Occasion} {call : ApiCall zones}
    {e : DomainError} (refused : (serve env state occasion call).error = some (.domain e)) :
    (serve env state occasion call).db.SameRows state := by
  have failed : (serve env state occasion call).error ≠ none := by simp [refused]
  cases call with
  | createSupplier request => exact catalog_kept (commit_failed failed)
  | createProduct request => exact catalog_kept (commit_failed failed)
  | createWarehouse request => exact catalog_kept (commit_failed failed)
  | createPurchaseOrder request => exact catalog_kept (createPurchaseOrder_failed failed)
  | createShipment request => exact shipping_kept (createShipment_refused refused)
  | addShipmentEvent shipmentId request => exact shipping_kept (addShipmentEvent_refused refused)
  | upsertProductMapping request bounds => exact importing_kept (MappingCall.send_failed failed) _
  | upsertWarehouseMapping request bounds => exact importing_kept (MappingCall.send_failed failed) _
  | importInventory upload key correlationId => exact importing_kept (importInventory_failed failed) _

/-- A call commits, or ends with an error that the API answers, exactly if the columns can hold its values. -/
theorem admitted_call_answered_iff {env : Env} (digests : ∀ content, HexDigest (env.sha256 content))
    (state : ApiState) (occasion : Occasion) (call : ApiCall zones) :
    (serve env state occasion call).Mapped handledCodes ↔ call.Storable state occasion := by
  cases call with
  | createSupplier request => exact createSupplier_mapped request (by decide)
  | createProduct request => exact createProduct_mapped request (by decide)
  | createWarehouse request => exact createWarehouse_mapped request (by decide)
  | createPurchaseOrder request => exact createPurchaseOrder_mapped request (by decide)
  | createShipment request => exact createShipment_mapped request (by decide)
  | addShipmentEvent shipmentId request =>
    cases found : state.shipping.shipment shipmentId with
    | none =>
      obtain ⟨e, ended⟩ := addShipmentEvent_absent found request
      rw [serve, ended]
      exact iff_of_true (CallOutcome.mapped_domain _ (handledCodes_domain e)) fun s present => by
        rw [found] at present
        cases present
    | some s =>
      refine (addShipmentEvent_mapped request found (by decide)).trans ⟨?_, fun holds => holds s found⟩
      intro holds s' present
      obtain rfl := Option.some.inj (found.symm.trans present)
      exact holds
  | upsertProductMapping request bounds => exact sendProductMapping_mapped request bounds (by decide)
  | upsertWarehouseMapping request bounds => exact sendWarehouseMapping_mapped request bounds (by decide)
  | importInventory upload key correlationId => exact importInventory_mapped digests upload key (by decide)

end

/-! ### A small desk

Supplier B is configured, and its next file is empty. -/

namespace SmallDesk

/-- The digest of no bytes. -/
def digest : String := "e3b0c44298fc1c149afbf4c8996fb92427ae41e4649b934ca495991b7852b855"

theorem hexadecimal : HexDigest digest := by decide

def env : Env where
  settings := Small.env.settings
  sha256 _ := digest
  adapter _ _ := .ok {}

theorem utc_plain (zone : String) (known : decide (zone = "UTC") = true) : hasNul zone = false := by
  obtain rfl := of_decide_eq_true known
  decide

def zones : TimeZones where
  known zone := zone = "UTC"
  plain := utc_plain

def state : ApiState where
  catalog := { suppliers := [{ id := 1, code := "SUPPLIER_B", name := "Supplier B" }] }

theorem inYears : 1785337200000000 ≤ lastTimestamp := by decide

def occasion : Occasion where
  outcome := .stored
  putAt := 1785337200000000
  id := 2
  now := seconds 1785337200
  years := inYears

theorem key_bounds : 8 ≤ "FILE-001".length ∧ "FILE-001".length ≤ 128 := by decide

theorem key_pattern : idempotencyPattern "FILE-001".toList = true := by decide

def key : IdempotencyKey := ⟨"FILE-001", key_bounds, key_pattern⟩

/-- A name of so many letters. -/
def letters (n : Nat) : String := String.ofList (List.replicate n 'a')

def file (name : String) : ApiCall zones := .importInventory (.supplierB ByteArray.empty (some name) none) key none

theorem name_bounds : 1 ≤ "Supplier C".length ∧ "Supplier C".length ≤ 200 := by decide

def supplier (code : Code) : ApiCall zones := .createSupplier { code, name := ⟨"Supplier C", name_bounds⟩ }

/-- The object of a file. -/
def objectKey : String := buildRawObjectKey .supplierBCsv digest occasion.putAt

theorem file_unanswered {name : String} (long : 255 < name.length) : serve env state occasion (file name) =
    ⟨{ state with
      imports := state.importing
      objects := state.objects.put objectKey ByteArray.empty },
      some (.unmapped valueError)⟩ := by
  have sound : (supplierBRequest env.sha256 key ByteArray.empty (some name) none).Sound :=
    supplierBRequest_sound hexadecimal (by decide) key _ _
  have missed : submitLookup state.importing (supplierBRequest env.sha256 key ByteArray.empty (some name) none) =
    .missed _ 1 := rfl
  have misfit : ¬ (supplierBRequest env.sha256 key ByteArray.empty (some name) none).Fitting :=
    fun fitting => Nat.not_le_of_lt long (fitting.1 name rfl).1
  have small : ¬ maxCsvBytes < ByteArray.empty.size := by decide
  unfold serve file importInventory
  dsimp only
  rw [if_neg small, submitInventoryImport_misfit sound misfit missed rfl]
  rfl

end SmallDesk

theorem admitted_call_answered :
    (serve SmallDesk.env SmallDesk.state SmallDesk.occasion (SmallDesk.file "stock.csv")).Mapped handledCodes := by
  refine (admitted_call_answered_iff (fun _ => SmallDesk.hexadecimal) _ _ _).mpr fun _ _ => ⟨?_, ?_⟩
  · intro name named
    obtain rfl := Option.some.inj named
    decide
  · decide

/-- A supplier's code of 51 letters; and a file's name of 256, which leaves the object in the bucket. -/
theorem admitted_call_unanswered :
    (∃ code, Code.validate (SmallDesk.letters 51) = some code ∧
      ¬ (serve SmallDesk.env SmallDesk.state SmallDesk.occasion (SmallDesk.supplier code)).Mapped handledCodes) ∧
    ∃ outcome, serve SmallDesk.env SmallDesk.state SmallDesk.occasion (SmallDesk.file (SmallDesk.letters 256)) =
        outcome ∧
      ¬ outcome.Mapped handledCodes ∧ outcome.db.imports.jobs = [] ∧
      outcome.db.objects SmallDesk.objectKey = some ByteArray.empty := by
  constructor
  · have accepted : (Code.validate (SmallDesk.letters 51)).any (fun code => 50 < code.text.length) = true := by
      decide +kernel
    obtain ⟨code, validated, long⟩ := (Option.any_eq_true _ _).mp accepted
    refine ⟨code, validated, fun mapped => ?_⟩
    have fits := (createSupplier_mapped _ (by decide)).mp mapped
    exact Nat.not_le_of_lt (of_decide_eq_true long) fits.1
  · have long : 255 < (SmallDesk.letters 256).length := by
      rw [SmallDesk.letters, String.length_ofList, List.length_replicate]
      decide
    exact ⟨_, SmallDesk.file_unanswered long, CallOutcome.not_mapped _ _ _, rfl,
      put_self SmallDesk.state.objects SmallDesk.objectKey ByteArray.empty⟩

end SupplyChainHub
