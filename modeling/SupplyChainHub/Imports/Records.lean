import SupplyChainHub.Imports.Jobs

/-!
The second transaction of `execute_import_job`: `_apply_inventory_result`, record by record, and
the job's completion.

Every `SELECT` of `_validate_and_apply_record` is a step of its own and sees the rows committed by
then, with the transaction's own writes over them. What the transaction has flushed stays with it
until it commits.
-/

namespace SupplyChainHub

/-! ### Adapter results (`integrations/base.py`) -/

/-- A `Decimal` of a partner, with its text as `str` gives it. -/
structure PartnerDecimal where
  value : ℚ
  text : String
  deriving DecidableEq

structure CanonicalInventoryRecord where
  sourceReference : String
  sourceRow : Nat
  externalSku : String
  externalLocation : String
  observedAt : Moment
  sourceUnit : UnitOfMeasure
  onHandQuantity : ℚ
  reservedQuantity : ℚ
  unitsPerSourceUnit : Option PartnerDecimal
  deriving DecidableEq

structure AdapterError where
  code : String
  message : String
  sourceRow : Option Nat := none
  fieldName : Option String := none
  deriving DecidableEq

structure InventoryAdapterResult where
  records : List CanonicalInventoryRecord := []
  errors : List AdapterError := []
  deriving DecidableEq

def recordError (record : CanonicalInventoryRecord) (code message : String)
    (fieldName : Option String := none) : AdapterError :=
  { code, message, sourceRow := some record.sourceRow, fieldName }

def recordKey (supplierId : Id) (record : CanonicalInventoryRecord) : SourceKey :=
  ⟨supplierId, record.sourceReference, record.externalSku, record.externalLocation⟩

/-- Whether PostgreSQL takes the texts of the source key: text may not contain NUL. -/
def CanonicalInventoryRecord.sendable (record : CanonicalInventoryRecord) : Bool :=
  [record.sourceReference, record.externalSku, record.externalLocation].all fun text =>
    !text.toList.contains (Char.ofNat 0)

/-! ### Position writes -/

/-- One `INSERT` or `UPDATE` of an inventory position: the quantities asked for, what the columns
make of them, the source record it is made for if it is an import's, and the row it was computed
from (none: the statement inserts). The version it counts on from leaves the column room for one more. -/
structure PositionWrite where
  warehouseId : Id
  productId : Id
  onHand : ℚ
  reserved : ℚ
  storedOnHand : Numeric183
  storedReserved : Numeric183
  storesOnHand : Numeric183.store? onHand = some storedOnHand
  storesReserved : Numeric183.store? reserved = some storedReserved
  origin : Option SourceKey
  loaded : Option InventoryPosition
  versionFits : ∀ p ∈ loaded, p.version < integerMax

namespace PositionWrite

def key (w : PositionWrite) : Id × Id := (w.warehouseId, w.productId)

/-- The columns of an `UPDATE` over the row as it stands. -/
def update (w : PositionWrite) (loaded current : InventoryPosition) : InventoryPosition :=
  { current with
    onHandQuantity := Columns.writeAs Numeric183.value loaded.onHandQuantity w.onHand w.storedOnHand
      current.onHandQuantity
    reservedQuantity := Columns.writeAs Numeric183.value loaded.reservedQuantity w.reserved
      w.storedReserved current.reservedQuantity
    version := Columns.writeBack loaded.version (loaded.version + 1) current.version }

def apply (positions : List InventoryPosition) (w : PositionWrite) : List InventoryPosition :=
  match w.loaded with
  | none => positions ++ [{
      warehouseId := w.warehouseId
      productId := w.productId
      onHandQuantity := w.storedOnHand
      reservedQuantity := w.storedReserved }]
  | some loaded => Table.modify InventoryPosition.key w.key (w.update loaded) positions

end PositionWrite

def applyWrites (positions : List InventoryPosition) (writes : List PositionWrite) : List InventoryPosition :=
  writes.foldl PositionWrite.apply positions

/-! ### The transaction -/

/-- How far `_validate_and_apply_record` is with the record at hand. -/
inductive RecordPhase where
  | duplicateCheck
  | productLookup
  | warehouseLookup (productMapping : SupplierProductMapping)
  | positionLookup (productMapping : SupplierProductMapping) (warehouseMapping : SupplierWarehouseMapping)
  | flush (productMapping : SupplierProductMapping) (warehouseMapping : SupplierWarehouseMapping)
      (position : Option InventoryPosition)

/-- The open second transaction. `job.errors` is loaded at its first use; `snapshots`, `writes` and
`newErrors` are not committed yet. -/
structure Applying extends WorkerSession where
  records : List CanonicalInventoryRecord
  phase : RecordPhase := .duplicateCheck
  seen : List (String × String × String) := []
  accepted : Nat := 0
  loadedErrors : Option (List ImportJobError) := none
  newErrors : List ImportJobError := []
  snapshots : List InventorySnapshot := []
  writes : List PositionWrite := []
  events : List OperationEvent
  counted : accepted = snapshots.length
  paired : writes.map (·.origin) = snapshots.map fun s => some s.sourceKey
  owned : ∀ s ∈ snapshots, s.importJobId = job.id
  errorsOwned : ∀ e ∈ newErrors, e.importJobId = job.id

/-- What other open transactions hold: source keys they inserted and position rows they wrote. -/
structure Locks where
  sourceKey : SourceKey → Bool
  position : Id × Id → Bool

inductive Outcome (α : Type) where
  | blocked
  | raised (e : Raised)
  | next (a : α)

namespace Applying

def addImportError (db : Database) (a : Applying) (error : AdapterError) : Applying :=
  { a with
    loadedErrors := some (a.loadedErrors.getD (db.errorsOf a.job.id))
    newErrors := a.newErrors ++ [{
      importJobId := a.job.id
      sourceRow := error.sourceRow
      errorCode := error.code
      fieldName := error.fieldName
      message := error.message }]
    errorsOwned := by
      intro e present
      rcases List.mem_append.mp present with old | new
      · exact a.errorsOwned e old
      · rw [List.mem_singleton.mp new] }

def reject (db : Database) (a : Applying) (rest : List CanonicalInventoryRecord) (error : AdapterError) :
    Applying :=
  { a.addImportError db error with records := rest, phase := .duplicateCheck }

def start (db : Database) (session : WorkerSession) (result : InventoryAdapterResult)
    (events : List OperationEvent) : Applying :=
  result.errors.foldl (addImportError db)
    { session with
      records := result.records
      events
      counted := rfl
      paired := rfl
      owned := by simp
      errorsOwned := by simp }

/-- What holds as the transaction opens, and still does after each error the adapter reported. -/
theorem start_invariant {P : Applying → Prop} {db : Database} {session : WorkerSession}
    {result : InventoryAdapterResult} {events : List OperationEvent}
    (added : ∀ a error, P a → P (a.addImportError db error))
    (opened : P { session with
      records := result.records
      events
      counted := rfl
      paired := rfl
      owned := by simp
      errorsOwned := by simp }) : P (start db session result events) := by
  unfold start
  apply List.foldlRecOn
  · exact opened
  · intro a kept error _
    exact added a error kept

def positions (db : Database) (a : Applying) : List InventoryPosition := applyWrites db.positions a.writes

def imported (db : Database) (a : Applying) (key : SourceKey) : Bool :=
  (db.snapshots ++ a.snapshots).any fun s => s.sourceKey = key

/-- The flush of an accepted record: its position write and its snapshot, in one transaction. -/
def flushRecord (db : Database) (locks : Locks) (a : Applying) (record : CanonicalInventoryRecord)
    (rest : List CanonicalInventoryRecord) (productMapping : SupplierProductMapping)
    (warehouseMapping : SupplierWarehouseMapping) (position : Option InventoryPosition) : Outcome Applying :=
  let conversionFactor := productMapping.unitsPerSourceUnit
  let onHand := record.onHandQuantity * conversionFactor.value
  let reserved := record.reservedQuantity * conversionFactor.value
  let place := (warehouseMapping.warehouseId, productMapping.productId)
  let key := recordKey a.job.supplierId record
  match storesOnHand : Numeric183.store? onHand, storesReserved : Numeric183.store? reserved with
  | some storedOnHand, some storedReserved =>
    if versionFits : ∀ p ∈ position, p.version < integerMax then
      if locks.position place || locks.sourceKey key then .blocked
      else if storedOnHand.thousandths < 0 then .raised (integrityError "on_hand_quantity_nonnegative")
      else if storedReserved.thousandths < 0 then .raised (integrityError "reserved_quantity_nonnegative")
      else if conversionFactor.thousandths ≤ 0 then .raised (integrityError "units_per_source_unit_positive")
      else if position.isNone && (a.positions db).any (fun p => p.key = place) then
        .raised (integrityError "uq_inventory_positions_warehouse_product")
      else if a.imported db key then .raised (integrityError "uq_inventory_snapshots_source_record")
      else .next
        { a with
          records := rest
          phase := .duplicateCheck
          accepted := a.accepted + 1
          snapshots := a.snapshots ++ [{
            importJobId := a.job.id
            supplierId := a.job.supplierId
            productId := productMapping.productId
            warehouseId := warehouseMapping.warehouseId
            sourceReference := record.sourceReference
            externalSku := record.externalSku
            externalLocation := record.externalLocation
            observedAt := record.observedAt
            onHandQuantity := storedOnHand
            reservedQuantity := storedReserved
            sourceUnit := record.sourceUnit
            unitsPerSourceUnit := conversionFactor
            productMappingVersion := productMapping.version
            warehouseMappingVersion := warehouseMapping.version
            sourceRow := record.sourceRow }]
          writes := a.writes ++ [{
            warehouseId := warehouseMapping.warehouseId
            productId := productMapping.productId
            onHand, reserved, storedOnHand, storedReserved, storesOnHand, storesReserved
            origin := some key
            loaded := position
            versionFits }]
          counted := by simp [a.counted]
          paired := by simp [a.paired, key, recordKey, InventorySnapshot.sourceKey]
          owned := by
            intro s present
            rcases List.mem_append.mp present with old | new
            · exact a.owned s old
            · rw [List.mem_singleton.mp new] }
    else .raised ⟨[.dataError], "integer out of range"⟩
  | _, _ => .raised ⟨[.dataError], "numeric field overflow"⟩

/-- One `SELECT`, or the flush, of `_validate_and_apply_record` for the record at hand. -/
def validateAndApplyRecord (db : Database) (locks : Locks) (a : Applying)
    (record : CanonicalInventoryRecord) (rest : List CanonicalInventoryRecord) : Outcome Applying :=
  match a.phase with
  | .duplicateCheck =>
    let sourceKey := (record.sourceReference, record.externalSku, record.externalLocation)
    let duplicate := a.reject db rest (recordError record "duplicate_source_record"
      "This partner snapshot record has already been imported.")
    if a.seen.contains sourceKey then .next duplicate
    else if !record.sendable then
      .raised ⟨[.dataError], "PostgreSQL text fields cannot contain NUL (0x00) bytes"⟩
    else if a.imported db (recordKey a.job.supplierId record) then .next duplicate
    else .next { a with seen := a.seen ++ [sourceKey], phase := .productLookup }
  | .productLookup =>
    match db.productMappings.find? fun m =>
        m.supplierId = a.job.supplierId && m.externalSku = record.externalSku && m.active with
    | none => .next (a.reject db rest (recordError record "product_mapping_not_found"
        ("No active product mapping exists for '" ++ record.externalSku ++ "'.") (some "external_sku")))
    | some productMapping => .next { a with phase := .warehouseLookup productMapping }
  | .warehouseLookup productMapping =>
    match db.warehouseMappings.find? fun m =>
        m.supplierId = a.job.supplierId && m.externalLocation = record.externalLocation && m.active with
    | none => .next (a.reject db rest (recordError record "warehouse_mapping_not_found"
        ("No active warehouse mapping exists for '" ++ record.externalLocation ++ "'.")
        (some "external_location")))
    | some warehouseMapping =>
      if productMapping.sourceUnit ≠ record.sourceUnit then
        .next (a.reject db rest (recordError record "source_unit_mismatch"
          ("Expected " ++ productMapping.sourceUnit.value ++ ", received " ++ record.sourceUnit.value ++ ".")
          (some "source_unit")))
      else
        let conversionFactor := productMapping.unitsPerSourceUnit.value
        match record.unitsPerSourceUnit with
        | none => .next { a with phase := .positionLookup productMapping warehouseMapping }
        | some sent =>
          if sent.value ≠ conversionFactor then
            .next (a.reject db rest (recordError record "unit_conversion_mismatch"
              ("Configured conversion is " ++ decimalText conversionFactor ++ "; the partner sent " ++
                sent.text ++ ".") (some "units_per_source_unit")))
          else .next { a with phase := .positionLookup productMapping warehouseMapping }
  | .positionLookup productMapping warehouseMapping =>
    let place := (warehouseMapping.warehouseId, productMapping.productId)
    let position := Table.lookup InventoryPosition.key place (a.positions db)
    .next { a with phase := .flush productMapping warehouseMapping position }
  | .flush productMapping warehouseMapping position =>
    a.flushRecord db locks record rest productMapping warehouseMapping position

/-- `job.errors` as the session sees it. -/
def jobErrors (a : Applying) : List ImportJobError := a.loadedErrors.getD [] ++ a.newErrors

def loadErrors (db : Database) (a : Applying) : Applying :=
  { a with loadedErrors := some (a.loadedErrors.getD (db.errorsOf a.job.id)) }

end Applying

/-- Distinct rejected rows, and one more if some error names no row. -/
def rejectedRecords (errors : List ImportJobError) : Nat :=
  (errors.filterMap (·.sourceRow)).dedup.length + if errors.any (·.sourceRow.isNone) then 1 else 0

/-! ### Completion -/

/-- The session's job as `execute_import_job` leaves it for the last commit. -/
def completedJob (a : Applying) (rejected : Nat) (now : Timestamp) : ImportJob :=
  { a.job with
    totalRecords := a.accepted + rejected
    acceptedRecords := a.accepted
    rejectedRecords := rejected
    status := if rejected = 0 then .completed else .completedWithErrors
    completedAt := some now
    leaseExpiresAt := none
    workerId := none }

def succeededAttempt (attempt : ImportAttempt) (now : Timestamp) : ImportAttempt :=
  { attempt with status := .succeeded, completedAt := some now }

/-- The flush and commit of the second transaction. -/
def completeImportJob (db : Database) (a : Applying) (rejected : Nat) (now : Timestamp) : Database :=
  { db with
    jobs := Table.modify ImportJob.id a.job.id (a.job.writeBack (completedJob a rejected now)) db.jobs
    attempts := Table.modify ImportAttempt.key (a.job.id, a.job.attemptCount)
      (a.attempt.writeBack (succeededAttempt a.attempt now)) db.attempts
    errors := db.errors ++ a.newErrors
    snapshots := db.snapshots ++ a.snapshots
    positions := applyWrites db.positions a.writes
    events := db.events ++ a.events ++
      [recordImportEvent a.job "PostgreSQL" "inventory.committed" "succeeded" (.snapshots a.job.id) now,
        recordImportEvent a.job "Celery" "job.completed" "succeeded" (.importJob a.job.id) now] }

end SupplyChainHub
