import SupplyChainHub.Domain.Values
import SupplyChainHub.Library.Columns
import SupplyChainHub.Library.Tables

/-!
Rows of `infrastructure/db/models.py`, and the committed database as one table of rows per model.

An inventory position is known by its unique pair of warehouse and product, a mapping by its
supplier and external name. Operation events are known by their place: the table is append-only.
-/

namespace SupplyChainHub

structure Supplier where
  id : Id
  code : String
  deriving DecidableEq

structure SupplierProductMapping where
  supplierId : Id
  externalSku : String
  productId : Id
  sourceUnit : UnitOfMeasure
  unitsPerSourceUnit : Numeric183
  version : Nat := 1
  active : Bool := true
  deriving DecidableEq

def SupplierProductMapping.key (m : SupplierProductMapping) : Id × String := (m.supplierId, m.externalSku)

structure SupplierWarehouseMapping where
  supplierId : Id
  externalLocation : String
  warehouseId : Id
  version : Nat := 1
  active : Bool := true
  deriving DecidableEq

def SupplierWarehouseMapping.key (m : SupplierWarehouseMapping) : Id × String :=
  (m.supplierId, m.externalLocation)

structure InventoryPosition where
  warehouseId : Id
  productId : Id
  onHandQuantity : Numeric183
  reservedQuantity : Numeric183
  version : Nat := 1
  deriving DecidableEq

def InventoryPosition.key (p : InventoryPosition) : Id × Id := (p.warehouseId, p.productId)

structure ImportJob where
  id : Id
  supplierId : Id
  sourceType : ImportSourceType
  adapterVersion : String
  originalFilename : Option String := none
  contentSha256 : String
  contentType : String := "application/octet-stream"
  payload : Option ByteArray := none
  payloadObjectKey : Option String := none
  payloadSizeBytes : Option Nat := none
  idempotencyKey : Option String := none
  status : ImportStatus := .queued
  totalRecords : Nat := 0
  acceptedRecords : Nat := 0
  rejectedRecords : Nat := 0
  attemptCount : Nat := 0
  maxAttempts : Nat := 3
  dispatchedAt : Option Timestamp := none
  startedAt : Option Timestamp := none
  completedAt : Option Timestamp := none
  nextRetryAt : Option Timestamp := none
  leaseExpiresAt : Option Timestamp := none
  workerId : Option String := none
  failureCode : Option String := none
  failureMessage : Option String := none
  lastErrorRetryable : Option Bool := none
  replayOfJobId : Option Id := none
  createdAt : Timestamp

/-- The columns of `uq_import_jobs_supplier_source_idempotency`. -/
def ImportJob.idempotency (j : ImportJob) : Id × ImportSourceType × Option String :=
  (j.supplierId, j.sourceType, j.idempotencyKey)

/-- The flush of a job that a session loaded and changed. The other columns are never assigned. -/
def ImportJob.writeBack (loaded new current : ImportJob) : ImportJob :=
  { current with
    status := Columns.writeBack loaded.status new.status current.status
    totalRecords := Columns.writeBack loaded.totalRecords new.totalRecords current.totalRecords
    acceptedRecords := Columns.writeBack loaded.acceptedRecords new.acceptedRecords current.acceptedRecords
    rejectedRecords := Columns.writeBack loaded.rejectedRecords new.rejectedRecords current.rejectedRecords
    attemptCount := Columns.writeBack loaded.attemptCount new.attemptCount current.attemptCount
    dispatchedAt := Columns.writeBack loaded.dispatchedAt new.dispatchedAt current.dispatchedAt
    startedAt := Columns.writeBack loaded.startedAt new.startedAt current.startedAt
    completedAt := Columns.writeBack loaded.completedAt new.completedAt current.completedAt
    nextRetryAt := Columns.writeBack loaded.nextRetryAt new.nextRetryAt current.nextRetryAt
    leaseExpiresAt := Columns.writeBack loaded.leaseExpiresAt new.leaseExpiresAt current.leaseExpiresAt
    workerId := Columns.writeBack loaded.workerId new.workerId current.workerId
    failureCode := Columns.writeBack loaded.failureCode new.failureCode current.failureCode
    failureMessage := Columns.writeBack loaded.failureMessage new.failureMessage current.failureMessage
    lastErrorRetryable :=
      Columns.writeBack loaded.lastErrorRetryable new.lastErrorRetryable current.lastErrorRetryable }

structure ImportAttempt where
  importJobId : Id
  attemptNumber : Nat
  status : ImportAttemptStatus := .running
  celeryTaskId : Option String
  workerId : String
  completedAt : Option Timestamp := none
  errorCode : Option String := none
  errorMessage : Option String := none
  retryable : Option Bool := none
  deriving DecidableEq

/-- The columns of `uq_import_attempts_job_attempt_number`. -/
def ImportAttempt.key (a : ImportAttempt) : Id × Nat := (a.importJobId, a.attemptNumber)

def ImportAttempt.writeBack (loaded new current : ImportAttempt) : ImportAttempt :=
  { current with
    status := Columns.writeBack loaded.status new.status current.status
    completedAt := Columns.writeBack loaded.completedAt new.completedAt current.completedAt
    errorCode := Columns.writeBack loaded.errorCode new.errorCode current.errorCode
    errorMessage := Columns.writeBack loaded.errorMessage new.errorMessage current.errorMessage
    retryable := Columns.writeBack loaded.retryable new.retryable current.retryable }

/-- What an event's `evidence_reference` names. -/
inductive Evidence where
  | importJob (jobId : Id)
  | importAttempt (jobId : Id) (number : Nat)
  | object (key : Option String)
  | adapter (version : String)
  | snapshots (jobId : Id)
  deriving DecidableEq

structure OperationEvent where
  importJobId : Id
  component : String
  stage : String
  status : String
  evidenceReference : Evidence
  occurredAt : Timestamp
  deriving DecidableEq

structure ImportJobError where
  importJobId : Id
  sourceRow : Option Nat
  errorCode : String
  fieldName : Option String
  message : String
  deriving DecidableEq

/-- The columns of `uq_inventory_snapshots_source_record`. -/
structure SourceKey where
  supplierId : Id
  sourceReference : String
  externalSku : String
  externalLocation : String
  deriving DecidableEq

structure InventorySnapshot where
  importJobId : Id
  supplierId : Id
  productId : Id
  warehouseId : Id
  sourceReference : String
  externalSku : String
  externalLocation : String
  observedAt : Moment
  onHandQuantity : Numeric183
  reservedQuantity : Numeric183
  sourceUnit : UnitOfMeasure
  unitsPerSourceUnit : Numeric183
  productMappingVersion : Nat
  warehouseMappingVersion : Nat
  sourceRow : Nat
  deriving DecidableEq

def InventorySnapshot.sourceKey (s : InventorySnapshot) : SourceKey :=
  ⟨s.supplierId, s.sourceReference, s.externalSku, s.externalLocation⟩

structure Database where
  suppliers : List Supplier := []
  products : List Id := []
  warehouses : List Id := []
  productMappings : List SupplierProductMapping := []
  warehouseMappings : List SupplierWarehouseMapping := []
  positions : List InventoryPosition := []
  jobs : List ImportJob := []
  attempts : List ImportAttempt := []
  events : List OperationEvent := []
  errors : List ImportJobError := []
  snapshots : List InventorySnapshot := []

namespace Database

def job (db : Database) (id : Id) : Option ImportJob := Table.lookup ImportJob.id id db.jobs

def modifyJob (db : Database) (id : Id) (f : ImportJob → ImportJob) : Database :=
  { db with jobs := Table.modify ImportJob.id id f db.jobs }

def attempt (db : Database) (jobId : Id) (number : Nat) : Option ImportAttempt :=
  Table.lookup ImportAttempt.key (jobId, number) db.attempts

def modifyAttempt (db : Database) (jobId : Id) (number : Nat) (f : ImportAttempt → ImportAttempt) :
    Database :=
  { db with attempts := Table.modify ImportAttempt.key (jobId, number) f db.attempts }

def attemptNumbers (db : Database) (jobId : Id) : List Nat :=
  (db.attempts.filter fun a => a.importJobId = jobId).map (·.attemptNumber)

def errorsOf (db : Database) (jobId : Id) : List ImportJobError :=
  db.errors.filter fun e => e.importJobId = jobId

def snapshotsOf (db : Database) (jobId : Id) : List InventorySnapshot :=
  db.snapshots.filter fun s => s.importJobId = jobId

def position (db : Database) (warehouseId productId : Id) : Option InventoryPosition :=
  Table.lookup InventoryPosition.key (warehouseId, productId) db.positions

end Database

end SupplyChainHub
