import SupplyChainHub.Imports.Submissions
import SupplyChainHub.Inventory.Calls
import SupplyChainHub.Library.Machines
import SupplyChainHub.Library.Pools

/-!
The hub as one machine: the committed database and bucket, and every session at work on them.

Sessions interleave at their statements. A transaction that locks the job's row first is one step,
its commit; the others read in one step and commit in a later one. A worker may raise, or die, at
any moment before its session ends, also after its last commit. Messages are delivered in any
number and at any time.
-/

namespace SupplyChainHub

/-- A delivery whose task raised: what `record_import_failure` is called with. `attempt` is ghost:
the number the delivery had claimed, if it had. -/
structure RaisedDelivery where
  jobId : Id
  attempt : Option Nat
  workerId : String
  celeryTaskId : Option String
  error : Raised
  deriving DecidableEq

/-- A delivery of `process_import_job_task`, by how far it is. -/
inductive Delivery where
  | received (jobId : Id) (workerId : String) (celeryTaskId : Option String)
  | claimed (session : WorkerSession)
  | adapted (session : WorkerSession) (result : InventoryAdapterResult) (events : List OperationEvent)
  | applying (transaction : Applying)
  | closing (transaction : Applying) (rejected : Nat)
  | committed (session : WorkerSession)
  | raised (delivery : RaisedDelivery)
  | done

namespace Delivery

/-- What raising now leaves for the failure report; none once the task has ended. -/
def raising (error : Raised) : Delivery → Option RaisedDelivery
  | .received jobId workerId celeryTaskId => some ⟨jobId, none, workerId, celeryTaskId, error⟩
  | .claimed w | .adapted w _ _ | .committed w => some (ofSession w)
  | .applying a | .closing a _ => some (ofSession a.toWorkerSession)
  | .raised _ | .done => none
where
  ofSession (w : WorkerSession) : RaisedDelivery :=
    ⟨w.job.id, some w.job.attemptCount, w.attempt.workerId, w.attempt.celeryTaskId, error⟩

def transaction? : Delivery → Option Applying
  | .applying a | .closing a _ => some a
  | _ => none

def snapshots (x : Delivery) : List InventorySnapshot := (x.transaction?.map (·.snapshots)).getD []

def writes (x : Delivery) : List PositionWrite := (x.transaction?.map (·.writes)).getD []

def holdsSourceKey (key : SourceKey) (x : Delivery) : Bool := x.snapshots.any fun s => s.sourceKey = key

def holdsPosition (place : Id × Id) (x : Delivery) : Bool := x.writes.any fun w => w.key = place

end Delivery

structure Hub where
  db : Database := {}
  objects : ObjectStore := fun _ => none
  submissions : List Submission := []
  /-- Jobs loaded by `mark_job_dispatched`, until they are written back. -/
  dispatches : List (Option ImportJob) := []
  deliveries : List Delivery := []
  inventoryCalls : List InventoryCall := []
  mappingCalls : List MappingCall := []
  /-- Ghost: the position writes committed so far, in commit order. -/
  positionLog : List PositionWrite := []

inductive Label where
  | submit (request : SubmitRequest)
  | replay (importJobId : Id) (idempotencyKey : String) (available : Bool)
  | lookup (call : Nat)
  | put (call : Nat) (outcome : PutOutcome) (now : Timestamp)
  | insert (call : Nat) (jobId : Id) (now : Timestamp)
  | dispatchRead (importJobId : Id)
  | dispatchWrite (call : Nat) (dispatchedAt : Timestamp)
  | deliver (importJobId : Id) (workerId : String) (celeryTaskId : Option String)
  | claim (d : Nat) (now : Timestamp)
  | adapt (d : Nat) (available : Bool) (now : Timestamp)
  | start (d : Nat)
  | record (d : Nat)
  | summarise (d : Nat)
  | complete (d : Nat) (now : Timestamp)
  | raise (d : Nat) (error : Raised)
  | report (d : Nat) (now : Timestamp)
  | stop (d : Nat)
  | recover (locked : List Id) (now : Timestamp)
  | inventoryRead (warehouseId productId : Id) (request : InventorySet)
  | inventoryCommit (call : Nat)
  | productMappingRead (request : ProductMappingUpsert)
  | warehouseMappingRead (request : WarehouseMappingUpsert)
  | mappingCommit (call : Nat)

def Label.delivery? : Label → Option Nat
  | .claim d _ | .adapt d _ _ | .start d | .record d | .summarise d | .complete d _ | .raise d _
  | .report d _ | .stop d => some d
  | _ => none

namespace Hub

/-! ### API submissions -/

def replay (env : Env) (hub : Hub) (importJobId : Id) (idempotencyKey : String) (available : Bool) : Hub :=
  { hub with submissions := hub.submissions ++
      [match replayFailedImport env hub.db hub.objects available importJobId idempotencyKey with
        | .error e => .refused e
        | .ok request => .requested request] }

def lookup (hub : Hub) (call : Nat) : Option Hub :=
  match hub.submissions[call]? with
  | some (.requested request) =>
    some { hub with submissions := hub.submissions.set call (submitLookup hub.db request) }
  | _ => none

def put (hub : Hub) (call : Nat) (outcome : PutOutcome) (now : Timestamp) : Option Hub :=
  match hub.submissions[call]? with
  | some (.missed request supplierId) =>
    let objectKey := buildRawObjectKey request.sourceType request.contentSha256 now
    some { hub with
      objects :=
        if outcome = .failedBeforeWrite then hub.objects else hub.objects.put objectKey request.content
      submissions := hub.submissions.set call
        (if outcome = .stored then .stored request supplierId objectKey
          else .raised request (.domain storeUnavailable)) }
  | _ => none

/-- `jobId` is the fresh `uuid4` of the new row. -/
def insert (env : Env) (hub : Hub) (call : Nat) (jobId : Id) (now : Timestamp) : Option Hub :=
  match hub.submissions[call]?, hub.db.job jobId with
  | some (.stored request supplierId objectKey), none =>
    match submitInsert env.settings hub.db request supplierId objectKey jobId now with
    | .error e => some { hub with submissions := hub.submissions.set call (.raised request e) }
    | .ok db => some { hub with db, submissions := hub.submissions.set call (.returned request jobId true) }
  | _, _ => none

/-! ### Dispatch marks -/

def dispatchWrite (hub : Hub) (call : Nat) (dispatchedAt : Timestamp) : Option Hub :=
  match hub.dispatches[call]? with
  | some (some loaded) => some { hub with
      db := markJobDispatched hub.db loaded dispatchedAt
      dispatches := hub.dispatches.set call none }
  | _ => none

/-! ### Deliveries -/

def setDelivery (hub : Hub) (d : Nat) (x : Delivery) : Hub :=
  { hub with deliveries := hub.deliveries.set d x }

/-- The task's `except` clauses: a missing job ends it, anything else is to be reported. -/
def raiseAt (hub : Hub) (d : Nat) (x : Delivery) (error : Raised) : Option Hub :=
  (x.raising error).map fun raised =>
    hub.setDelivery d (if error.isinstance .resourceNotFoundError then .done else .raised raised)

def claim (env : Env) (hub : Hub) (d : Nat) (now : Timestamp) : Option Hub :=
  match hub.deliveries[d]? with
  | some (.received jobId workerId celeryTaskId) =>
    match executeImportJobClaim env.settings hub.db jobId workerId celeryTaskId now with
    | .error e => hub.raiseAt d (.received jobId workerId celeryTaskId) e
    | .ok none => some (hub.setDelivery d .done)
    | .ok (some (db, session)) => some { hub.setDelivery d (.claimed session) with db }
  | _ => none

def payloadEvents (job : ImportJob) (now : Timestamp) : List OperationEvent :=
  [recordImportEvent job "SeaweedFS" "payload.verified" "succeeded" (.object job.payloadObjectKey) now,
    recordImportEvent job "Adapter" "payload.transformed" "succeeded" (.adapter job.adapterVersion) now]

def adapt (env : Env) (hub : Hub) (d : Nat) (available : Bool) (now : Timestamp) : Option Hub :=
  match hub.deliveries[d]? with
  | some (.claimed session) =>
    match adaptRetainedPayload env hub.objects available session.job with
    | .error e => hub.raiseAt d (.claimed session) e
    | .ok result => some (hub.setDelivery d (.adapted session result (payloadEvents session.job now)))
  | _ => none

def start (hub : Hub) (d : Nat) : Option Hub :=
  match hub.deliveries[d]? with
  | some (.adapted session result events) =>
    some (hub.setDelivery d (.applying (Applying.start hub.db session result events)))
  | _ => none

def locks (hub : Hub) (d : Nat) : Locks where
  sourceKey key := Pool.elsewhere (Delivery.holdsSourceKey key) d hub.deliveries
  position place := Pool.elsewhere (Delivery.holdsPosition place) d hub.deliveries

def record (hub : Hub) (d : Nat) : Option Hub :=
  match hub.deliveries[d]? with
  | some (.applying a) =>
    match a.records with
    | [] => none
    | head :: rest =>
      match a.validateAndApplyRecord hub.db (hub.locks d) head rest with
      | .blocked => none
      | .raised e => hub.raiseAt d (.applying a) e
      | .next a => some (hub.setDelivery d (.applying a))
  | _ => none

def summarise (hub : Hub) (d : Nat) : Option Hub :=
  match hub.deliveries[d]? with
  | some (.applying a) =>
    match a.records with
    | [] =>
      let a := a.loadErrors hub.db
      some (hub.setDelivery d (.closing a (rejectedRecords a.jobErrors)))
    | _ :: _ => none
  | _ => none

def complete (hub : Hub) (d : Nat) (now : Timestamp) : Option Hub :=
  match hub.deliveries[d]? with
  | some (.closing a rejected) =>
    match hub.db.findCurrentAttempt a.job with
    | none => hub.raiseAt d (.closing a rejected) (permanentImportError
        ("Import job '" ++ a.job.id.repr ++ "' has no durable current attempt."))
    | some _ => some { hub.setDelivery d (.committed a.toWorkerSession) with
        db := completeImportJob hub.db a rejected now
        positionLog := hub.positionLog ++ a.writes }
  | _ => none

def raise (hub : Hub) (d : Nat) (error : Raised) : Option Hub :=
  match hub.deliveries[d]? with
  | some x => hub.raiseAt d x error
  | none => none

/-- `record_import_failure` in a session of its own. When it raises, nothing is committed. -/
def report (env : Env) (hub : Hub) (d : Nat) (now : Timestamp) : Option Hub :=
  match hub.deliveries[d]? with
  | some (.raised r) =>
    match recordImportFailure env.settings hub.db r.jobId r.error r.workerId r.celeryTaskId now with
    | .error _ => some (hub.setDelivery d .done)
    | .ok (db, _) => some { hub.setDelivery d .done with db }
  | _ => none

/-- The task ends, or its process dies. -/
def stop (hub : Hub) (d : Nat) : Option Hub :=
  match hub.deliveries[d]? with
  | some _ => some (hub.setDelivery d .done)
  | none => none

def recover (hub : Hub) (locked : List Id) (now : Timestamp) : Hub :=
  match recoverStaleImports hub.db locked now with
  | .error _ => hub
  | .ok (db, _) => { hub with db }

/-! ### Inventory and mapping calls -/

def inventoryCommit (hub : Hub) (call : Nat) : Option Hub :=
  match hub.inventoryCalls[call]? with
  | some (.loaded warehouseId productId request position) =>
    if hub.deliveries.any (Delivery.holdsPosition (warehouseId, productId)) then none
    else
      match setInventoryCommit hub.db warehouseId productId request position with
      | .error ended => some { hub with inventoryCalls := hub.inventoryCalls.set call ended }
      | .ok write => some { hub with
          db := { hub.db with positions := write.apply hub.db.positions }
          inventoryCalls := hub.inventoryCalls.set call .returned
          positionLog := hub.positionLog ++ [write] }
  | _ => none

def endMapping (hub : Hub) (call : Nat) : Except DomainError Database → Hub
  | .error e => { hub with mappingCalls := hub.mappingCalls.set call (.raised e) }
  | .ok db => { hub with db, mappingCalls := hub.mappingCalls.set call .returned }

def mappingCommit (hub : Hub) (call : Nat) : Option Hub :=
  match hub.mappingCalls[call]? with
  | some (.product request loaded) =>
    some (hub.endMapping call (upsertProductMappingCommit hub.db request loaded))
  | some (.warehouse request loaded) =>
    some (hub.endMapping call (upsertWarehouseMappingCommit hub.db request loaded))
  | _ => none

def step (env : Env) (hub : Hub) : Label → Option Hub
  | .submit request => some { hub with submissions := hub.submissions ++ [.requested request] }
  | .replay importJobId idempotencyKey available =>
    some (hub.replay env importJobId idempotencyKey available)
  | .lookup call => hub.lookup call
  | .put call outcome now => hub.put call outcome now
  | .insert call jobId now => hub.insert env call jobId now
  | .dispatchRead importJobId => some { hub with dispatches := hub.dispatches ++ [hub.db.job importJobId] }
  | .dispatchWrite call dispatchedAt => hub.dispatchWrite call dispatchedAt
  | .deliver importJobId workerId celeryTaskId =>
    some { hub with deliveries := hub.deliveries ++ [.received importJobId workerId celeryTaskId] }
  | .claim d now => hub.claim env d now
  | .adapt d available now => hub.adapt env d available now
  | .start d => hub.start d
  | .record d => hub.record d
  | .summarise d => hub.summarise d
  | .complete d now => hub.complete d now
  | .raise d error => hub.raise d error
  | .report d now => hub.report env d now
  | .stop d => hub.stop d
  | .recover locked now => some (hub.recover locked now)
  | .inventoryRead warehouseId productId request => some { hub with
      inventoryCalls := hub.inventoryCalls ++ [setInventoryRead hub.db warehouseId productId request] }
  | .inventoryCommit call => hub.inventoryCommit call
  | .productMappingRead request => some { hub with
      mappingCalls := hub.mappingCalls ++ [upsertProductMappingRead hub.db request] }
  | .warehouseMappingRead request => some { hub with
      mappingCalls := hub.mappingCalls ++ [upsertWarehouseMappingRead hub.db request] }
  | .mappingCommit call => hub.mappingCommit call

/-- A hub before its first submission: master data and positions of any kind, distinct by key, and
no import, no open session. -/
structure Initial (hub : Hub) : Prop where
  jobs : hub.db.jobs = []
  attempts : hub.db.attempts = []
  events : hub.db.events = []
  errors : hub.db.errors = []
  snapshots : hub.db.snapshots = []
  suppliers : (hub.db.suppliers.map Supplier.code).Nodup
  productMappings : (hub.db.productMappings.map SupplierProductMapping.key).Nodup
  warehouseMappings : (hub.db.warehouseMappings.map SupplierWarehouseMapping.key).Nodup
  positions : (hub.db.positions.map InventoryPosition.key).Nodup
  submissions : hub.submissions = []
  dispatches : hub.dispatches = []
  deliveries : hub.deliveries = []
  inventoryCalls : hub.inventoryCalls = []
  mappingCalls : hub.mappingCalls = []
  positionLog : hub.positionLog = []

abbrev Reachable (env : Env) : Hub → Prop := Machine.Reachable (step env) Initial

abbrev Run (env : Env) (guard : Hub → Label → Prop) : Hub → Hub → Prop := Machine.Run (step env) guard

end Hub

/-! ### A small hub

One Supplier B file with one line, a supplier, a mapping each way and one stocked position. -/

namespace Small

def file : ByteArray :=
  ("snapshot_ref,as_of,partner_sku,depot,case_count,units_per_case\n" ++
    "SNAP-1,2026-07-29T15:00:00Z,B-1,EAST,3,12\n").toUTF8

def digest : String := "1436ff41a6f75ec2246dade458810ac4d8d4057b1780313bf441523c53cfb275"

def line : CanonicalInventoryRecord where
  sourceReference := "SNAP-1"
  sourceRow := 2
  externalSku := "B-1"
  externalLocation := "EAST"
  observedAt := seconds 1785337200
  sourceUnit := .case
  onHandQuantity := 3
  reservedQuantity := 0
  unitsPerSourceUnit := some ⟨12, "12"⟩

/-- SHA-256 and the Supplier B adapter, as far as the one file goes. -/
def env : Env where
  settings := {}
  sha256 _ := digest
  adapter _ _ := .ok { records := [line] }

def numeric (thousandths : Int) (fits : thousandths.natAbs < 10 ^ 18 := by decide) : Numeric183 :=
  ⟨thousandths, fits⟩

def hub : Hub where
  db := {
    suppliers := [⟨1, "SUPPLIER_B"⟩]
    products := [10]
    warehouses := [20]
    productMappings := [{
      supplierId := 1
      externalSku := "B-1"
      productId := 10
      sourceUnit := .case
      unitsPerSourceUnit := numeric 12000 }]
    warehouseMappings := [{ supplierId := 1, externalLocation := "EAST", warehouseId := 20 }]
    positions := [{
      warehouseId := 20
      productId := 10
      onHandQuantity := numeric 10000
      reservedQuantity := numeric 2000 }] }

theorem initial : Hub.Initial hub := by
  constructor <;> first | rfl | decide

def request : SubmitRequest where
  supplierCode := "SUPPLIER_B"
  sourceType := .supplierBCsv
  adapterVersion := "supplier-b.inventory-csv.v1"
  content := file
  contentSha256 := digest
  contentType := "text/csv"
  idempotencyKey := "key-1"

def moment (n : Nat) : Timestamp := seconds (1785337200 + n)

def submitted : List Label := [.submit request, .lookup 0, .put 0 .stored (moment 0), .insert 0 1 (moment 0)]

def claimed (d : Nat) (now : Timestamp) : List Label := [.deliver 1 "worker" none, .claim d now]

def applied (d : Nat) (now : Timestamp) : List Label :=
  [.adapt d true now, .start d, .record d, .record d, .record d, .record d, .record d]

def completed (d : Nat) (now : Timestamp) : List Label := [.summarise d, .complete d now]

def connectionLost : Raised := ⟨[.operationalError], "server closed the connection unexpectedly"⟩

def failed (d : Nat) (now : Timestamp) : List Label := [.raise d connectionLost, .report d now]

/-- Delivery 0 claims the job and stalls before its first line, the sweep takes its lease back, and
delivery 1 claims the job again. -/
def overtaken : List Label :=
  submitted ++ claimed 0 (moment 1) ++ [.adapt 0 true (moment 1), .start 0, .recover [] (moment 400)] ++
    claimed 1 (moment 401)

theorem reaches (labels : List Label) (p : Hub → Bool)
    (h : (Machine.exec (Hub.step env) hub labels).any p = true) :
    ∃ next, Machine.exec (Hub.step env) hub labels = some next ∧ Hub.Reachable env next ∧ p next = true := by
  obtain ⟨next, run, holds⟩ := (Option.any_eq_true _ _).mp h
  exact ⟨next, run, ⟨hub, initial, Machine.exec_run (fun _ _ _ => trivial) run⟩, holds⟩

end Small

end SupplyChainHub
