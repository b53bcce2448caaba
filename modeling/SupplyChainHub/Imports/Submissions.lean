import SupplyChainHub.Imports.Records
import SupplyChainHub.Library.Storage

/-!
`submit_inventory_import` and `replay_failed_import`, and the object store they write and read.

A submission looks its idempotency key up, puts the payload and inserts the job: three steps, with
the rows committed by then in front of the first and of the last.
-/

namespace SupplyChainHub

open Storage (Fits)

abbrev ObjectStore := String → Option ByteArray

/-- The bucket after a put that wrote. -/
def ObjectStore.put (objects : ObjectStore) (objectKey : String) (content : ByteArray) : ObjectStore :=
  fun key => if key = objectKey then some content else objects key

/-- What the program takes from outside: its settings, SHA-256, and the parsing of a payload. -/
structure Env where
  settings : Settings
  sha256 : ByteArray → String
  adapter : ImportSourceType → ByteArray → Except Raised InventoryAdapterResult

def buildRawObjectKey (sourceType : ImportSourceType) (contentSha256 : String) (now : Timestamp) : String :=
  let extension := if sourceType = .supplierAJson then "json" else "csv"
  "raw/inventory/source=" ++ sourceType.value ++ "/ingest_date=" ++ isoDate now ++ "/" ++
    contentSha256 ++ "." ++ extension

def permanentImportError (message : String) : Raised := ⟨[.permanentImportError], message⟩

/-- `available` is whether the object store answers. -/
def loadImportPayload (env : Env) (objects : ObjectStore) (available : Bool) (job : ImportJob) :
    Except Raised ByteArray :=
  let content : Except Raised ByteArray :=
    match job.payloadObjectKey, job.payload with
    | some key, _ =>
      if available then
        match objects key with
        | none => .error (permanentImportError ("The retained object '" ++ key ++ "' was not found."))
        | some content => .ok content
      else .error ⟨[.transientImportError], "The raw-data object store is temporarily unavailable."⟩
    | none, some content => .ok content
    | none, none => .error (permanentImportError "The import payload is not available.")
  match content with
  | .error e => .error e
  | .ok content =>
    if env.sha256 content ≠ job.contentSha256 then
      .error (permanentImportError "The retained import payload does not match its recorded checksum.")
    else .ok content

def adaptRetainedPayload (env : Env) (objects : ObjectStore) (available : Bool) (job : ImportJob) :
    Except Raised InventoryAdapterResult :=
  match loadImportPayload env objects available job with
  | .error e => .error e
  | .ok content => env.adapter job.sourceType content

structure SubmitRequest where
  supplierCode : String
  sourceType : ImportSourceType
  adapterVersion : String
  content : ByteArray
  contentSha256 : String
  contentType : String
  idempotencyKey : String
  originalFilename : Option String := none
  replayOfJobId : Option Id := none

/-- A call of `submit_inventory_import`, by how far it is. -/
inductive Submission where
  | requested (request : SubmitRequest)
  | missed (request : SubmitRequest) (supplierId : Id)
  | stored (request : SubmitRequest) (supplierId : Id) (objectKey : String)
  | returned (request : SubmitRequest) (jobId : Id) (created : Bool)
  | raised (request : SubmitRequest) (error : CallError)
  | refused (error : DomainError)

/-- The supplier and the idempotency lookup. -/
def submitLookup (db : Database) (request : SubmitRequest) : Submission :=
  match db.suppliers.find? fun s => s.code = request.supplierCode with
  | none => .raised request (.domain (.resourceNotFound
      ("Supplier code '" ++ request.supplierCode ++ "' is not configured for this integration.")))
  | some supplier =>
    match db.jobs.find? fun j =>
        j.idempotency = (supplier.id, request.sourceType, some request.idempotencyKey) with
    | none => .missed request supplier.id
    | some existing =>
      if existing.contentSha256 ≠ request.contentSha256 then
        .raised request (.domain (.resourceConflict
          "This Idempotency-Key was already used with different content."))
      else .returned request existing.id false

inductive PutOutcome where
  | stored | failedBeforeWrite | failedAfterWrite
  deriving DecidableEq

def storeUnavailable : DomainError :=
  .resourceUnavailable "The raw-data object store is unavailable; the import was not queued."

def submissionConflict : DomainError :=
  .resourceConflict "The import submission conflicts with an existing request."

def queuedJob (settings : Settings) (request : SubmitRequest) (supplierId : Id) (objectKey : String)
    (id : Id) (now : Timestamp) : ImportJob where
  id
  supplierId
  sourceType := request.sourceType
  adapterVersion := request.adapterVersion
  originalFilename := request.originalFilename
  contentSha256 := request.contentSha256
  contentType := request.contentType
  payload := none
  payloadObjectKey := some objectKey
  payloadSizeBytes := some request.content.size
  idempotencyKey := some request.idempotencyKey
  status := .queued
  maxAttempts := settings.importMaxAttempts
  replayOfJobId := request.replayOfJobId
  createdAt := now

def submissionEvents (job : ImportJob) (now : Timestamp) : List OperationEvent :=
  [recordImportEvent job "FastAPI" "request.validated" "succeeded" (.importJob job.id) now,
    recordImportEvent job "SeaweedFS" "payload.stored" "succeeded" (.object job.payloadObjectKey) now,
    recordImportEvent job "PostgreSQL" "job.queued" "succeeded" (.importJob job.id) now]

/-- The columns of the filename and of the content type take them. -/
def SubmitRequest.Fitting (request : SubmitRequest) : Prop :=
  (∀ filename, request.originalFilename = some filename → Fits 255 filename) ∧ Fits 100 request.contentType

instance (request : SubmitRequest) : Decidable request.Fitting :=
  decidable_of_iff ((request.originalFilename.all fun name => decide (Fits 255 name)) = true ∧
      Fits 100 request.contentType) (by unfold SubmitRequest.Fitting; cases request.originalFilename <;> simp)

/-- The insert and its commit, under `uq_import_jobs_supplier_source_idempotency`. What the columns take is
looked at before that; of the values, the filename and the content type alone are any text the client sends. -/
def submitInsert (settings : Settings) (db : Database) (request : SubmitRequest) (supplierId : Id)
    (objectKey : String) (id : Id) (now : Timestamp) : Except CallError Database :=
  let job := queuedJob settings request supplierId objectKey id now
  if ¬ request.Fitting then .error (.unmapped valueError)
  else if db.jobs.any fun j => j.idempotency = job.idempotency then .error (.domain submissionConflict)
  else .ok ({ db with jobs := db.jobs ++ [job] }.addEvents (submissionEvents job now))

/-- `replay_failed_import` up to its call of `submit_inventory_import`, whose arguments it returns. -/
def replayFailedImport (env : Env) (db : Database) (objects : ObjectStore) (available : Bool)
    (importJobId : Id) (idempotencyKey : String) : Except DomainError SubmitRequest :=
  match db.job importJobId with
  | none => .error (.resourceNotFound (jobNotFound importJobId).message)
  | some original =>
    if original.status ≠ .failed then .error (.resourceConflict "Only failed imports can be replayed.")
    else if original.payload.isNone && original.payloadObjectKey.isNone then
      .error (.resourceConflict "This import has no retained payload and cannot be replayed.")
    else
      match loadImportPayload env objects available original with
      | .error e =>
        if e.isinstance .permanentImportError then .error (.resourceConflict e.message)
        else .error (.resourceUnavailable e.message)
      | .ok content =>
        match Table.lookup Supplier.id original.supplierId db.suppliers with
        | none => .error (.resourceNotFound "")
        | some supplier => .ok {
            supplierCode := supplier.code
            sourceType := original.sourceType
            adapterVersion := original.adapterVersion
            content
            contentSha256 := original.contentSha256
            contentType := original.contentType
            idempotencyKey
            originalFilename := original.originalFilename
            replayOfJobId := some original.id }

/-! ### The insert -/

section
variable {settings : Settings} {db after : Database} {request : SubmitRequest} {supplierId id : Id}
    {objectKey : String} {now : Timestamp}

theorem submitInsert_written (h : submitInsert settings db request supplierId objectKey id now = .ok after) :
    request.Fitting ∧
      (∀ j ∈ db.jobs, j.idempotency ≠ (supplierId, request.sourceType, some request.idempotencyKey)) ∧
      after = { db with jobs := db.jobs ++ [queuedJob settings request supplierId objectKey id now] }.addEvents
        (submissionEvents (queuedJob settings request supplierId objectKey id now) now) := by
  unfold submitInsert at h
  dsimp only at h
  split at h
  · cases h
  · rename_i fitting
    split at h
    · cases h
    · rename_i free
      obtain rfl := Except.ok.inj h
      refine ⟨not_not.mp fitting, fun j member same => ?_, rfl⟩
      exact free (List.any_eq_true.mpr ⟨j, member, decide_eq_true same⟩)

theorem submitInsert_refused {e : CallError}
    (h : submitInsert settings db request supplierId objectKey id now = .error e) :
    e = .unmapped valueError ∧ ¬ request.Fitting ∨
      e = .domain submissionConflict ∧ request.Fitting ∧
        ∃ j ∈ db.jobs, j.idempotency = (supplierId, request.sourceType, some request.idempotencyKey) := by
  unfold submitInsert at h
  dsimp only at h
  split at h
  · rename_i misfit
    cases h
    exact .inl ⟨rfl, misfit⟩
  · rename_i fitting
    split at h
    · rename_i taken
      cases h
      obtain ⟨j, member, same⟩ := List.any_eq_true.mp taken
      exact .inr ⟨rfl, not_not.mp fitting, j, member, of_decide_eq_true same⟩
    · cases h

end

end SupplyChainHub
