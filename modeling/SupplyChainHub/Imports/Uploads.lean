import Mathlib.Data.Nat.Digits.Defs
import SupplyChainHub.Database.Schema
import SupplyChainHub.Imports.Payloads
import SupplyChainHub.Integrations.Adapters

/-!
The two uploads of `api/routes/integrations.py`: the headers they come with, `submit_inventory_import` as one
call, and the rows that it inserts after the object is stored.
-/

namespace SupplyChainHub

open Storage (Fits)

/-! ### Headers -/

/-- `[A-Za-z0-9._:-]` -/
def inHeader (c : Char) : Bool := c.isAlphanum || c = '.' || c = '_' || c = ':' || c = '-'

def idempotencyPattern : List Char → Bool
  | [] => false
  | c :: rest => c.isAlphanum && rest.all inHeader

structure IdempotencyKey where
  text : String
  bounds : 8 ≤ text.length ∧ text.length ≤ 128
  pattern : idempotencyPattern text.toList = true

structure CorrelationId where
  text : String
  bounds : 1 ≤ text.length ∧ text.length ≤ 128
  pattern : text.toList.all inHeader = true

theorem header_fits {s : String} (pattern : s.toList.all inHeader = true) : Fits s.length s := by
  refine ⟨Nat.le_refl _, ?_⟩
  rw [← Bool.not_eq_true, List.contains_iff_mem]
  exact fun member => absurd (List.all_eq_true.mp pattern _ member) (by decide)

theorem IdempotencyKey.fits (key : IdempotencyKey) : Fits 128 key.text := by
  have pattern := key.pattern
  have all : key.text.toList.all inHeader = true := by
    cases chars : key.text.toList with
    | nil => rfl
    | cons c rest =>
      rw [chars, idempotencyPattern, Bool.and_eq_true] at pattern
      rw [List.all_cons, pattern.2, Bool.and_true, inHeader, pattern.1]
      rfl
  exact (header_fits all).mono key.bounds.2

theorem CorrelationId.fits (correlationId : CorrelationId) : Fits 128 correlationId.text :=
  (header_fits correlationId.pattern).mono correlationId.bounds.2

/-! ### Texts -/

def hexText (digits n : Nat) : String :=
  String.ofList ((List.range digits).map fun i => Nat.digitChar (n / 16 ^ (digits - 1 - i) % 16))

/-- `str(uuid)` -/
def uuidText (id : Id) : String :=
  hexText 8 (id / 16 ^ 24) ++ "-" ++ hexText 4 (id / 16 ^ 20) ++ "-" ++ hexText 4 (id / 16 ^ 16) ++ "-" ++
    hexText 4 (id / 16 ^ 12) ++ "-" ++ hexText 12 id

example : uuidText 0x2f8ad5f80ff84ddab60b88df438ca17d = "2f8ad5f8-0ff8-4dda-b60b-88df438ca17d" := by decide +kernel

theorem hexText_fits (digits n : Nat) : Fits digits (hexText digits n) := by
  have digit : ∀ d < 16, Nat.digitChar d ≠ Char.ofNat 0 := by decide
  have plain : ∀ c ∈ (List.range digits).map fun i => Nat.digitChar (n / 16 ^ (digits - 1 - i) % 16),
      c ≠ Char.ofNat 0 := by
    intro c member
    obtain ⟨i, -, rfl⟩ := List.mem_map.mp member
    exact digit _ (Nat.mod_lt _ (by decide))
  have fits := Storage.fits_ofList plain
  rw [List.length_map, List.length_range] at fits
  exact fits

theorem uuidText_fits (id : Id) : Fits 36 (uuidText id) := by
  have dash : Fits 1 "-" := by decide
  exact ((((((((hexText_fits 8 _).append dash).append (hexText_fits 4 _)).append dash).append
    (hexText_fits 4 _)).append dash).append (hexText_fits 4 _)).append dash).append (hexText_fits 12 _)

theorem padded_fits (digits : Nat) {width n : Nat} (wide : width ≤ digits) (positive : 0 < digits)
    (small : n < 10 ^ digits) : Fits digits (padded width n) := by
  constructor
  · have short := Nat.repr_length n digits positive small
    rw [padded, String.length_append, String.length_ofList, List.length_replicate]
    omega
  · rw [← Bool.not_eq_true, List.contains_iff_mem]
    exact fun member => absurd (padded_digits member) (by decide)

/-- The last time that `datetime.now(UTC)` can return. -/
def lastTimestamp : Nat := 253402300799999999

/-- The bounds of the month and of the day are not the calendar's; a column needs no better ones. -/
theorem isoDate_fits {t : Nat} (years : t ≤ lastTimestamp) : Fits 17 (isoDate t) := by
  have dash : Fits 1 "-" := by decide
  unfold lastTimestamp at years
  unfold isoDate
  dsimp only
  have eras : (t / (86400 * 1000000) + 719468) / 146097 ≤ 25 := by omega
  have days : (t / (86400 * 1000000) + 719468) % 146097 < 146097 := Nat.mod_lt _ (by decide)
  generalize (t / (86400 * 1000000) + 719468) / 146097 = era at eras ⊢
  generalize (t / (86400 * 1000000) + 719468) % 146097 = dayOfEra at days ⊢
  have years : (dayOfEra - dayOfEra / 1460 + dayOfEra / 36524 - dayOfEra / 146096) / 365 ≤ 401 := by omega
  generalize (dayOfEra - dayOfEra / 1460 + dayOfEra / 36524 - dayOfEra / 146096) / 365 = yearOfEra at years ⊢
  have rest : dayOfEra - (365 * yearOfEra + yearOfEra / 4 - yearOfEra / 100) < 146097 := by omega
  generalize dayOfEra - (365 * yearOfEra + yearOfEra / 4 - yearOfEra / 100) = dayOfYear at rest ⊢
  have months : (5 * dayOfYear + 2) / 153 < 5000 := by omega
  generalize (5 * dayOfYear + 2) / 153 = month at months ⊢
  exact ((((padded_fits 5 (by decide) (by decide) (by split <;> omega)).append dash).append
    (padded_fits 4 (by decide) (by decide) (by split <;> omega))).append dash).append
    (padded_fits 6 (by decide) (by decide) (by omega))

/-! ### Rows -/

def ImportStatus.value : ImportStatus → String
  | .queued => "queued"
  | .processing => "processing"
  | .completed => "completed"
  | .completedWithErrors => "completed_with_errors"
  | .failed => "failed"

def ImportJob.row (job : ImportJob) (correlationId : Option CorrelationId) : Storage.Row := [
  ("id", .other),
  ("supplier_id", .other),
  ("source_type", .text job.sourceType.value),
  ("adapter_version", .text job.adapterVersion),
  ("original_filename", textOrNull job.originalFilename),
  ("content_sha256", .text job.contentSha256),
  ("content_type", .text job.contentType),
  ("payload", otherOrNull job.payload),
  ("payload_object_key", textOrNull job.payloadObjectKey),
  ("payload_size_bytes", naturalOrNull job.payloadSizeBytes),
  ("idempotency_key", textOrNull job.idempotencyKey),
  ("correlation_id", textOrNull (correlationId.map (·.text))),
  ("status", .text job.status.value),
  ("total_records", .natural job.totalRecords),
  ("accepted_records", .natural job.acceptedRecords),
  ("rejected_records", .natural job.rejectedRecords),
  ("attempt_count", .natural job.attemptCount),
  ("max_attempts", .natural job.maxAttempts),
  ("replay_of_job_id", otherOrNull job.replayOfJobId)]

/-- `evidence_reference` -/
def Evidence.reference : Evidence → Option String
  | .importJob jobId => some ("import_jobs/" ++ uuidText jobId)
  | .importAttempt jobId number => some ("import_attempts/" ++ uuidText jobId ++ "/" ++ number.repr)
  | .object key => key
  | .adapter version => some ("adapter/" ++ version)
  | .snapshots jobId => some ("inventory_snapshots?import_job_id=" ++ uuidText jobId)

def OperationEvent.row (event : OperationEvent) (correlationId : Option CorrelationId)
    (title explanation : String) : Storage.Row := [
  ("id", .other),
  ("import_job_id", .other),
  ("correlation_id", textOrNull (correlationId.map (·.text))),
  ("component", .text event.component),
  ("stage", .text event.stage),
  ("status", .text event.status),
  ("title", .text title),
  ("explanation", .text explanation),
  ("evidence_reference", textOrNull event.evidenceReference.reference),
  ("details", .other),
  ("occurred_at", .other)]

/-- The title and the explanation of each event of a submission. -/
def submissionTexts : List (String × String) := [
  ("The message passed its checks",
    "The hub recognized the supplier, found every required field, " ++
      "and confirmed this was not an accidental duplicate."),
  ("An untouched copy was saved",
    "The exact message that arrived was saved before anything was " ++
      "translated, so it can always be checked again."),
  ("A work ticket was written",
    "The hub wrote down what needs to happen, where the original copy " ++
      "lives, and how many times the work may be tried.")]

def eventStatements (job : ImportJob) (correlationId : Option CorrelationId) (now : Timestamp) :
    List Storage.Statement :=
  List.zipWith (fun event texts => {
      table := Schema.operationEvents
      row := event.row correlationId texts.1 texts.2 })
    (submissionEvents job now) submissionTexts

/-! ### The call -/

/-- What a call meets: how the put ends and when, and the `uuid4` and the time of the rows it inserts. -/
structure Occasion where
  outcome : PutOutcome
  putAt : Nat
  id : Id
  now : Timestamp
  years : putAt ≤ lastTimestamp

def ImportJob.statement (db : Database) (job : ImportJob) (correlationId : Option CorrelationId) :
    Storage.Statement where
  table := Schema.importJobs
  row := job.row correlationId
  violates := db.jobs.any fun j => j.idempotency = job.idempotency

/-- `submit_inventory_import`, with nothing in between. -/
def submitInventoryImport (settings : Settings) (db : Database) (objects : ObjectStore) (request : SubmitRequest)
    (correlationId : Option CorrelationId) (occasion : Occasion) : CallOutcome (Database × ObjectStore) :=
  match submitLookup db request with
  | .missed _ supplierId =>
    let objectKey := buildRawObjectKey request.sourceType request.contentSha256 occasion.putAt
    let stored :=
      if occasion.outcome = .failedBeforeWrite then objects else objects.put objectKey request.content
    if occasion.outcome ≠ .stored then ⟨(db, stored), some (.domain storeUnavailable)⟩
    else
      let job := queuedJob settings request supplierId objectKey occasion.id occasion.now
      commit (db, stored)
        ({ db with jobs := db.jobs ++ [job] }.addEvents (submissionEvents job occasion.now), stored)
        (job.statement db correlationId :: eventStatements job correlationId occasion.now)
        "The import submission conflicts with an existing request."
  | .raised _ e => ⟨(db, objects), some e⟩
  | _ => ⟨(db, objects), none⟩

/-- `MAX_CSV_BYTES` -/
def maxCsvBytes : Nat := 10 * 1024 * 1024

/-- A Python object has no more than `sys.maxsize` bytes. -/
def sysMaxsize : Nat := 9223372036854775807

/-- A partner's upload: a message of supplier A, or a file of supplier B with what its part of the form says. -/
inductive Upload where
  | supplierA (content : ByteArray) (size : content.size ≤ sysMaxsize)
  | supplierB (content : ByteArray) (filename contentType : Option String)

/-- `file.content_type or "text/csv"` -/
def csvContentType : Option String → String
  | none | some "" => "text/csv"
  | some contentType => contentType

/-- What `import_supplier_a_inventory` passes on. -/
def supplierARequest (sha256 : ByteArray → String) (key : IdempotencyKey) (content : ByteArray) : SubmitRequest where
  supplierCode := "SUPPLIER_A"
  sourceType := .supplierAJson
  adapterVersion := "supplier-a.inventory.v1"
  content
  contentSha256 := sha256 content
  contentType := "application/json"
  idempotencyKey := key.text

/-- What `import_supplier_b_inventory` passes on. -/
def supplierBRequest (sha256 : ByteArray → String) (key : IdempotencyKey) (content : ByteArray)
    (filename contentType : Option String) : SubmitRequest where
  supplierCode := "SUPPLIER_B"
  sourceType := .supplierBCsv
  adapterVersion := "supplier-b.inventory-csv.v1"
  content
  contentSha256 := sha256 content
  contentType := csvContentType contentType
  idempotencyKey := key.text
  originalFilename := filename

/-- What `hexdigest` returns of SHA-256. -/
def HexDigest (s : String) : Prop :=
  s.length = 64 ∧ (s.toList.all fun c => "0123456789abcdef".toList.contains c) = true

instance (s : String) : Decidable (HexDigest s) := inferInstanceAs (Decidable (_ ∧ _))

/-- `import_supplier_a_inventory` and `import_supplier_b_inventory` -/
def importInventory (env : Env) (db : Database) (objects : ObjectStore) (upload : Upload) (key : IdempotencyKey)
    (correlationId : Option CorrelationId) (occasion : Occasion) : CallOutcome (Database × ObjectStore) :=
  match upload with
  | .supplierA content _ =>
    submitInventoryImport env.settings db objects (supplierARequest env.sha256 key content) correlationId occasion
  | .supplierB content filename contentType =>
    if maxCsvBytes < content.size then
      ⟨(db, objects), some (.domain (.domainValidation "Supplier B CSV files may not exceed 10 MiB."))⟩
    else
      submitInventoryImport env.settings db objects
        (supplierBRequest env.sha256 key content filename contentType) correlationId occasion

/-! ### What the columns can hold -/

/-- What the arguments of a submission are besides the filename and the content type. -/
structure SubmitRequest.Sound (request : SubmitRequest) : Prop where
  adapterVersion : Fits 100 request.adapterVersion
  contentSha256 : Fits 64 request.contentSha256
  idempotencyKey : Fits 128 request.idempotencyKey
  size : request.content.size ≤ sysMaxsize

/-- The supplier is configured, and no job has the key. -/
def SubmitRequest.Submits (request : SubmitRequest) (db : Database) : Prop :=
  ∃ supplier, (db.suppliers.find? fun s => s.code = request.supplierCode) = some supplier ∧
    ∀ j ∈ db.jobs, j.idempotency ≠ (supplier.id, request.sourceType, some request.idempotencyKey)

/-- The file is not too large, its supplier is configured, and no job has the key. -/
def Upload.Submits (upload : Upload) (key : IdempotencyKey) (db : Database) : Prop :=
  match upload with
  | .supplierA _ _ => ∃ supplier, (db.suppliers.find? fun s => s.code = "SUPPLIER_A") = some supplier ∧
      ∀ j ∈ db.jobs, j.idempotency ≠ (supplier.id, .supplierAJson, some key.text)
  | .supplierB content _ _ => content.size ≤ maxCsvBytes ∧
      ∃ supplier, (db.suppliers.find? fun s => s.code = "SUPPLIER_B") = some supplier ∧
        ∀ j ∈ db.jobs, j.idempotency ≠ (supplier.id, .supplierBCsv, some key.text)

/-- What the form says of a file fits its columns. -/
def Upload.Fitting : Upload → Prop
  | .supplierA _ _ => True
  | .supplierB _ filename contentType =>
    (∀ name, filename = some name → Fits 255 name) ∧ Fits 100 (csvContentType contentType)

section
variable {settings : Settings} {db : Database} {objects : ObjectStore} {request : SubmitRequest}
    {correlationId : Option CorrelationId} {occasion : Occasion} {statusCodes : List Nat}

theorem objectKey_fits (sourceType : ImportSourceType) {digest : String} (fits : Fits 64 digest) {t : Nat}
    (years : t ≤ lastTimestamp) : Fits 1000 (buildRawObjectKey sourceType digest t) := by
  have folder : Fits 100 (sourceFolder sourceType) := by cases sourceType <;> decide
  have extension : Fits 4 (objectExtension sourceType) := by cases sourceType <;> decide
  have slash : Fits 1 "/" := by decide
  have point : Fits 1 "." := by decide
  rw [buildRawObjectKey_eq]
  exact (((((folder.append (isoDate_fits years)).append slash).append fits).append point).append extension).mono
    (by decide)

theorem correlationId_holds (correlationId : Option CorrelationId) :
    (Storage.ColumnType.varchar 128).holds (textOrNull (correlationId.map (·.text))) = true := by
  cases correlationId with
  | none => rfl
  | some correlationId => exact Storage.ColumnType.varchar_holds.mpr correlationId.fits

theorem queuedJob_holds (sound : request.Sound) {objectKey : String} (named : Fits 1000 objectKey)
    (supplierId id : Id) (now : Timestamp) :
    Schema.importJobs.holds ((queuedJob settings request supplierId objectKey id now).row correlationId) = true ↔
      request.Fitting := by
  have version : request.adapterVersion.length ≤ 100 ∧ hasNul request.adapterVersion = false := sound.adapterVersion
  have digest : request.contentSha256.length ≤ 64 ∧ hasNul request.contentSha256 = false := sound.contentSha256
  have key : request.idempotencyKey.length ≤ 128 ∧ hasNul request.idempotencyKey = false := sound.idempotencyKey
  have objectName : objectKey.length ≤ 1000 ∧ hasNul objectKey = false := named
  have source : request.sourceType.value.length ≤ 40 ∧ hasNul request.sourceType.value = false := by
    cases request.sourceType <;> decide
  have status : ImportStatus.queued.value.length ≤ 40 ∧ hasNul ImportStatus.queued.value = false := by decide
  have size : request.content.size < 9223372036854775808 := Nat.lt_succ_of_le sound.size
  have attempts : settings.importMaxAttempts < 2147483648 := by
    have bounds := settings.maxAttempts_bounds
    omega
  have correlated := correlationId_holds correlationId
  rw [textOrNull_holds] at correlated
  have filename : (request.originalFilename.all fun s => s.length ≤ 255 && !hasNul s) = true ↔
      ∀ filename, request.originalFilename = some filename → Fits 255 filename := by
    cases request.originalFilename <;> simp [Fits, hasNul]
  have contentType : (request.contentType.length ≤ 100 ∧ hasNul request.contentType = false) ↔
      Fits 100 request.contentType := Iff.rfl
  simp [Schema.importJobs, ImportJob.row, queuedJob, version, digest, key, objectName, source, status, size, attempts,
    correlated, naturalOrNull, SubmitRequest.Fitting, filename, contentType]

/-- A row of a job that the columns take has a filename and a content type that fit. -/
theorem queuedJob_fitting {supplierId id : Id} {objectKey : String} {now : Timestamp}
    (held : Schema.importJobs.holds
      ((queuedJob settings request supplierId objectKey id now).row correlationId) = true) : request.Fitting := by
  have entries := List.all_eq_true.mp held
  have filename := entries ("original_filename", textOrNull request.originalFilename)
    (by simp [ImportJob.row, queuedJob])
  have type := entries ("content_type", .text request.contentType) (by simp [ImportJob.row, queuedJob])
  constructor
  · intro name given
    simpa [Schema.importJobs, given, Fits, hasNul] using filename
  · simpa [Schema.importJobs, Fits, hasNul] using type

theorem event_holds {job : ImportJob} {component stage status title explanation reference : String}
    {evidence : Evidence} {now : Timestamp}
    (texts : Fits 50 component ∧ Fits 100 stage ∧ Fits 30 status ∧ Fits 200 title ∧ Fits 1000 explanation)
    (referred : evidence.reference = some reference) (fits : Fits 1000 reference) :
    Schema.operationEvents.holds
      ((recordImportEvent job component stage status evidence now).row correlationId title explanation) = true := by
  simp only [← Storage.ColumnType.varchar_holds] at texts fits
  obtain ⟨component, stage, status, title, explanation⟩ := texts
  have correlated := correlationId_holds correlationId
  simp only [text_holds] at component stage status title explanation fits
  rw [textOrNull_holds] at correlated
  simp [Schema.operationEvents, OperationEvent.row, recordImportEvent, referred, correlated, component, stage, status,
    title, explanation, fits]

theorem eventStatements_hold (job : ImportJob) {objectKey : String} (stored : job.payloadObjectKey = some objectKey)
    (named : Fits 1000 objectKey) (now : Timestamp) :
    ∀ s ∈ eventStatements job correlationId now, s.table.holds s.row = true ∧ s.violates = false := by
  intro s member
  have folder : Fits 12 "import_jobs/" := by decide
  have evidence : Fits 1000 ("import_jobs/" ++ uuidText job.id) :=
    (folder.append (uuidText_fits job.id)).mono (by decide)
  simp only [eventStatements, submissionEvents, submissionTexts, List.zipWith, List.mem_cons, List.not_mem_nil,
    or_false] at member
  rcases member with rfl | rfl | rfl
  · exact ⟨event_holds (by decide +kernel) rfl evidence, rfl⟩
  · exact ⟨event_holds (by decide +kernel) stored named, rfl⟩
  · exact ⟨event_holds (by decide +kernel) rfl evidence, rfl⟩

theorem submitLookup_submits (db : Database) (request : SubmitRequest) :
    (∃ e, submitLookup db request = .raised request (.domain e) ∧ e.statusCode ∈ [404, 409] ∧ ¬ request.Submits db) ∨
      (∃ jobId, submitLookup db request = .returned request jobId false ∧ ¬ request.Submits db) ∨
      ∃ supplierId, submitLookup db request = .missed request supplierId ∧ request.Submits db := by
  unfold submitLookup SubmitRequest.Submits
  cases configured : db.suppliers.find? fun s => s.code = request.supplierCode with
  | none => exact .inl ⟨_, rfl, List.mem_cons_self, by simp⟩
  | some supplier =>
    dsimp only
    cases found : db.jobs.find? fun j =>
        j.idempotency = (supplier.id, request.sourceType, some request.idempotencyKey) with
    | none =>
      refine .inr (.inr ⟨_, rfl, supplier, rfl, ?_⟩)
      simpa using found
    | some existing =>
      have taken : existing.idempotency = (supplier.id, request.sourceType, some request.idempotencyKey) := by
        simpa using List.find?_some found
      have known : ¬ ∃ s, some supplier = some s ∧
          ∀ j ∈ db.jobs, j.idempotency ≠ (s.id, request.sourceType, some request.idempotencyKey) := by
        rintro ⟨s, same, free⟩
        obtain rfl := Option.some.inj same
        exact free existing (List.mem_of_find?_eq_some found) taken
      dsimp only
      split
      · exact .inl ⟨_, rfl, List.mem_cons_of_mem _ List.mem_cons_self, known⟩
      · exact .inr (.inl ⟨_, rfl, known⟩)

/-- A new submission must fit the columns once the object is stored. -/
theorem submitInventoryImport_mapped (sound : request.Sound)
    (covered : ∀ code ∈ [404, 409, 503], code ∈ statusCodes) :
    (submitInventoryImport settings db objects request correlationId occasion).Mapped statusCodes ↔
      (request.Submits db → occasion.outcome = .stored → request.Fitting) := by
  unfold submitInventoryImport
  rcases submitLookup_submits db request with ⟨e, raised, code, known⟩ | ⟨jobId, returned, known⟩ |
    ⟨supplierId, missed, new⟩
  · rw [raised]
    have answered : e.statusCode ∈ statusCodes := by
      simp only [List.mem_cons, List.not_mem_nil, or_false] at code
      rcases code with code | code <;> exact code ▸ covered _ (by simp)
    exact iff_of_true (CallOutcome.mapped_domain _ answered) fun submits => absurd submits known
  · rw [returned]
    exact iff_of_true (CallOutcome.mapped_returned _ _) fun submits => absurd submits known
  · rw [missed]
    have named := objectKey_fits request.sourceType sound.contentSha256 occasion.years
    dsimp only
    by_cases stored : occasion.outcome = .stored
    · rw [if_neg (not_not.mpr stored), commit_mapped (covered 409 (by simp)) (fun s member =>
        (eventStatements_hold _ rfl named _ s member).1)]
      exact (queuedJob_holds sound named supplierId occasion.id occasion.now).trans
        ⟨fun fitting _ _ => fitting, fun fitting => fitting new stored⟩
    · rw [if_pos stored]
      exact iff_of_true (CallOutcome.mapped_domain _ (covered 503 (by simp))) fun _ now => absurd now stored

theorem HexDigest.fits {s : String} (digest : HexDigest s) : Fits 64 s := by
  refine ⟨Nat.le_of_eq digest.1, ?_⟩
  rw [← Bool.not_eq_true, List.contains_iff_mem]
  exact fun member => absurd (List.all_eq_true.mp digest.2 _ member) (by decide)

theorem supplierARequest_sound {sha256 : ByteArray → String} {content : ByteArray} (digest : HexDigest (sha256 content))
    (size : content.size ≤ sysMaxsize) (key : IdempotencyKey) : (supplierARequest sha256 key content).Sound where
  adapterVersion := show Fits 100 "supplier-a.inventory.v1" by decide
  contentSha256 := digest.fits
  idempotencyKey := key.fits
  size := size

theorem supplierBRequest_sound {sha256 : ByteArray → String} {content : ByteArray} (digest : HexDigest (sha256 content))
    (small : content.size ≤ maxCsvBytes) (key : IdempotencyKey) (filename contentType : Option String) :
    (supplierBRequest sha256 key content filename contentType).Sound where
  adapterVersion := show Fits 100 "supplier-b.inventory-csv.v1" by decide
  contentSha256 := digest.fits
  idempotencyKey := key.fits
  size := small.trans (by decide)

theorem importInventory_mapped {env : Env} (digests : ∀ content, HexDigest (env.sha256 content)) (upload : Upload)
    (key : IdempotencyKey) (covered : ∀ code ∈ [404, 409, 422, 503], code ∈ statusCodes) :
    (importInventory env db objects upload key correlationId occasion).Mapped statusCodes ↔
      (upload.Submits key db → occasion.outcome = .stored → upload.Fitting) := by
  have answers : ∀ code ∈ [404, 409, 503], code ∈ statusCodes := by
    intro code member
    refine covered code ?_
    simp only [List.mem_cons, List.not_mem_nil, or_false] at member ⊢
    omega
  unfold importInventory
  cases upload with
  | supplierA content size =>
    have sound := supplierARequest_sound (digests content) size key
    have plain : Fits 100 "application/json" := by decide
    exact (submitInventoryImport_mapped sound answers).trans ⟨fun _ _ _ => trivial, fun _ _ _ => ⟨nofun, plain⟩⟩
  | supplierB content filename contentType =>
    dsimp only
    by_cases large : maxCsvBytes < content.size
    · rw [if_pos large]
      refine iff_of_true (CallOutcome.mapped_domain _ (covered 422 (by simp))) fun submits => ?_
      exact absurd submits.1 (Nat.not_le_of_lt large)
    · rw [if_neg large]
      have small := Nat.le_of_not_lt large
      have sound := supplierBRequest_sound (digests content) small key filename contentType
      refine (submitInventoryImport_mapped sound answers).trans ⟨?_, ?_⟩
      · exact fun holds submits => holds submits.2
      · exact fun holds submits => holds ⟨small, submits⟩

theorem submitInventoryImport_failed
    (failed : (submitInventoryImport settings db objects request correlationId occasion).error ≠ none) :
    (submitInventoryImport settings db objects request correlationId occasion).db.1 = db := by
  unfold submitInventoryImport at *
  split
  · rename_i missed
    rw [missed] at failed
    dsimp only at failed ⊢
    split
    · rfl
    · rename_i stored
      rw [if_neg stored] at failed
      exact congrArg Prod.fst (commit_failed failed)
  · rfl
  · rfl

/-- A submission that fails leaves no row. The object may be there. -/
theorem importInventory_failed {env : Env} {upload : Upload} {key : IdempotencyKey}
    (failed : (importInventory env db objects upload key correlationId occasion).error ≠ none) :
    (importInventory env db objects upload key correlationId occasion).db.1 = db := by
  unfold importInventory at *
  cases upload with
  | supplierA content size => exact submitInventoryImport_failed failed
  | supplierB content filename contentType =>
    dsimp only at failed ⊢
    split
    · rfl
    · rename_i small
      rw [if_neg small] at failed
      exact submitInventoryImport_failed failed

/-- Nothing in between, the call does what its three steps do: of a sound submission no value but the filename
and the content type can be refused by its column. -/
theorem submitInventoryImport_insert (sound : request.Sound) {supplierId : Id}
    (missed : submitLookup db request = .missed request supplierId) (stored : occasion.outcome = .stored) :
    submitInventoryImport settings db objects request correlationId occasion =
      let objectKey := buildRawObjectKey request.sourceType request.contentSha256 occasion.putAt
      let after := objects.put objectKey request.content
      match submitInsert settings db request supplierId objectKey occasion.id occasion.now with
      | .error e => ⟨(db, after), some e⟩
      | .ok inserted => ⟨(inserted, after), none⟩ := by
  have named := objectKey_fits request.sourceType sound.contentSha256 occasion.years
  unfold submitInventoryImport
  rw [missed]
  dsimp only
  rw [if_neg (not_not.mpr stored), if_neg (by simp [stored])]
  by_cases fitting : request.Fitting
  · rw [commit_held ((queuedJob_holds sound named _ _ _).mpr fitting) (eventStatements_hold _ rfl named _)]
    unfold submitInsert ImportJob.statement
    dsimp only
    rw [if_neg (not_not.mpr fitting)]
    cases db.jobs.any fun j => j.idempotency =
        (queuedJob settings request supplierId
          (buildRawObjectKey request.sourceType request.contentSha256 occasion.putAt)
          occasion.id occasion.now).idempotency <;> rfl
  · rw [submitInsert, if_pos fitting]
    exact commit_misfit (Bool.eq_false_of_not_eq_true (mt (queuedJob_holds sound named _ _ _).mp fitting))

theorem put_self (objects : ObjectStore) (objectKey : String) (content : ByteArray) :
    objects.put objectKey content objectKey = some content := if_pos rfl

/-- Where the job's row does not fit, the object stays and no job is there for it. -/
theorem submitInventoryImport_misfit (sound : request.Sound) (misfit : ¬ request.Fitting) {supplierId : Id}
    (missed : submitLookup db request = .missed request supplierId) (stored : occasion.outcome = .stored) :
    submitInventoryImport settings db objects request correlationId occasion =
      ⟨(db, objects.put (buildRawObjectKey request.sourceType request.contentSha256 occasion.putAt) request.content),
        some (.unmapped valueError)⟩ := by
  have refused (objectKey : String) : submitInsert settings db request supplierId objectKey occasion.id
      occasion.now = .error (.unmapped valueError) := if_pos misfit
  rw [submitInventoryImport_insert sound missed stored]
  dsimp only
  rw [refused]

end

end SupplyChainHub
