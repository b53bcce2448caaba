import SupplyChainHub.Imports.Replays
import SupplyChainHub.Imports.Transactions

/-!
The foreign keys and the checks of `infrastructure/db/models.py`, for the tables of the imports. What a session
refers to when it writes was there when it looked, and no row that is referred to is ever deleted: so no commit,
in whatever order they come, gives the database a reason to refuse a row by one of them.
-/

namespace SupplyChainHub

/-- The primary keys that foreign keys refer to. -/
structure Keys where
  suppliers : List Id
  products : List Id
  warehouses : List Id
  jobs : List Id

def Database.keys (db : Database) : Keys where
  suppliers := db.suppliers.map (·.id)
  products := db.products
  warehouses := db.warehouses
  jobs := db.jobs.map (·.id)

structure Keys.Within (keys later : Keys) : Prop where
  suppliers : keys.suppliers ⊆ later.suppliers
  products : keys.products ⊆ later.products
  warehouses : keys.warehouses ⊆ later.warehouses
  jobs : keys.jobs ⊆ later.jobs

theorem Keys.Within.refl (keys : Keys) : keys.Within keys := ⟨fun _ => id, fun _ => id, fun _ => id, fun _ => id⟩

/-! ### The constraints of a row

Numbers that are natural numbers here are not negative there. -/

section
variable (keys : Keys)

structure SupplierProductMapping.Constrained (m : SupplierProductMapping) : Prop where
  supplier : m.supplierId ∈ keys.suppliers
  product : m.productId ∈ keys.products
  unitsPerSourceUnitPositive : 0 < m.unitsPerSourceUnit.thousandths
  versionPositive : 0 < m.version

structure SupplierWarehouseMapping.Constrained (m : SupplierWarehouseMapping) : Prop where
  supplier : m.supplierId ∈ keys.suppliers
  warehouse : m.warehouseId ∈ keys.warehouses
  versionPositive : 0 < m.version

structure InventoryPosition.Constrained (p : InventoryPosition) : Prop where
  warehouse : p.warehouseId ∈ keys.warehouses
  product : p.productId ∈ keys.products
  onHandQuantityNonnegative : 0 ≤ p.onHandQuantity.thousandths
  reservedQuantityNonnegative : 0 ≤ p.reservedQuantity.thousandths
  versionPositive : 0 < p.version

structure ImportJob.Constrained (j : ImportJob) : Prop where
  supplier : j.supplierId ∈ keys.suppliers
  replayOfJob : ∀ original, j.replayOfJobId = some original → original ∈ keys.jobs
  maxAttemptsPositive : 0 < j.maxAttempts

structure ImportAttempt.Constrained (a : ImportAttempt) : Prop where
  importJob : a.importJobId ∈ keys.jobs
  attemptNumberPositive : 0 < a.attemptNumber

structure InventorySnapshot.Constrained (s : InventorySnapshot) : Prop where
  importJob : s.importJobId ∈ keys.jobs
  supplier : s.supplierId ∈ keys.suppliers
  product : s.productId ∈ keys.products
  warehouse : s.warehouseId ∈ keys.warehouses
  onHandQuantityNonnegative : 0 ≤ s.onHandQuantity.thousandths
  reservedQuantityNonnegative : 0 ≤ s.reservedQuantity.thousandths
  unitsPerSourceUnitPositive : 0 < s.unitsPerSourceUnit.thousandths

/-- Every row of every table, by the keys that are there. -/
structure Database.ConstrainedBy (db : Database) : Prop where
  productMappings : ∀ m ∈ db.productMappings, m.Constrained keys
  warehouseMappings : ∀ m ∈ db.warehouseMappings, m.Constrained keys
  positions : ∀ p ∈ db.positions, p.Constrained keys
  jobs : ∀ j ∈ db.jobs, j.Constrained keys
  attempts : ∀ a ∈ db.attempts, a.Constrained keys
  events : ∀ e ∈ db.events, e.importJobId ∈ keys.jobs
  errors : ∀ e ∈ db.errors, e.importJobId ∈ keys.jobs
  snapshots : ∀ s ∈ db.snapshots, s.Constrained keys

end

abbrev Database.Constrained (db : Database) : Prop := db.ConstrainedBy db.keys

section
variable {keys later : Keys} {db after : Database}

theorem SupplierProductMapping.Constrained.mono {m : SupplierProductMapping} (within : keys.Within later)
    (row : m.Constrained keys) : m.Constrained later :=
  { row with supplier := within.suppliers row.supplier, product := within.products row.product }

theorem SupplierWarehouseMapping.Constrained.mono {m : SupplierWarehouseMapping} (within : keys.Within later)
    (row : m.Constrained keys) : m.Constrained later :=
  { row with supplier := within.suppliers row.supplier, warehouse := within.warehouses row.warehouse }

theorem InventoryPosition.Constrained.mono {p : InventoryPosition} (within : keys.Within later)
    (row : p.Constrained keys) : p.Constrained later :=
  { row with warehouse := within.warehouses row.warehouse, product := within.products row.product }

theorem ImportJob.Constrained.mono {j : ImportJob} (within : keys.Within later) (row : j.Constrained keys) :
    j.Constrained later :=
  { row with
    supplier := within.suppliers row.supplier
    replayOfJob := fun original replays => within.jobs (row.replayOfJob original replays) }

theorem ImportAttempt.Constrained.mono {a : ImportAttempt} (within : keys.Within later) (row : a.Constrained keys) :
    a.Constrained later :=
  { row with importJob := within.jobs row.importJob }

theorem InventorySnapshot.Constrained.mono {s : InventorySnapshot} (within : keys.Within later)
    (row : s.Constrained keys) : s.Constrained later :=
  { row with
    importJob := within.jobs row.importJob
    supplier := within.suppliers row.supplier
    product := within.products row.product
    warehouse := within.warehouses row.warehouse }

theorem Database.ConstrainedBy.mono (within : keys.Within later) (rows : db.ConstrainedBy keys) :
    db.ConstrainedBy later where
  productMappings m member := (rows.productMappings m member).mono within
  warehouseMappings m member := (rows.warehouseMappings m member).mono within
  positions p member := (rows.positions p member).mono within
  jobs j member := (rows.jobs j member).mono within
  attempts a member := (rows.attempts a member).mono within
  events e member := within.jobs (rows.events e member)
  errors e member := within.jobs (rows.errors e member)
  snapshots s member := (rows.snapshots s member).mono within

/-! ### What the sessions refer to -/

variable (keys) in
structure WorkerSession.Refers (w : WorkerSession) : Prop where
  job : w.job.id ∈ keys.jobs
  supplier : w.job.supplierId ∈ keys.suppliers

variable (keys) in
def RecordPhase.Refers : RecordPhase → Prop
  | .duplicateCheck | .productLookup => True
  | .warehouseLookup m => m.productId ∈ keys.products
  | .positionLookup m w | .flush m w _ => m.productId ∈ keys.products ∧ w.warehouseId ∈ keys.warehouses

variable (keys) in
structure PositionWrite.Refers (w : PositionWrite) : Prop where
  warehouse : w.warehouseId ∈ keys.warehouses
  product : w.productId ∈ keys.products
  onHandNonnegative : 0 ≤ w.storedOnHand.thousandths
  reservedNonnegative : 0 ≤ w.storedReserved.thousandths

variable (keys) in
structure Applying.Refers (a : Applying) : Prop where
  session : a.toWorkerSession.Refers keys
  phase : a.phase.Refers keys
  snapshots : ∀ s ∈ a.snapshots, s.Constrained keys
  writes : ∀ w ∈ a.writes, w.Refers keys
  events : ∀ e ∈ a.events, e.importJobId ∈ keys.jobs

variable (keys) in
def Delivery.Refers : Delivery → Prop
  | .received _ _ _ | .raised _ | .done => True
  | .claimed w | .committed w => w.Refers keys
  | .adapted w _ events => w.Refers keys ∧ ∀ e ∈ events, e.importJobId ∈ keys.jobs
  | .applying a | .closing a _ => a.Refers keys

variable (keys) in
def Submission.Refers : Submission → Prop
  | .requested request => ∀ original, request.replayOfJobId = some original → original ∈ keys.jobs
  | .missed request supplierId | .stored request supplierId _ => supplierId ∈ keys.suppliers ∧
    ∀ original, request.replayOfJobId = some original → original ∈ keys.jobs
  | .returned _ _ _ | .raised _ _ | .refused _ => True

variable (keys) in
def InventoryCall.Refers : InventoryCall → Prop
  | .loaded warehouseId productId request _ => warehouseId ∈ keys.warehouses ∧ productId ∈ keys.products ∧
    0 ≤ request.onHandQuantity ∧ 0 ≤ request.reservedQuantity
  | .returned | .raised _ | .failed _ => True

variable (keys) in
def MappingCall.Refers : MappingCall → Prop
  | .product request _ => request.supplierId ∈ keys.suppliers ∧ request.productId ∈ keys.products
  | .warehouse request _ => request.supplierId ∈ keys.suppliers ∧ request.warehouseId ∈ keys.warehouses
  | .returned | .raised _ => True

variable (keys) in
structure Hub.SessionsRefer (hub : Hub) : Prop where
  submissions : ∀ x ∈ hub.submissions, x.Refers keys
  dispatches : ∀ x ∈ hub.dispatches, ∀ job, x = some job → job.id ∈ keys.jobs
  deliveries : ∀ x ∈ hub.deliveries, x.Refers keys
  inventoryCalls : ∀ x ∈ hub.inventoryCalls, x.Refers keys
  mappingCalls : ∀ x ∈ hub.mappingCalls, x.Refers keys

theorem WorkerSession.Refers.mono {w : WorkerSession} (within : keys.Within later) (refers : w.Refers keys) :
    w.Refers later :=
  ⟨within.jobs refers.job, within.suppliers refers.supplier⟩

theorem RecordPhase.Refers.mono {phase : RecordPhase} (within : keys.Within later) (refers : phase.Refers keys) :
    phase.Refers later := by
  cases phase with
  | duplicateCheck | productLookup => trivial
  | warehouseLookup => exact within.products refers
  | positionLookup | flush => exact ⟨within.products refers.1, within.warehouses refers.2⟩

theorem Applying.Refers.mono {a : Applying} (within : keys.Within later) (refers : a.Refers keys) :
    a.Refers later where
  session := refers.session.mono within
  phase := refers.phase.mono within
  snapshots s member := (refers.snapshots s member).mono within
  writes w member :=
    { refers.writes w member with
      warehouse := within.warehouses (refers.writes w member).warehouse
      product := within.products (refers.writes w member).product }
  events e member := within.jobs (refers.events e member)

theorem Delivery.Refers.mono {x : Delivery} (within : keys.Within later) (refers : x.Refers keys) :
    x.Refers later := by
  cases x with
  | received | raised | done => trivial
  | claimed | committed => exact WorkerSession.Refers.mono within refers
  | adapted => exact ⟨refers.1.mono within, fun e member => within.jobs (refers.2 e member)⟩
  | applying | closing => exact Applying.Refers.mono within refers

theorem Submission.Refers.mono {x : Submission} (within : keys.Within later) (refers : x.Refers keys) :
    x.Refers later := by
  cases x with
  | requested => exact fun original replays => within.jobs (refers original replays)
  | missed | stored =>
    exact ⟨within.suppliers refers.1, fun original replays => within.jobs (refers.2 original replays)⟩
  | returned | raised | refused => trivial

theorem InventoryCall.Refers.mono {x : InventoryCall} (within : keys.Within later) (refers : x.Refers keys) :
    x.Refers later := by
  cases x with
  | loaded => exact ⟨within.warehouses refers.1, within.products refers.2.1, refers.2.2⟩
  | returned | raised | failed => trivial

theorem MappingCall.Refers.mono {x : MappingCall} (within : keys.Within later) (refers : x.Refers keys) :
    x.Refers later := by
  cases x with
  | product => exact ⟨within.suppliers refers.1, within.products refers.2⟩
  | warehouse => exact ⟨within.suppliers refers.1, within.warehouses refers.2⟩
  | returned | raised => trivial

theorem Hub.SessionsRefer.mono {hub : Hub} (within : keys.Within later) (refers : hub.SessionsRefer keys) :
    hub.SessionsRefer later where
  submissions x member := (refers.submissions x member).mono within
  dispatches x member job held := within.jobs (refers.dispatches x member job held)
  deliveries x member := (refers.deliveries x member).mono within
  inventoryCalls x member := (refers.inventoryCalls x member).mono within
  mappingCalls x member := (refers.mappingCalls x member).mono within

end

/-! ### Each transaction -/

section
variable {settings : Settings} {keys : Keys} {db after : Database} {jobId : Id} {now : Timestamp}
    {job : ImportJob} {a b : Applying}

theorem job_known (present : db.job jobId = some job) : jobId ∈ db.keys.jobs :=
  List.mem_map.mpr ⟨job, Table.lookup_mem present, job_id present⟩

theorem modifyJob_keys {f : ImportJob → ImportJob} (keeps : ∀ r, r.id = jobId → (f r).id = jobId) :
    (db.modifyJob jobId f).keys = db.keys := by
  unfold Database.keys Database.modifyJob
  rw [Table.modify_keys keeps]

theorem Database.ConstrainedBy.modifyJob {f : ImportJob → ImportJob} (rows : db.ConstrainedBy keys)
    (kept : ∀ r, r.Constrained keys → (f r).Constrained keys) : (db.modifyJob jobId f).ConstrainedBy keys :=
  { rows with jobs := Table.forall_modify rows.jobs fun r _ => kept r }

theorem Database.ConstrainedBy.modifyAttempt {number : Nat} {f : ImportAttempt → ImportAttempt}
    (rows : db.ConstrainedBy keys) (keeps : ∀ r, (f r).key = r.key) :
    (db.modifyAttempt jobId number f).ConstrainedBy keys := by
  refine { rows with attempts := Table.forall_modify rows.attempts ?_ }
  intro attempt _ row
  have owner : (f attempt).importJobId = attempt.importJobId := congrArg Prod.fst (keeps attempt)
  have same : (f attempt).attemptNumber = attempt.attemptNumber := congrArg Prod.snd (keeps attempt)
  exact ⟨owner ▸ row.importJob, same ▸ row.attemptNumberPositive⟩

theorem Database.ConstrainedBy.addAttempt {attempt : ImportAttempt} (rows : db.ConstrainedBy keys)
    (row : attempt.Constrained keys) :
    ({ db with attempts := db.attempts ++ [attempt] } : Database).ConstrainedBy keys :=
  { rows with attempts := List.forall_mem_append.mpr ⟨rows.attempts, List.forall_mem_singleton.mpr row⟩ }

theorem Database.ConstrainedBy.addEvents {events : List OperationEvent} (rows : db.ConstrainedBy keys)
    (owned : ∀ e ∈ events, e.importJobId ∈ keys.jobs) : (db.addEvents events).ConstrainedBy keys :=
  { rows with events := List.forall_mem_append.mpr ⟨rows.events, owned⟩ }

theorem insertJob_within : db.keys.Within ({ db with jobs := db.jobs ++ [job] } : Database).keys := by
  refine ⟨fun _ => id, fun _ => id, fun _ => id, fun jobId member => ?_⟩
  show jobId ∈ (db.jobs ++ [job]).map (·.id)
  rw [List.map_append]
  exact List.mem_append_left _ member

theorem submitInsert_constrained {request : SubmitRequest} {supplierId : Id} {objectKey : String}
    (rows : db.Constrained) (supplier : supplierId ∈ db.keys.suppliers)
    (replay : ∀ original, request.replayOfJobId = some original → original ∈ db.keys.jobs)
    (h : submitInsert settings db request supplierId objectKey jobId now = .ok after) :
    db.keys.Within after.keys ∧ after.Constrained := by
  obtain ⟨-, -, rfl⟩ := submitInsert_written h
  have within : db.keys.Within ({ db with
      jobs := db.jobs ++ [queuedJob settings request supplierId objectKey jobId now] } : Database).keys :=
    insertJob_within
  have row : (queuedJob settings request supplierId objectKey jobId now).Constrained db.keys :=
    ⟨supplier, replay, settings.maxAttempts_bounds.1⟩
  have inserted := List.mem_append_right db.jobs
    (List.mem_singleton_self (queuedJob settings request supplierId objectKey jobId now))
  have later := rows.mono within
  refine ⟨within, Database.ConstrainedBy.addEvents { later with
    jobs := List.forall_mem_append.mpr ⟨later.jobs, List.forall_mem_singleton.mpr (row.mono within)⟩ } ?_⟩
  intro e member
  have owner : e.importJobId = jobId := by
    simp only [submissionEvents, List.mem_cons, List.not_mem_nil, or_false] at member
    rcases member with rfl | rfl | rfl <;> rfl
  rw [owner]
  exact List.mem_map.mpr ⟨_, inserted, rfl⟩

theorem markJobDispatched_constrained {loaded : ImportJob} (rows : db.Constrained)
    (known : loaded.id ∈ db.keys.jobs) :
    (markJobDispatched db loaded now).keys = db.keys ∧ (markJobDispatched db loaded now).ConstrainedBy db.keys := by
  unfold markJobDispatched
  split
  · constructor
    · have same : (db.modifyJob loaded.id (loaded.writeBack { loaded with dispatchedAt := some now })).keys = db.keys :=
        modifyJob_keys fun _ same => same
      exact same
    · refine (rows.modifyJob ?_).addEvents (List.forall_mem_singleton.mpr known)
      exact fun r row => ⟨row.supplier, row.replayOfJob, row.maxAttemptsPositive⟩
  · exact ⟨rfl, rows⟩

theorem claim_constrained {workerId : String} {celeryTaskId : Option String} {session : WorkerSession}
    (rows : db.Constrained)
    (h : executeImportJobClaim settings db jobId workerId celeryTaskId now = .ok (some (after, session))) :
    after.keys = db.keys ∧ after.ConstrainedBy db.keys ∧ session.Refers db.keys := by
  obtain ⟨job, present, -, -, -, rfl, rfl⟩ := claim_ok h
  have known := job_known present
  have row := rows.jobs job (Table.lookup_mem present)
  obtain rfl := job_id present
  refine ⟨modifyJob_keys fun _ _ => rfl, ?_, known, row.supplier⟩
  have claimed : (db.modifyJob job.id fun _ => claimedJob settings job workerId now).ConstrainedBy db.keys :=
    rows.modifyJob fun _ _ => ⟨row.supplier, row.replayOfJob, row.maxAttemptsPositive⟩
  have opened : (openAttempt (claimedJob settings job workerId now) workerId celeryTaskId).Constrained db.keys :=
    ⟨known, Nat.succ_pos _⟩
  exact (claimed.addAttempt opened).addEvents (List.forall_mem_singleton.mpr known)

theorem failedJob_constrained {error : Raised} (row : job.Constrained keys) :
    (failedJob settings job error now).Constrained keys := by
  unfold failedJob
  dsimp only
  split <;> exact ⟨row.supplier, row.replayOfJob, row.maxAttemptsPositive⟩

theorem failureEvent_owner {error : Raised} : (failureEvent settings job error now).importJobId = job.id := by
  unfold failureEvent
  split <;> rfl

theorem failure_constrained {error : Raised} {workerId : String} {celeryTaskId : Option String}
    {disposition : FailureDisposition} (ledger : Ledger db) (rows : db.Constrained)
    (h : recordImportFailure settings db jobId error workerId celeryTaskId now = .ok (after, disposition)) :
    after.keys = db.keys ∧ after.ConstrainedBy db.keys := by
  obtain ⟨job, counted, middle, attempt, present, opened, rfl⟩ := failure_ok ledger h
  have known := job_known present
  have row := rows.jobs job (Table.lookup_mem present)
  obtain rfl := job_id present
  have ready : middle.keys = db.keys ∧ middle.ConstrainedBy db.keys ∧ counted.id = job.id ∧
      counted.Constrained db.keys := by
    rcases opened with ⟨rfl, rfl, -⟩ | ⟨-, rfl, rfl, -, rfl⟩
    · exact ⟨rfl, rows, rfl, row⟩
    · exact ⟨rfl, rows.addAttempt ⟨known, Nat.one_pos⟩, rfl, row.supplier, row.replayOfJob, row.maxAttemptsPositive⟩
  obtain ⟨same, constrained, owner, counted⟩ := ready
  refine ⟨(modifyJob_keys fun _ _ => (failedJob_row _ _ _ _).1.trans owner).trans same, ?_⟩
  have failed : (middle.modifyJob job.id fun _ => failedJob settings _ error now).ConstrainedBy db.keys :=
    constrained.modifyJob fun _ _ => failedJob_constrained counted
  refine (failed.modifyAttempt ?_).addEvents (List.forall_mem_singleton.mpr ?_)
  · exact fun _ => rfl
  · rw [failureEvent_owner, owner]
    exact known

theorem recoveredJob_constrained (row : job.Constrained keys) : (recoveredJob now job).Constrained keys := by
  unfold recoveredJob
  dsimp only
  split <;> exact ⟨row.supplier, row.replayOfJob, row.maxAttemptsPositive⟩

theorem Recoveries.constrained (chain : Recoveries now db after) (rows : db.ConstrainedBy keys) :
    after.keys = db.keys ∧ after.ConstrainedBy keys := by
  induction chain with
  | nil => exact ⟨rfl, rows⟩
  | @cons db after job _ present _ _ ih =>
    have row := rows.jobs job (Table.lookup_mem present)
    have recovered : (recoveredDatabase now db job).ConstrainedBy keys :=
      (rows.modifyJob fun _ _ => recoveredJob_constrained row).modifyAttempt fun _ => rfl
    obtain ⟨same, constrained⟩ := ih recovered
    have kept : (db.modifyJob job.id fun _ => recoveredJob now job).keys = db.keys :=
      modifyJob_keys fun _ _ => (recoveredJob_row now job).1
    exact ⟨same.trans kept, constrained⟩

/-! ### The second transaction of a worker -/

theorem statement_events {locks : Locks} {record : CanonicalInventoryRecord} {rest : List CanonicalInventoryRecord}
    (h : a.validateAndApplyRecord db locks record rest = .next b) : b.events = a.events := by
  unfold Applying.validateAndApplyRecord Applying.flushRecord at h
  dsimp only at h
  repeat' split at h
  all_goals first | contradiction | (cases h; rfl)

theorem statement_refers {locks : Locks} {record : CanonicalInventoryRecord} {rest : List CanonicalInventoryRecord}
    (rows : db.Constrained) (refers : a.Refers db.keys)
    (h : a.validateAndApplyRecord db locks record rest = .next b) : b.Refers db.keys := by
  have events := statement_events h
  cases record_progress h with
  | rejected | unseen => exact { refers with phase := trivial }
  | product _ found =>
    exact { refers with phase := (rows.productMappings _ (productMappingFor_found found).1).product }
  | warehouse phase found =>
    have product := refers.phase
    rw [phase] at product
    exact { refers with phase := ⟨product, (rows.warehouseMappings _ (warehouseMappingFor_found found).1).warehouse⟩ }
  | position phase =>
    have places := refers.phase
    rw [phase] at places
    exact { refers with phase := places }
  | flushed phase session _ after _ _ _ write writes snapshots place _ _ _ _ nonnegative positive =>
    have places := refers.phase
    rw [phase] at places
    constructor
    · exact session ▸ refers.session
    · rw [after]
      trivial
    · rw [snapshots]
      refine List.forall_mem_append.mpr ⟨refers.snapshots, List.forall_mem_singleton.mpr ?_⟩
      exact ⟨refers.session.job, refers.session.supplier, places.1, places.2, nonnegative.1, nonnegative.2, positive⟩
    · rw [writes]
      refine List.forall_mem_append.mpr ⟨refers.writes, List.forall_mem_singleton.mpr ?_⟩
      obtain ⟨warehouse, product⟩ := Prod.mk.inj place
      exact ⟨warehouse ▸ places.2, product ▸ places.1, nonnegative.1, nonnegative.2⟩
    · exact events ▸ refers.events

theorem start_refers {session : WorkerSession} {result : InventoryAdapterResult} {events : List OperationEvent}
    (refers : session.Refers keys) (owned : ∀ e ∈ events, e.importJobId ∈ keys.jobs) :
    (Applying.start db session result events).Refers keys := by
  apply Applying.start_invariant (P := fun a => a.Refers keys)
  · exact fun a error kept => { kept with }
  · exact ⟨refers, trivial, nofun, nofun, owned⟩

theorem update_constrained {w : PositionWrite} {loaded p : InventoryPosition} (refers : w.Refers keys)
    (row : p.Constrained keys) : (w.update loaded p).Constrained keys := by
  have either {kept stored : Numeric183} (old : 0 ≤ kept.thousandths) (new : 0 ≤ stored.thousandths) (read : Numeric183)
      (sent : ℚ) : 0 ≤ (Columns.writeAs Numeric183.value read sent stored kept).thousandths := by
    unfold Columns.writeAs
    split
    · exact old
    · exact new
  refine ⟨row.warehouse, row.product, ?_, ?_, ?_⟩
  · exact either row.onHandQuantityNonnegative refers.onHandNonnegative _ _
  · exact either row.reservedQuantityNonnegative refers.reservedNonnegative _ _
  · have written : (w.update loaded p).version = loaded.version + 1 :=
      Columns.writeBack_dirty (Nat.succ_ne_self _) _
    rw [written]
    exact Nat.succ_pos _

theorem apply_constrained {w : PositionWrite} {positions : List InventoryPosition} (refers : w.Refers keys)
    (rows : ∀ p ∈ positions, p.Constrained keys) : ∀ p ∈ w.apply positions, p.Constrained keys := by
  unfold PositionWrite.apply
  split
  · refine List.forall_mem_append.mpr ⟨rows, List.forall_mem_singleton.mpr ?_⟩
    exact ⟨refers.warehouse, refers.product, refers.onHandNonnegative, refers.reservedNonnegative, Nat.one_pos⟩
  · exact Table.forall_modify rows fun p _ row => update_constrained refers row

theorem applyWrites_constrained {writes : List PositionWrite} {positions : List InventoryPosition}
    (refers : ∀ w ∈ writes, w.Refers keys) (rows : ∀ p ∈ positions, p.Constrained keys) :
    ∀ p ∈ applyWrites positions writes, p.Constrained keys := by
  induction writes generalizing positions with
  | nil => exact rows
  | cons w rest ih =>
    obtain ⟨first, later⟩ := List.forall_mem_cons.mp refers
    exact ih later (apply_constrained first rows)

theorem complete_constrained {rejected : Nat} (rows : db.ConstrainedBy keys) (refers : a.Refers keys) :
    (completeImportJob db a rejected now).ConstrainedBy keys := by
  have completed : (db.modifyJob a.job.id (a.job.writeBack (completedJob a rejected now))).ConstrainedBy keys :=
    rows.modifyJob fun _ row => ⟨row.supplier, row.replayOfJob, row.maxAttemptsPositive⟩
  have attempts : ∀ r ∈ Table.modify ImportAttempt.key (a.job.id, a.job.attemptCount)
      (a.attempt.writeBack (succeededAttempt a.attempt now)) db.attempts, r.Constrained keys :=
    Table.forall_modify rows.attempts fun r _ row => ⟨row.importJob, row.attemptNumberPositive⟩
  refine { completed with attempts, positions := ?_, events := ?_, errors := ?_, snapshots := ?_ }
  · exact applyWrites_constrained refers.writes rows.positions
  · refine List.forall_mem_append.mpr ⟨List.forall_mem_append.mpr ⟨rows.events, refers.events⟩, ?_⟩
    intro e member
    simp only [List.mem_cons, List.not_mem_nil, or_false] at member
    rcases member with rfl | rfl <;> exact refers.session.job
  · refine List.forall_mem_append.mpr ⟨rows.errors, fun e member => ?_⟩
    rw [a.errorsOwned e member]
    exact refers.session.job
  · exact List.forall_mem_append.mpr ⟨rows.snapshots, refers.snapshots⟩

theorem complete_keys {rejected : Nat} : (completeImportJob db a rejected now).keys = db.keys := by
  have kept : (db.modifyJob a.job.id (a.job.writeBack (completedJob a rejected now))).keys = db.keys :=
    modifyJob_keys fun _ same => same
  exact kept

/-! ### Inventory and mapping calls -/

theorem store_nonnegative {q : ℚ} {n : Numeric183} (least : 0 ≤ q) (stores : Numeric183.store? q = some n) :
    0 ≤ n.thousandths := by
  unfold Numeric183.store? at stores
  split at stores
  · obtain rfl := Option.some.inj stores
    show 0 ≤ roundHalfAway (q * 1000)
    have scaled : 0 ≤ q * 1000 := mul_nonneg least (by norm_num)
    rw [roundHalfAway, if_pos scaled]
    exact Int.floor_nonneg.mpr (by linarith)
  · contradiction

theorem calculateAvailableQuantity_ok {onHand reserved available : ℚ}
    (h : calculateAvailableQuantity onHand reserved = .ok available) : 0 ≤ onHand ∧ 0 ≤ reserved := by
  unfold calculateAvailableQuantity at h
  split at h
  · contradiction
  · rename_i onHandLeast
    split at h
    · contradiction
    · rename_i reservedLeast
      exact ⟨not_lt.mp onHandLeast, not_lt.mp reservedLeast⟩

theorem setInventoryRead_refers {warehouseId productId : Id} {request : InventorySet} :
    (setInventoryRead db warehouseId productId request).Refers db.keys := by
  unfold setInventoryRead
  split
  · trivial
  · rename_i warehouse
    split
    · trivial
    · rename_i product
      split
      · trivial
      · rename_i calculated
        rw [Bool.not_eq_true', Bool.not_eq_false, List.contains_iff_mem] at warehouse product
        exact ⟨warehouse, product, calculateAvailableQuantity_ok calculated⟩

theorem setInventoryCommit_refers {warehouseId productId : Id} {request : InventorySet}
    {position : Option InventoryPosition} {write : PositionWrite}
    (refers : (InventoryCall.loaded warehouseId productId request position).Refers keys)
    (h : setInventoryCommit db warehouseId productId request position = .ok write) : write.Refers keys := by
  obtain ⟨onHand, reserved, -, -, key⟩ := setInventoryCommit_write h
  obtain ⟨warehouse, product⟩ := Prod.mk.inj key
  refine ⟨warehouse ▸ refers.1, product ▸ refers.2.1, ?_, ?_⟩
  · exact store_nonnegative refers.2.2.1 (onHand ▸ write.storesOnHand)
  · exact store_nonnegative refers.2.2.2 (reserved ▸ write.storesReserved)

theorem setInventory_failed {warehouseId productId : Id} {request : InventorySet}
    {position : Option InventoryPosition} {call : InventoryCall}
    (h : setInventoryCommit db warehouseId productId request position = .error call) : call.Refers keys := by
  unfold setInventoryCommit at h
  split at h
  · cases h
    trivial
  · split at h
    · cases h
      trivial
    · contradiction

theorem upsertProductMappingRead_refers {request : ProductMappingUpsert} :
    (upsertProductMappingRead db request).Refers db.keys := by
  unfold upsertProductMappingRead
  split
  · trivial
  · rename_i supplier
    split
    · trivial
    · rename_i product
      rw [Bool.not_eq_true', Bool.not_eq_false] at supplier product
      obtain ⟨s, present, same⟩ := List.any_eq_true.mp supplier
      exact ⟨List.mem_map.mpr ⟨s, present, of_decide_eq_true same⟩, List.contains_iff_mem.mp product⟩

theorem upsertWarehouseMappingRead_refers {request : WarehouseMappingUpsert} :
    (upsertWarehouseMappingRead db request).Refers db.keys := by
  unfold upsertWarehouseMappingRead
  split
  · trivial
  · rename_i supplier
    split
    · trivial
    · rename_i warehouse
      rw [Bool.not_eq_true', Bool.not_eq_false] at supplier warehouse
      obtain ⟨s, present, same⟩ := List.any_eq_true.mp supplier
      exact ⟨List.mem_map.mpr ⟨s, present, of_decide_eq_true same⟩, List.contains_iff_mem.mp warehouse⟩

theorem writeBack_either {α : Type} [DecidableEq α] {P : α → Prop} {new current : α} (loaded : α) (old : P current)
    (changed : P new) : P (Columns.writeBack loaded new current) := by
  unfold Columns.writeBack
  split
  · exact old
  · exact changed

theorem productMapping_constrained {request : ProductMappingUpsert} {mapping m : SupplierProductMapping}
    (product : request.productId ∈ keys.products) (row : m.Constrained keys) :
    (mapping.writeBack (changedProductMapping request mapping) m).Constrained keys := by
  unfold changedProductMapping
  split
  · refine ⟨row.supplier, ?_, ?_, ?_⟩
    · exact writeBack_either (P := (· ∈ keys.products)) _ row.product product
    · exact writeBack_either (P := fun units : Numeric183 => 0 < units.thousandths) _
        row.unitsPerSourceUnitPositive request.positive
    · exact writeBack_either (P := fun version => 0 < version) _ row.versionPositive (Nat.succ_pos _)
  · simp only [SupplierProductMapping.writeBack, Columns.writeBack_clean]
    exact row

theorem warehouseMapping_constrained {request : WarehouseMappingUpsert} {mapping m : SupplierWarehouseMapping}
    (warehouse : request.warehouseId ∈ keys.warehouses) (row : m.Constrained keys) :
    (mapping.writeBack (changedWarehouseMapping request mapping) m).Constrained keys := by
  unfold changedWarehouseMapping
  split
  · refine ⟨row.supplier, ?_, ?_⟩
    · exact writeBack_either (P := (· ∈ keys.warehouses)) _ row.warehouse warehouse
    · exact writeBack_either (P := fun version => 0 < version) _ row.versionPositive (Nat.succ_pos _)
  · simp only [SupplierWarehouseMapping.writeBack, Columns.writeBack_clean]
    exact row

theorem upsertProductMappingCommit_constrained {request : ProductMappingUpsert}
    {loaded : Option SupplierProductMapping} (rows : db.ConstrainedBy keys)
    (refers : request.supplierId ∈ keys.suppliers ∧ request.productId ∈ keys.products)
    (h : upsertProductMappingCommit db request loaded = .ok after) :
    after.keys = db.keys ∧ after.ConstrainedBy keys := by
  unfold upsertProductMappingCommit at h
  split at h
  · split at h
    · contradiction
    · obtain rfl := Except.ok.inj h
      have new : (newProductMapping request).Constrained keys := ⟨refers.1, refers.2, request.positive, Nat.one_pos⟩
      have added := List.forall_mem_append.mpr ⟨rows.productMappings, List.forall_mem_singleton.mpr new⟩
      exact ⟨rfl, { rows with productMappings := added }⟩
  · obtain rfl := Except.ok.inj h
    refine ⟨rfl, { rows with productMappings := ?_ }⟩
    exact Table.forall_modify rows.productMappings fun m _ row => productMapping_constrained refers.2 row

theorem upsertWarehouseMappingCommit_constrained {request : WarehouseMappingUpsert}
    {loaded : Option SupplierWarehouseMapping} (rows : db.ConstrainedBy keys)
    (refers : request.supplierId ∈ keys.suppliers ∧ request.warehouseId ∈ keys.warehouses)
    (h : upsertWarehouseMappingCommit db request loaded = .ok after) :
    after.keys = db.keys ∧ after.ConstrainedBy keys := by
  unfold upsertWarehouseMappingCommit at h
  split at h
  · split at h
    · contradiction
    · obtain rfl := Except.ok.inj h
      have new : (newWarehouseMapping request).Constrained keys := ⟨refers.1, refers.2, Nat.one_pos⟩
      have added := List.forall_mem_append.mpr ⟨rows.warehouseMappings, List.forall_mem_singleton.mpr new⟩
      exact ⟨rfl, { rows with warehouseMappings := added }⟩
  · obtain rfl := Except.ok.inj h
    refine ⟨rfl, { rows with warehouseMappings := ?_ }⟩
    exact Table.forall_modify rows.warehouseMappings fun m _ row => warehouseMapping_constrained refers.2 row

end

/-! ### Every run -/

structure Hub.Constrained (hub : Hub) : Prop where
  rows : hub.db.Constrained
  sessions : hub.SessionsRefer hub.db.keys

section
variable {env : Env} {hub next : Hub} {keys : Keys} {l : Label} {d call : Nat} {now : Timestamp}

theorem Hub.Constrained.of_grown (within : hub.db.keys.Within next.db.keys) (rows : next.db.Constrained)
    (sessions : next.SessionsRefer hub.db.keys) : next.Constrained :=
  ⟨rows, sessions.mono within⟩

theorem Hub.Constrained.of_same (same : next.db.keys = hub.db.keys) (rows : next.db.ConstrainedBy hub.db.keys)
    (sessions : next.SessionsRefer hub.db.keys) : next.Constrained := by
  rw [← same] at rows sessions
  exact ⟨rows, sessions⟩

theorem forall_set {α : Type} {P : α → Prop} {xs : List α} {i : Nat} {x : α} (all : ∀ y ∈ xs, P y) (new : P x) :
    ∀ y ∈ xs.set i x, P y := by
  intro y member
  rcases List.mem_or_eq_of_mem_set member with old | rfl
  · exact all y old
  · exact new

theorem Hub.SessionsRefer.setDelivery {x : Delivery} (sessions : hub.SessionsRefer keys) (refers : x.Refers keys) :
    (hub.setDelivery d x).SessionsRefer keys :=
  { sessions with deliveries := forall_set sessions.deliveries refers }

theorem present_refers {x : Delivery} (sessions : hub.SessionsRefer keys) (present : hub.deliveries[d]? = some x) :
    x.Refers keys :=
  sessions.deliveries x (List.mem_of_getElem? present)

theorem raiseAt_constrained {x : Delivery} {error : Raised} (sound : hub.Constrained)
    (h : hub.raiseAt d x error = some next) : next.Constrained := by
  obtain ⟨r, -, rfl⟩ := Option.map_eq_some_iff.mp h
  refine ⟨sound.rows, sound.sessions.setDelivery ?_⟩
  split <;> trivial

theorem submissions_constrained (sound : hub.Constrained) (met : Plain hub l)
    (mine : l.submits = true) (h : Hub.step env hub l = some next) : next.Constrained := by
  cases l with
  | submit request =>
    cases h
    have plain := met request rfl
    exact ⟨sound.rows, { sound.sessions with
      submissions := Table.forall_push sound.sessions.submissions (by simp [Submission.Refers, plain]) }⟩
  | replay importJobId idempotencyKey available =>
    cases h
    refine ⟨sound.rows, { sound.sessions with submissions := Table.forall_push sound.sessions.submissions ?_ }⟩
    split
    · trivial
    · rename_i request replayed
      intro original replays
      obtain ⟨job, -, present, -⟩ := replay_copies replayed replays
      exact job_known present
  | lookup call =>
    simp only [Hub.step, Hub.lookup] at h
    split at h
    · rename_i request present
      cases h
      have refers := sound.sessions.submissions _ (List.mem_of_getElem? present)
      refine ⟨sound.rows, { sound.sessions with submissions := forall_set sound.sessions.submissions ?_ }⟩
      unfold submitLookup
      split
      · trivial
      · rename_i supplier found
        split
        · exact ⟨List.mem_map_of_mem (List.mem_of_find?_eq_some found), refers⟩
        · split <;> trivial
    · contradiction
  | put call outcome now =>
    simp only [Hub.step, Hub.put] at h
    split at h
    · rename_i request supplierId present
      cases h
      have refers := sound.sessions.submissions _ (List.mem_of_getElem? present)
      refine ⟨sound.rows, { sound.sessions with submissions := forall_set sound.sessions.submissions ?_ }⟩
      show Submission.Refers hub.db.keys (if outcome = .stored then _ else _)
      split
      · exact refers
      · trivial
    · contradiction
  | insert call jobId now =>
    simp only [Hub.step, Hub.insert] at h
    split at h
    · rename_i request supplierId objectKey present fresh
      obtain ⟨supplier, replay⟩ := sound.sessions.submissions _ (List.mem_of_getElem? present)
      split at h
      · cases h
        exact ⟨sound.rows, { sound.sessions with submissions := forall_set sound.sessions.submissions trivial }⟩
      · rename_i inserted
        cases h
        obtain ⟨within, rows⟩ := submitInsert_constrained sound.rows supplier replay inserted
        exact .of_grown within rows { sound.sessions with
          submissions := forall_set sound.sessions.submissions trivial }
    · contradiction
  | _ => contradiction

theorem delivery_constrained (ledger : Ledger hub.db) (sound : hub.Constrained) (mine : l.delivery? = some d)
    (h : Hub.step env hub l = some next) : next.Constrained := by
  cases l with
  | claim d now =>
    simp only [Hub.step, Hub.claim] at h
    split at h
    · split at h
      · exact raiseAt_constrained sound h
      · cases h
        exact ⟨sound.rows, sound.sessions.setDelivery trivial⟩
      · rename_i claimed
        cases h
        obtain ⟨same, rows, refers⟩ := claim_constrained sound.rows claimed
        exact .of_same same rows { sound.sessions with deliveries := forall_set sound.sessions.deliveries refers }
    · contradiction
  | adapt d available now =>
    simp only [Hub.step, Hub.adapt] at h
    split at h
    · rename_i session present
      have refers : session.Refers hub.db.keys := present_refers sound.sessions present
      split at h
      · exact raiseAt_constrained sound h
      · cases h
        refine ⟨sound.rows, sound.sessions.setDelivery ⟨refers, ?_⟩⟩
        intro e member
        simp only [Hub.payloadEvents, List.mem_cons, List.not_mem_nil, or_false] at member
        rcases member with rfl | rfl <;> exact refers.job
    · contradiction
  | start d =>
    simp only [Hub.step, Hub.start] at h
    split at h
    · rename_i session result events present
      cases h
      have refers := present_refers sound.sessions present
      have started : (Applying.start hub.db session result events).Refers hub.db.keys := start_refers refers.1 refers.2
      exact ⟨sound.rows, sound.sessions.setDelivery started⟩
    · contradiction
  | record d =>
    simp only [Hub.step, Hub.record] at h
    split at h
    · rename_i a present
      split at h
      · contradiction
      · split at h
        · contradiction
        · exact raiseAt_constrained sound h
        · rename_i applied
          cases h
          have refers : a.Refers hub.db.keys := present_refers sound.sessions present
          exact ⟨sound.rows, sound.sessions.setDelivery (statement_refers sound.rows refers applied)⟩
    · contradiction
  | summarise d =>
    simp only [Hub.step, Hub.summarise] at h
    split at h
    · rename_i a present
      split at h
      · cases h
        have refers : a.Refers hub.db.keys := present_refers sound.sessions present
        have summed : (a.loadErrors hub.db).Refers hub.db.keys := { refers with }
        exact ⟨sound.rows, sound.sessions.setDelivery summed⟩
      · contradiction
    · contradiction
  | complete d now =>
    simp only [Hub.step, Hub.complete] at h
    split at h
    · rename_i a rejected present
      split at h
      · exact raiseAt_constrained sound h
      · cases h
        have refers : a.Refers hub.db.keys := present_refers sound.sessions present
        exact .of_same complete_keys (complete_constrained sound.rows refers)
          { sound.sessions with deliveries := forall_set sound.sessions.deliveries refers.session }
    · contradiction
  | raise d error =>
    simp only [Hub.step, Hub.raise] at h
    split at h
    · exact raiseAt_constrained sound h
    · contradiction
  | report d now =>
    simp only [Hub.step, Hub.report] at h
    split at h
    · split at h
      · cases h
        exact ⟨sound.rows, sound.sessions.setDelivery trivial⟩
      · rename_i reported
        cases h
        obtain ⟨same, rows⟩ := failure_constrained ledger sound.rows reported
        exact .of_same same rows { sound.sessions with deliveries := forall_set sound.sessions.deliveries trivial }
    · contradiction
  | stop d =>
    simp only [Hub.step, Hub.stop] at h
    split at h
    · cases h
      exact ⟨sound.rows, sound.sessions.setDelivery trivial⟩
    · contradiction
  | _ => contradiction

theorem dispatches_constrained (sound : hub.Constrained) (call : Nat) (dispatchedAt : Timestamp)
    (h : Hub.step env hub (.dispatchWrite call dispatchedAt) = some next) : next.Constrained := by
  simp only [Hub.step, Hub.dispatchWrite] at h
  split at h
  · rename_i loaded present
    cases h
    have known := sound.sessions.dispatches _ (List.mem_of_getElem? present) loaded rfl
    obtain ⟨same, rows⟩ := markJobDispatched_constrained sound.rows known
    have written : ∀ job, (none : Option ImportJob) = some job → job.id ∈ hub.db.keys.jobs := by
      intro job h
      contradiction
    exact .of_same same rows { sound.sessions with
      dispatches := forall_set sound.sessions.dispatches written }
  · contradiction

theorem inventoryCalls_constrained (sound : hub.Constrained) (call : Nat)
    (h : Hub.step env hub (.inventoryCommit call) = some next) : next.Constrained := by
  simp only [Hub.step, Hub.inventoryCommit] at h
  split at h
  · rename_i present
    have refers := sound.sessions.inventoryCalls _ (List.mem_of_getElem? present)
    split at h
    · contradiction
    · split at h
      · rename_i ended
        cases h
        exact ⟨sound.rows, { sound.sessions with
          inventoryCalls := forall_set sound.sessions.inventoryCalls (setInventory_failed ended) }⟩
      · rename_i write committed
        cases h
        have written := apply_constrained (setInventoryCommit_refers refers committed) sound.rows.positions
        exact ⟨{ sound.rows with positions := written }, { sound.sessions with
          inventoryCalls := forall_set sound.sessions.inventoryCalls trivial }⟩
  · contradiction

theorem mappingCalls_constrained (sound : hub.Constrained) (call : Nat)
    (h : Hub.step env hub (.mappingCommit call) = some next) : next.Constrained := by
  have ends {outcome : Except DomainError Database}
      (good : ∀ db, outcome = .ok db → db.keys = hub.db.keys ∧ db.ConstrainedBy hub.db.keys) :
      (hub.endMapping call outcome).Constrained := by
    cases outcome with
    | error => exact ⟨sound.rows, { sound.sessions with
        mappingCalls := forall_set sound.sessions.mappingCalls trivial }⟩
    | ok db =>
      obtain ⟨same, rows⟩ := good db rfl
      exact .of_same same rows { sound.sessions with
        mappingCalls := forall_set sound.sessions.mappingCalls trivial }
  simp only [Hub.step, Hub.mappingCommit] at h
  split at h
  · rename_i present
    cases h
    have refers := sound.sessions.mappingCalls _ (List.mem_of_getElem? present)
    exact ends fun db => upsertProductMappingCommit_constrained sound.rows refers
  · rename_i present
    cases h
    have refers := sound.sessions.mappingCalls _ (List.mem_of_getElem? present)
    exact ends fun db => upsertWarehouseMappingCommit_constrained sound.rows refers
  · contradiction

/-- One step, whichever session it belongs to. -/
theorem step_constrained (ledger : Ledger hub.db) (sound : hub.Constrained) (met : Plain hub l)
    (h : Hub.step env hub l = some next) : next.Constrained := by
  cases l with
  | submit | replay | lookup | put | insert => exact submissions_constrained sound met rfl h
  | claim | adapt | start | record | summarise | complete | raise | report | stop =>
    exact delivery_constrained ledger sound rfl h
  | dispatchRead importJobId =>
    cases h
    have known (job : ImportJob) (present : hub.db.job importJobId = some job) : job.id ∈ hub.db.keys.jobs :=
      job_id present ▸ job_known present
    exact ⟨sound.rows, { sound.sessions with dispatches := Table.forall_push sound.sessions.dispatches known }⟩
  | dispatchWrite call dispatchedAt => exact dispatches_constrained sound call dispatchedAt h
  | deliver =>
    cases h
    exact ⟨sound.rows, { sound.sessions with deliveries := Table.forall_push sound.sessions.deliveries trivial }⟩
  | recover locked now =>
    cases h
    unfold Hub.recover
    split
    · exact sound
    · rename_i recovered
      obtain ⟨same, rows⟩ := (recover_recoveries ledger recovered).constrained sound.rows
      exact .of_same same rows { sound.sessions with }
  | inventoryRead =>
    cases h
    exact ⟨sound.rows, { sound.sessions with
      inventoryCalls := Table.forall_push sound.sessions.inventoryCalls setInventoryRead_refers }⟩
  | inventoryCommit call => exact inventoryCalls_constrained sound call h
  | productMappingRead =>
    cases h
    exact ⟨sound.rows, { sound.sessions with
      mappingCalls := Table.forall_push sound.sessions.mappingCalls upsertProductMappingRead_refers }⟩
  | warehouseMappingRead =>
    cases h
    exact ⟨sound.rows, { sound.sessions with
      mappingCalls := Table.forall_push sound.sessions.mappingCalls upsertWarehouseMappingRead_refers }⟩
  | mappingCommit call => exact mappingCalls_constrained sound call h

theorem initial_constrained (begins : Hub.Initial hub) (rows : hub.db.Constrained) : hub.Constrained where
  rows := rows
  sessions := by
    constructor
    · simp [begins.submissions]
    · simp [begins.dispatches]
    · simp [begins.deliveries]
    · simp [begins.inventoryCalls]
    · simp [begins.mappingCalls]

/-- From master data and positions that satisfy them, every commit satisfies the foreign keys and the checks,
however the sessions interleave. -/
theorem constraints_hold {start : Hub} (begins : Hub.Initial start) (rows : start.db.Constrained)
    (run : Hub.Run env Plain start hub) : hub.db.Constrained := by
  have sound : hub.Constrained := by
    refine run.invariant_reachable (P := Hub.Constrained) ?_ (.start begins) (initial_constrained begins rows)
    exact fun s l t reached sound met step => step_constrained (reachable_ledger reached) sound met step
  exact sound.rows

end

theorem Small.executed_plain (l : Label)
    (member : l ∈ submitted ++ claimed 0 (moment 1) ++ applied 0 (moment 1) ++ completed 0 (moment 2)) (s : Hub) :
    Plain s l := by
  rintro request rfl
  simp only [submitted, claimed, applied, completed, List.mem_append, List.mem_cons, List.not_mem_nil] at member
  simp only [Label.submit.injEq, reduceCtorEq, or_false] at member
  exact member ▸ rfl

/-- The one line of the file, imported. -/
theorem constraints_hold_imported : ∃ hub, Hub.Run Small.env Plain Small.hub hub ∧
    hub.db.snapshots.length = 1 ∧ hub.db.Constrained := by
  have shown : (Machine.exec (Hub.step Small.env) Small.hub (Small.submitted ++ Small.claimed 0 (Small.moment 1) ++
      Small.applied 0 (Small.moment 1) ++ Small.completed 0 (Small.moment 2))).any
        (fun hub => decide (hub.db.snapshots.length = 1)) = true := by decide +kernel
  simp only [Option.any_eq_true, decide_eq_true_eq] at shown
  obtain ⟨hub, steps, imported⟩ := shown
  have run : Hub.Run Small.env Plain Small.hub hub :=
    Machine.exec_run Small.executed_plain steps
  have rows : Small.hub.db.Constrained := by
    refine ⟨?_, ?_, ?_, ?_, ?_, ?_, ?_, ?_⟩
    · exact List.forall_mem_singleton.mpr ⟨by decide, by decide, by decide, by decide⟩
    · exact List.forall_mem_singleton.mpr ⟨by decide, by decide, by decide⟩
    · exact List.forall_mem_singleton.mpr ⟨by decide, by decide, by decide, by decide, by decide⟩
    · simp [Small.initial.jobs]
    · simp [Small.initial.attempts]
    · simp [Small.initial.events]
    · simp [Small.initial.errors]
    · simp [Small.initial.snapshots]
  exact ⟨hub, run, imported, constraints_hold Small.initial rows run⟩

end SupplyChainHub
