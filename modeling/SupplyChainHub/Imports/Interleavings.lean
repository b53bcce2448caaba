import SupplyChainHub.Imports.Serial

/-!
Undisturbed tasks side by side, step by step: where each of them is, and what they have come to together.
-/

namespace SupplyChainHub

/-- Deliveries with the jobs they are about to execute, and no transaction open. -/
structure Hub.Ready (start : Hub) (tasks : List (Nat × Id)) : Prop where
  received : ∀ d id, (d, id) ∈ tasks →
    ∃ workerId celeryTaskId, start.deliveries[d]? = some (.received id workerId celeryTaskId)
  queued : ∀ d id, (d, id) ∈ tasks → ∃ job, start.db.job id = some job ∧ job.status = .queued
  apart : ∀ d e id, (d, id) ∈ tasks → (e, id) ∈ tasks → d = e
  idle : ∀ (d : Nat) x, start.deliveries[d]? = some x → x.transaction? = none

def Delivery.receives (id : Id) : Delivery → Bool
  | .received jobId _ _ => jobId = id
  | _ => false

def Hub.isReady (start : Hub) (tasks : List (Nat × Id)) : Bool :=
  (tasks.all fun task => (start.deliveries[task.1]?).any (Delivery.receives task.2) &&
    (start.db.job task.2).any fun job => job.status = .queued) &&
  decide (tasks.map Prod.snd).Nodup && start.deliveries.all fun x => x.transaction?.isNone

theorem isReady_ready {start : Hub} {tasks : List (Nat × Id)} (h : start.isReady tasks = true) :
    start.Ready tasks := by
  simp only [Hub.isReady, Bool.and_eq_true, List.all_eq_true, decide_eq_true_eq, Option.isNone_iff_eq_none,
    Option.any_eq_true] at h
  obtain ⟨⟨each, distinct⟩, idle⟩ := h
  constructor
  · intro d id task
    obtain ⟨⟨x, present, receives⟩, -⟩ := each _ task
    cases x with
    | received jobId workerId celeryTaskId =>
      obtain rfl : jobId = id := of_decide_eq_true receives
      exact ⟨workerId, celeryTaskId, present⟩
    | _ => contradiction
  · intro d id task
    exact (each _ task).2
  · intro d e id first second
    exact congrArg Prod.fst (List.inj_on_of_nodup_map distinct first second rfl)
  · intro d x present
    exact idle x (List.mem_of_getElem? present)

/-- The flush at hand, if there is one, finds what was looked up for it. -/
def Hub.FindsCurrent (hub : Hub) (d : Nat) : Prop :=
  ∀ a, hub.deliveries[d]? = some (.applying a) → a.FlushCurrent hub.db

instance (hub : Hub) (d : Nat) : Decidable (hub.FindsCurrent d) :=
  decidable_of_iff ((hub.deliveries[d]?).all fun x => match x with
      | .applying a => decide (a.FlushCurrent hub.db)
      | _ => true) <| by
    unfold Hub.FindsCurrent
    cases hub.deliveries[d]? with
    | none => simp
    | some x => cases x <;> simp

/-- An undisturbed step of one of the tasks, and no flush among them that lost a race. -/
def Hub.Unraced (tasks : List (Nat × Id)) (hub : Hub) (l : Label) : Prop :=
  ∃ task ∈ tasks, Hub.Executing task.1 hub l ∧ hub.FindsCurrent task.1

instance (tasks : List (Nat × Id)) (hub : Hub) (l : Label) : Decidable (Hub.Unraced tasks hub l) :=
  inferInstanceAs (Decidable (∃ task ∈ tasks, _ ∧ _))

/-- The version of the position has room for one more at the flush at hand, if there is one. -/
def Hub.HasRoom (hub : Hub) (d : Nat) : Prop :=
  ∀ a, hub.deliveries[d]? = some (.applying a) → a.FlushFits

instance (hub : Hub) (d : Nat) : Decidable (hub.HasRoom d) :=
  decidable_of_iff ((hub.deliveries[d]?).all fun x => match x with
      | .applying a => decide a.FlushFits
      | _ => true) <| by
    unfold Hub.HasRoom
    cases hub.deliveries[d]? with
    | none => simp
    | some x => cases x <;> simp

/-- As `Unraced`, and no flush among them is one version too far. -/
def Hub.Unhindered (tasks : List (Nat × Id)) (hub : Hub) (l : Label) : Prop :=
  ∃ task ∈ tasks, Hub.Executing task.1 hub l ∧ hub.FindsCurrent task.1 ∧ hub.HasRoom task.1

instance (tasks : List (Nat × Id)) (hub : Hub) (l : Label) : Decidable (Hub.Unhindered tasks hub l) :=
  inferInstanceAs (Decidable (∃ task ∈ tasks, _ ∧ _ ∧ _))

/-- A session that holds the job's row as it is, claimed as it was at the start. -/
def Held (env : Env) (start hub : Hub) (id : Id) (w : WorkerSession) : Prop :=
  ∃ job workerId now, start.db.job id = some job ∧ w.job = claimedJob env.settings job workerId now ∧
    hub.db.job id = some w.job

def Unfinished (db : Database) (id : Id) : Prop := ∀ job, db.job id = some job → ¬ job.finished

def Delivery.isCommitted : Delivery → Bool
  | .committed _ => true
  | _ => false

/-- Where the execution of a job is. -/
def Stage (env : Env) (start hub : Hub) (id : Id) : Delivery → Prop
  | .received jobId _ _ => jobId = id ∧ hub.db.job id = start.db.job id
  | .claimed w => Held env start hub id w
  | .adapted w result _ => Held env start hub id w ∧ ∃ job, start.Adapts env id job result
  | .applying a => Held env start hub id a.toWorkerSession ∧
    (∀ known ∈ a.loadedErrors, known = start.db.errorsOf id) ∧
      ∃ job result done, start.Adapts env id job result ∧ Progress hub.db result done a
  | .closing a rejected => Held env start hub id a.toWorkerSession ∧
    a.loadedErrors = some (start.db.errorsOf id) ∧ rejected = rejectedRecords a.jobErrors ∧
      ∃ job result, start.Adapts env id job result ∧ Progress hub.db result result.records a
  | .committed _ => True
  | .raised r => r.jobId = id ∧ Unfinished hub.db id
  | .done => Unfinished hub.db id

/-- The tasks so far, with the jobs they committed. -/
structure Working (env : Env) (start : Hub) (tasks : List (Nat × Id)) (order : List (Id × ImportOutcome))
    (hub : Hub) : Prop where
  sound : hub.Sound
  objects : hub.objects = start.objects
  productMappings : hub.db.productMappings = start.db.productMappings
  warehouseMappings : hub.db.warehouseMappings = start.db.warehouseMappings
  serial : Serial env start order hub.db.snapshots hub.db.positions
  distinct : (order.map Prod.fst).Nodup
  stages : ∀ d id, (d, id) ∈ tasks → ∃ x, hub.deliveries[d]? = some x ∧ Stage env start hub id x ∧
    (x.isCommitted = true ↔ id ∈ order.map Prod.fst)
  others : ∀ (d : Nat) x, hub.deliveries[d]? = some x → x.transaction? ≠ none → ∃ id, (d, id) ∈ tasks
  errors : ∀ id, id ∉ order.map Prod.fst → hub.db.errorsOf id = start.db.errorsOf id
  outcomes : ∀ entry ∈ order, hub.db.outcome entry.1 = some entry.2
  members : ∀ entry ∈ order, ∃ d, (d, entry.1) ∈ tasks

section
variable {env : Env} {start hub next : Hub} {l : Label} {d e : Nat} {id other : Id} {x y : Delivery}
    {tasks : List (Nat × Id)} {order : List (Id × ImportOutcome)} {w : WorkerSession} {db after : Database}
    {job : ImportJob} {result : InventoryAdapterResult} {added : List InventorySnapshot}

/-! ### Stages -/

theorem Held.job_id (held : Held env start hub id w) : w.job.id = id := by
  obtain ⟨job, workerId, now, found, same, -⟩ := held
  have owner : job.id = id := SupplyChainHub.job_id found
  rw [same]
  exact owner

theorem Held.row (held : Held env start hub id w) : hub.db.job id = some w.job := by
  obtain ⟨_, _, _, -, -, row⟩ := held
  exact row

theorem Held.supplier (held : Held env start hub id w) (adapts : start.Adapts env id job result) :
    w.job.supplierId = job.supplierId := by
  obtain ⟨before, workerId, now, found, same, -⟩ := held
  obtain rfl := Option.some.inj (found.symm.trans adapts.found)
  rw [same]
  rfl

theorem Held.congr (held : Held env start hub id w) (row : next.db.job id = hub.db.job id) :
    Held env start next id w := by
  obtain ⟨job, workerId, now, found, same, held⟩ := held
  exact ⟨job, workerId, now, found, same, row.trans held⟩

/-- The payload of the claimed job is that of the job. -/
theorem Held.payload (held : Held env start hub id w) (objects : hub.objects = start.objects) :
    ∃ job, start.db.job id = some job ∧
      adaptRetainedPayload env hub.objects true w.job = adaptRetainedPayload env start.objects true job := by
  obtain ⟨job, workerId, now, found, same, -⟩ := held
  refine ⟨job, found, ?_⟩
  rw [same, objects]
  rfl

theorem Held.unfinished (held : Held env start hub id w) : Unfinished hub.db id := by
  intro job found finished
  obtain rfl := Option.some.inj (found.symm.trans held.row)
  have processing := w.processing
  rcases finished with status | status
  · rw [processing] at status
    contradiction
  · rw [processing] at status
    contradiction

theorem Held.current (held : Held env start hub id w) (ledger : Ledger hub.db) :
    ∃ attempt, hub.db.findCurrentAttempt w.job = some attempt := by
  obtain ⟨attempt, present, -⟩ := (ledger.jobs _ _ held.row).running w.processing
  exact ⟨attempt, present⟩

/-- A stage outlasts what other tasks do: they leave the job's row alone, and what they import has neither
the source keys nor the places of this one. -/
theorem Stage.transfer (stage : Stage env start hub id x) (row : next.db.job id = hub.db.job id)
    (products : next.db.productMappings = hub.db.productMappings)
    (warehouses : next.db.warehouseMappings = hub.db.warehouseMappings)
    (snapshots : next.db.snapshots = hub.db.snapshots ++ added)
    (foreign : ∀ s ∈ added, s.sourceKey ∉ x.sourceKeys)
    (positions : ∀ place ∈ x.places, positionAt place next.db.positions = positionAt place hub.db.positions) :
    Stage env start next id x := by
  have unfinished (before : Unfinished hub.db id) : Unfinished next.db id :=
    fun job found => before job (row.symm.trans found)
  cases x with
  | received => exact ⟨stage.1, row.trans stage.2⟩
  | claimed => exact stage.congr row
  | adapted => exact ⟨stage.1.congr row, stage.2⟩
  | applying a =>
    obtain ⟨held, known, job, result, done, adapts, progress⟩ := stage
    refine ⟨held.congr row, known, job, result, done, adapts, ?_⟩
    exact progress.moved products warehouses snapshots foreign fun w member =>
      positions _ (List.mem_map_of_mem member)
  | closing a rejected =>
    obtain ⟨held, known, counted, job, result, adapts, progress⟩ := stage
    refine ⟨held.congr row, known, counted, job, result, adapts, ?_⟩
    exact progress.moved products warehouses snapshots foreign fun w member =>
      positions _ (List.mem_map_of_mem member)
  | committed => trivial
  | raised => exact ⟨stage.1, unfinished stage.2⟩
  | done => exact unfinished stage

/-- An execution that fails leaves its job unfinished. -/
theorem Stage.fails {error : Raised} (stage : Stage env start hub id x)
    (queued : ∃ job, start.db.job id = some job ∧ job.status = .queued) (fails : Fails env hub d x error) :
    Unfinished hub.db id ∧ ∀ r, x.raising error = some r → r.jobId = id := by
  cases fails with
  | claim =>
    obtain ⟨rfl, row⟩ := stage
    constructor
    · intro job found finished
      obtain ⟨before, known, status⟩ := queued
      obtain rfl := Option.some.inj (found.symm.trans (row.trans known))
      rcases finished with done | done
      · rw [status] at done
        contradiction
      · rw [status] at done
        contradiction
    · intro r raising
      cases raising
      rfl
  | adapt =>
    refine ⟨stage.unfinished, ?_⟩
    intro r raising
    cases raising
    exact stage.job_id
  | record =>
    refine ⟨stage.1.unfinished, ?_⟩
    intro r raising
    cases raising
    exact stage.1.job_id
  | complete =>
    refine ⟨stage.1.unfinished, ?_⟩
    intro r raising
    cases raising
    exact stage.1.job_id

/-! ### One step -/

theorem Working.task_unique (ready : start.Ready tasks) (task : (d, id) ∈ tasks) (again : (d, other) ∈ tasks) :
    other = id := by
  obtain ⟨_, _, received⟩ := ready.received d id task
  obtain ⟨_, _, received'⟩ := ready.received d other again
  cases received.symm.trans received'
  rfl

theorem Working.uncommitted (working : Working env start tasks order hub) (task : (d, id) ∈ tasks)
    (present : hub.deliveries[d]? = some x) (before : x.isCommitted = false) : id ∉ order.map Prod.fst := by
  intro member
  obtain ⟨z, found, -, committed⟩ := working.stages d id task
  obtain rfl := Option.some.inj (present.symm.trans found)
  rw [committed.mpr member] at before
  contradiction

/-- A step that imports nothing. -/
theorem Working.advance (ready : start.Ready tasks) (working : Working env start tasks order hub)
    (task : (d, id) ∈ tasks) (moved : Hub.Moved env hub next d x y) (sound : next.Sound)
    (elsewhere : SameElsewhere id hub.db next.db) (stock : SameStock hub.db next.db)
    (before : x.isCommitted = false) (after : y.isCommitted = false) (stage : Stage env start next id y) :
    Working env start tasks order next := by
  have uncommitted := working.uncommitted task moved.present before
  refine ⟨sound, moved.objects.trans working.objects, elsewhere.productMappings.trans working.productMappings,
    elsewhere.warehouseMappings.trans working.warehouseMappings, ?_, working.distinct, ?_, ?_, ?_, ?_,
    working.members⟩
  · rw [stock.snapshots, stock.positions]
    exact working.serial
  · intro e other member
    by_cases mine : e = d
    · subst mine
      obtain rfl := Working.task_unique ready task member
      refine ⟨y, ?_, stage, ?_⟩
      · rw [moved.deliveries]
        exact Pool.set_present moved.present
      · rw [after]
        exact iff_of_false Bool.false_ne_true uncommitted
    · obtain ⟨z, present, known, committed⟩ := working.stages e other member
      have different : other ≠ id := by
        rintro rfl
        exact mine (ready.apart e d other member task)
      refine ⟨z, ?_, ?_, committed⟩
      · rw [moved.deliveries, List.getElem?_set_ne (Ne.symm mine)]
        exact present
      · have none : next.db.snapshots = hub.db.snapshots ++ [] := by rw [stock.snapshots, List.append_nil]
        refine known.transfer (elsewhere.job other different) elsewhere.productMappings
          elsewhere.warehouseMappings none ?_ ?_
        · intro s member
          contradiction
        · intro place _
          rw [stock.positions]
  · intro e z found opened
    rw [moved.deliveries] at found
    rcases Pool.set_cases found with ⟨rfl, -⟩ | ⟨-, old⟩
    · exact ⟨id, task⟩
    · exact working.others e z old opened
  · intro other absent
    rw [Database.errorsOf, stock.errors]
    exact working.errors other absent
  · intro entry member
    have different : entry.1 ≠ id := by
      intro same
      exact uncommitted (same ▸ List.mem_map_of_mem member)
    rw [Database.outcome, elsewhere.job _ different, elsewhere.errors _ different]
    exact working.outcomes entry member

/-- The row and the errors a commit leaves for its job. -/
theorem complete_outcome {a : Applying} {rejected : Nat} {now : Timestamp} (row : db.job id = some a.job)
    (owner : a.job.id = id) (known : a.loadedErrors = some (db.errorsOf id))
    (counted : rejected = rejectedRecords a.jobErrors) :
    (completeImportJob db a rejected now).outcome id = some (importOutcome a.snapshots.length
      ((db.errorsOf id).map (·.sourceRow) ++ a.newErrors.map (·.sourceRow))) := by
  have jobs : (completeImportJob db a rejected now).job id =
      some (a.job.writeBack (completedJob a rejected now) a.job) := by
    have updated : (completeImportJob db a rejected now).job id = some (if id = a.job.id then
        a.job.writeBack (completedJob a rejected now) a.job else a.job) := job_modify row rfl fun _ same => same
    rw [if_pos owner.symm] at updated
    exact updated
  have errors : (completeImportJob db a rejected now).errorsOf id = db.errorsOf id ++ a.newErrors := by
    have added : (completeImportJob db a rejected now).errors = db.errors ++ a.newErrors := rfl
    rw [errorsOf_owned added, if_pos owner]
  have rows : ((db.errorsOf id).map (·.sourceRow) ++ a.newErrors.map (·.sourceRow)).toFinset.card = rejected := by
    rw [counted, rejectedRecords_card, Applying.jobErrors, known, ← List.map_append]
    rfl
  rw [Database.outcome, jobs, Option.map_some, complete_row, errors, List.map_append, importOutcome, rows]
  simp only [Columns.writeBack_fresh, a.counted]

/-- The commit of one task's job leaves the other tasks where they were. -/
theorem Working.beside {a : Applying} {rejected : Nat} {now : Timestamp} {e : Nat} {other : Id} {z : Delivery}
    (working : Working env start tasks order hub) (moved : Hub.Moved env hub next d (.closing a rejected) y)
    (db : next.db = completeImportJob hub.db a rejected now) (apart : e ≠ d) (different : other ≠ a.job.id)
    (present : hub.deliveries[e]? = some z) (stage : Stage env start hub other z) : Stage env start next other z := by
  have elsewhere : SameElsewhere a.job.id hub.db next.db := db ▸ complete_elsewhere
  refine stage.transfer (elsewhere.job other different) elsewhere.productMappings elsewhere.warehouseMappings
    (congrArg Database.snapshots db) ?_ ?_
  · intro s own
    exact working.sound.exclusive.between d e _ z moved.present present apart.symm _ (List.mem_map_of_mem own)
  · intro place held
    have positions : next.db.positions = applyWrites hub.db.positions a.writes := congrArg Database.positions db
    rw [positions]
    apply applyWrites_other
    intro w own same
    exact working.sound.places d e _ z moved.present present apart.symm _ (List.mem_map_of_mem own) (same ▸ held)

/-- The commit of a job: one more, at the end of the order. -/
theorem Working.commit {a : Applying} {rejected : Nat} {now : Timestamp} (ready : start.Ready tasks)
    (working : Working env start tasks order hub) (task : (d, id) ∈ tasks)
    (moved : Hub.Moved env hub next d (.closing a rejected) y) (last : y = .committed a.toWorkerSession)
    (sound : next.Sound) (db : next.db = completeImportJob hub.db a rejected now)
    (stage : Stage env start hub id (.closing a rejected)) :
    ∃ outcome, Working env start tasks (order ++ [(id, outcome)]) next := by
  obtain ⟨held, known, counted, job, result, adapts, progress⟩ := stage
  have owner := held.job_id
  have uncommitted := working.uncommitted task moved.present rfl
  have elsewhere : SameElsewhere id hub.db next.db := by
    rw [db, ← owner]
    exact complete_elsewhere
  have snapshots : next.db.snapshots = hub.db.snapshots ++ a.snapshots := congrArg Database.snapshots db
  have positions : next.db.positions = applyWrites hub.db.positions a.writes := congrArg Database.positions db
  have errors := working.errors id uncommitted
  -- The stock the transaction was computed against is the one the jobs before it left.
  let stock : Database := { start.db with snapshots := hub.db.snapshots, positions := hub.db.positions }
  have plans : plan hub.db job.supplierId result.records = plan stock job.supplierId result.records ∧
      turnedAway hub.db job.supplierId result.records = turnedAway stock job.supplierId result.records :=
    plan_congr working.productMappings working.warehouseMappings rfl
  have supplier := held.supplier adapts
  refine ⟨importOutcome a.snapshots.length (importErrorRows stock id job.supplierId result), ?_⟩
  refine ⟨sound, moved.objects.trans working.objects, elsewhere.productMappings.trans working.productMappings,
    elsewhere.warehouseMappings.trans working.warehouseMappings, ?_, ?_, ?_, ?_, ?_, ?_, ?_⟩
  · have booked := progress.booked
    have storable := progress.storable
    rw [owner, supplier, plans.1] at booked
    rw [supplier, plans.1] at storable
    rw [snapshots, positions]
    exact .snoc working.serial adapts ⟨progress.sendable, storable, booked.versions⟩ (booked.transfer fun _ _ => rfl)
  · rw [List.map_append, List.nodup_append]
    refine ⟨working.distinct, by simp, ?_⟩
    intro k old k' new same
    have mine : k = id := same.trans (List.mem_singleton.mp new)
    exact uncommitted (mine ▸ old)
  · intro e other member
    by_cases mine : e = d
    · subst mine
      obtain rfl := Working.task_unique ready task member
      refine ⟨y, ?_, ?_, ?_⟩
      · rw [moved.deliveries]
        exact Pool.set_present moved.present
      · rw [last]
        trivial
      · rw [last]
        exact iff_of_true rfl (by simp)
    · obtain ⟨z, present, stage, committed⟩ := working.stages e other member
      have different : other ≠ id := by
        rintro rfl
        exact mine (ready.apart e d other member task)
      refine ⟨z, ?_, ?_, ?_⟩
      · rw [moved.deliveries, List.getElem?_set_ne (Ne.symm mine)]
        exact present
      · exact working.beside moved db mine (owner ▸ different) present stage
      · rw [committed, List.map_append, List.mem_append]
        simp [different]
  · intro e z found opened
    rw [moved.deliveries] at found
    rcases Pool.set_cases found with ⟨rfl, -⟩ | ⟨-, old⟩
    · exact ⟨id, task⟩
    · exact working.others e z old opened
  · intro other absent
    rw [List.map_append, List.mem_append, not_or] at absent
    have different : other ≠ id := by
      rintro rfl
      simp at absent
    exact (elsewhere.errors other different).trans (working.errors other absent.1)
  · intro entry member
    rcases List.mem_append.mp member with old | new
    · have different : entry.1 ≠ id := by
        intro same
        exact uncommitted (same ▸ List.mem_map_of_mem old)
      rw [Database.outcome, elsewhere.job _ different, elsewhere.errors _ different]
      exact working.outcomes entry old
    · rw [List.mem_singleton.mp new, db]
      refine (complete_outcome held.row owner (errors ▸ known) counted).trans ?_
      rw [progress.rows, supplier, plans.2, errors]
      rfl
  · intro entry member
    rcases List.mem_append.mp member with old | new
    · exact working.members entry old
    · rw [List.mem_singleton.mp new]
      exact ⟨d, task⟩

theorem start_known {session : WorkerSession} {events : List OperationEvent} :
    ∀ known ∈ (Applying.start db session result events).loadedErrors, known = db.errorsOf session.job.id := by
  have opened : (Applying.start db session result events).job = session.job ∧
      ∀ known ∈ (Applying.start db session result events).loadedErrors, known = db.errorsOf session.job.id := by
    apply Applying.start_invariant (P := fun a => a.job = session.job ∧
      ∀ known ∈ a.loadedErrors, known = db.errorsOf session.job.id)
    · rintro a error ⟨owner, known⟩
      refine ⟨owner, ?_⟩
      intro es loaded
      cases before : a.loadedErrors with
      | none => simpa [Applying.addImportError, before, owner, eq_comm] using loaded
      | some first =>
        obtain rfl : first = es := by simpa [Applying.addImportError, before] using loaded
        exact known first before
    · exact ⟨rfl, by simp⟩
  exact opened.2

theorem RecordProgress.loaded {locks : Locks} {a b : Applying} {record : CanonicalInventoryRecord}
    {rest : List CanonicalInventoryRecord} (progress : RecordProgress db locks a record rest b)
    (known : ∀ es ∈ a.loadedErrors, es = db.errorsOf a.job.id) :
    b.toWorkerSession = a.toWorkerSession ∧ ∀ es ∈ b.loadedErrors, es = db.errorsOf a.job.id := by
  cases progress with
  | rejected error =>
    refine ⟨rfl, ?_⟩
    intro es loaded
    cases before : a.loadedErrors with
    | none => simpa [Applying.reject, Applying.addImportError, before, eq_comm] using loaded
    | some first =>
      obtain rfl : first = es := by simpa [Applying.reject, Applying.addImportError, before] using loaded
      exact known first before
  | unseen | product | warehouse | position => exact ⟨rfl, known⟩
  | flushed _ session _ _ _ loaded => exact ⟨session, loaded ▸ known⟩

/-- One undisturbed step of one task, whose flush, if it is one, lost no race. -/
theorem Working.step (ready : start.Ready tasks) (working : Working env start tasks order hub)
    (met : Hub.Unraced tasks hub l) (h : Hub.step env hub l = some next) :
    ∃ more, Working env start tasks (order ++ more) next := by
  obtain ⟨⟨d, id⟩, task, executing, current⟩ := met
  obtain ⟨x, y, moved⟩ := worker_move executing h
  have sound := working.sound.step h
  obtain ⟨z, present, stage, -⟩ := working.stages d id task
  obtain rfl := Option.some.inj (moved.present.symm.trans present)
  have advance (elsewhere : SameElsewhere id hub.db next.db) (stock : SameStock hub.db next.db)
      (before : x.isCommitted = false) (after : y.isCommitted = false) (stage : Stage env start next id y) :
      ∃ more, Working env start tasks (order ++ more) next := by
    refine ⟨[], ?_⟩
    rw [List.append_nil]
    exact working.advance ready task moved sound elsewhere stock before after stage
  have still (db : next.db = hub.db) (before : x.isCommitted = false) (after : y.isCommitted = false)
      (stage : Stage env start hub id y) : ∃ more, Working env start tasks (order ++ more) next := by
    refine advance (db ▸ .refl _ _) ⟨by rw [db], by rw [db], by rw [db]⟩ before after ?_
    have none : next.db.snapshots = hub.db.snapshots ++ [] := by rw [db, List.append_nil]
    refine stage.transfer (by rw [db]) (by rw [db]) (by rw [db]) none ?_ ?_
    · intro s member
      contradiction
    · intro place _
      rw [db]
  have move := moved.move
  generalize same : next.db = after at move
  cases move with
  | passed found busy =>
    obtain ⟨rfl, row⟩ := stage
    obtain ⟨job, known, queued⟩ := ready.queued d _ task
    obtain rfl := Option.some.inj (found.symm.trans (row.trans known))
    exact absurd queued busy
  | claimed claim =>
    obtain ⟨rfl, row⟩ := stage
    obtain ⟨elsewhere, stock⟩ := claim_elsewhere claim
    obtain ⟨job, found, -, -, -, rfl, db⟩ := claim_ok claim
    refine advance (same ▸ elsewhere) (same ▸ stock) rfl rfl ⟨job, _, _, row.symm.trans found, rfl, ?_⟩
    have owner := job_id found
    have updated := job_modify found (congrArg Database.jobs (same.trans db)) fun _ _ => owner
    rw [if_pos rfl] at updated
    exact updated
  | adapted events adapted =>
    obtain ⟨job, found, payload⟩ := stage.payload working.objects
    exact still same rfl rfl ⟨stage, job, found, payload.symm.trans adapted⟩
  | @started w result events =>
    obtain ⟨held, job, adapts⟩ := stage
    have uncommitted := working.uncommitted task moved.present rfl
    have session := (start_work hub.db w result events).1
    refine still same rfl rfl ⟨session.symm ▸ held, ?_, job, result, [], adapts, start_progress _ _ _ _⟩
    rw [← working.errors id uncommitted, ← held.job_id]
    exact start_known
  | @recorded a b record rest records progress =>
    obtain ⟨held, known, job, result, done, adapts, before⟩ := stage
    have uncommitted := working.uncommitted task moved.present rfl
    rw [← working.errors id uncommitted, ← held.job_id] at known
    obtain ⟨session, loaded⟩ := progress.loaded known
    obtain ⟨done, after⟩ := before.step records (current a moved.present) progress
    rw [held.job_id, working.errors id uncommitted] at loaded
    exact still same rfl rfl ⟨session.symm ▸ held, loaded, job, result, done, adapts, after⟩
  | @summarised a records =>
    obtain ⟨held, known, job, result, done, adapts, progress⟩ := stage
    have uncommitted := working.uncommitted task moved.present rfl
    have loaded : (a.loadErrors hub.db).loadedErrors = some (start.db.errorsOf id) := by
      show some (a.loadedErrors.getD (hub.db.errorsOf a.job.id)) = _
      rw [held.job_id, working.errors id uncommitted]
      cases before : a.loadedErrors with
      | none => rfl
      | some es => rw [known es before, Option.getD_some]
    obtain rfl := progress.through records
    exact still same rfl rfl ⟨held, loaded, rfl, job, result, adapts, progress.loadErrors⟩
  | completed now =>
    obtain ⟨outcome, committed⟩ := working.commit ready task moved rfl sound same stage
    exact ⟨_, committed⟩
  | raised fails raising =>
    obtain ⟨unfinished, owner⟩ := stage.fails (ready.queued d id task) fails
    exact still same (by cases fails <;> rfl) rfl ⟨owner _ raising, unfinished⟩
  | ended fails =>
    obtain ⟨unfinished, -⟩ := stage.fails (ready.queued d id task) fails
    exact still same (by cases fails <;> rfl) rfl unfinished
  | @reported r now _ disposition report =>
    obtain ⟨rfl, -⟩ := stage
    obtain ⟨elsewhere, stock⟩ := failure_elsewhere working.sound.ledger report
    refine advance (same ▸ elsewhere) (same ▸ stock) rfl rfl ?_
    intro job found finished
    obtain ⟨failed, counted, middle, _, known, -⟩ := failure_ok working.sound.ledger report
    have row := failure_job working.sound.ledger known report
    rw [if_pos rfl, ← same] at row
    obtain rfl := Option.some.inj (found.symm.trans row)
    unfold ImportJob.finished at finished
    rw [(failedJob_row _ _ _ _).2.2.2.2.2] at finished
    split at finished <;> simp at finished
  | unreported => exact still same rfl rfl stage.2

end

end SupplyChainHub
