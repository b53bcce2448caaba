import SupplyChainHub.Imports.Effects

/-!
The attempt ledger and the lease columns: what holds of every import job in every committed state,
whatever workers, sweeps and late completions do.
-/

namespace SupplyChainHub

section
variable {db after : Database} {id other : Id} {n m : Nat} {job row : ImportJob}

theorem job_id (h : db.job id = some job) : job.id = id := Table.lookup_key h

/-! ### Reading attempts after an insert or an update -/

theorem attempt_isSome : (db.attempt id n).isSome ↔ n ∈ db.attemptNumbers id := by
  simp [Database.attempt, Database.attemptNumbers, Table.lookup, List.find?_isSome, ImportAttempt.key,
    and_assoc]

theorem attempt_none : db.attempt id n = none ↔ n ∉ db.attemptNumbers id := by
  rw [← attempt_isSome, Option.not_isSome_iff_eq_none]

theorem attempt_congr (same : after.attempts = db.attempts) : after.attempt id n = db.attempt id n := by
  rw [Database.attempt, Database.attempt, same]

theorem attemptNumbers_congr (same : after.attempts = db.attempts) :
    after.attemptNumbers id = db.attemptNumbers id := by
  rw [Database.attemptNumbers, Database.attemptNumbers, same]

theorem attemptNumbers_append {a : ImportAttempt} (h : after.attempts = db.attempts ++ [a]) :
    after.attemptNumbers id = db.attemptNumbers id ++ if a.importJobId = id then [a.attemptNumber] else [] := by
  rw [Database.attemptNumbers, Database.attemptNumbers, h, List.filter_append, List.map_append]
  congr 1
  by_cases same : a.importJobId = id <;> simp [same]

theorem attempt_append {a : ImportAttempt} (h : after.attempts = db.attempts ++ [a])
    (different : a.key ≠ (id, n)) : after.attempt id n = db.attempt id n := by
  rw [Database.attempt, Database.attempt, h, Table.lookup_append, Table.lookup_cons, if_neg different,
    Table.lookup_nil, Option.or_none]

theorem attempt_append_new {a : ImportAttempt} (h : after.attempts = db.attempts ++ [a])
    (absent : db.attempt id n = none) (same : a.key = (id, n)) : after.attempt id n = some a := by
  rw [Database.attempt, h, Table.lookup_append_absent absent, Table.lookup_cons, if_pos same]

section
variable {f : ImportAttempt → ImportAttempt}
    (h : after.attempts = Table.modify ImportAttempt.key (id, n) f db.attempts)
    (keeps : ∀ a, (f a).key = a.key)

include h keeps

theorem attemptNumbers_modify : after.attemptNumbers other = db.attemptNumbers other := by
  rw [Database.attemptNumbers, Database.attemptNumbers, h]
  refine Table.filter_map_modify (fun a _ => ?_) fun a _ => ?_
  · exact congrArg (fun key => decide (key.1 = other)) (keeps a)
  · exact congrArg Prod.snd (keeps a)

theorem attempt_modify_self : after.attempt id n = (db.attempt id n).map f := by
  rw [Database.attempt, h, Table.lookup_modify_self fun a same => (keeps a).trans same]
  rfl

theorem attempt_modify_other (different : (other, m) ≠ (id, n)) :
    after.attempt other m = db.attempt other m := by
  rw [Database.attempt, h, Table.lookup_modify_other (fun a same => (keeps a).trans same) different]
  rfl

theorem attemptKeys_modify :
    after.attempts.map ImportAttempt.key = db.attempts.map ImportAttempt.key := by
  rw [h, Table.modify_keys fun a same => (keeps a).trans same]

end

theorem attemptKeys_append {a : ImportAttempt} (distinct : (db.attempts.map ImportAttempt.key).Nodup)
    (h : after.attempts = db.attempts ++ [a])
    (absent : db.attempt a.importJobId a.attemptNumber = none) :
    (after.attempts.map ImportAttempt.key).Nodup := by
  rw [h, List.map_append, List.map_cons, List.map_nil, List.nodup_append]
  refine ⟨distinct, by simp, ?_⟩
  intro k old k' new same
  obtain ⟨b, present, key⟩ := List.mem_map.mp old
  rw [List.mem_singleton.mp new] at same
  exact Table.lookup_none.mp absent b present (key.trans same)

theorem insertAttempt_ok {a : ImportAttempt} (h : db.insertAttempt a = .ok after) :
    db.attempt a.importJobId a.attemptNumber = none ∧ after = { db with attempts := db.attempts ++ [a] } := by
  unfold Database.insertAttempt at h
  split at h
  · contradiction
  · rename_i absent
    exact ⟨absent, (Except.ok.inj h).symm⟩

/-! ### The invariant -/

structure JobLedger (db : Database) (job : ImportJob) : Prop where
  numbers : db.attemptNumbers job.id = List.range' 1 job.attemptCount
  allowed : 1 ≤ job.maxAttempts
  bounded : job.attemptCount ≤ job.maxAttempts
  queued : job.status = .queued → job.attemptCount < job.maxAttempts
  leased : job.status = .processing ↔ job.leaseExpiresAt.isSome
  worked : job.status = .processing ↔ job.workerId.isSome
  running : job.status = .processing →
    ∃ attempt, db.findCurrentAttempt job = some attempt ∧ attempt.status = .running

structure Ledger (db : Database) : Prop where
  ids : (db.jobs.map ImportJob.id).Nodup
  keys : (db.attempts.map ImportAttempt.key).Nodup
  orphans : ∀ id, db.job id = none → db.attemptNumbers id = []
  jobs : ∀ id job, db.job id = some job → JobLedger db job

theorem JobLedger.attempt_some (ledger : JobLedger db job) (positive : 1 ≤ n) (bound : n ≤ job.attemptCount) :
    ∃ attempt, db.attempt job.id n = some attempt := by
  refine Option.isSome_iff_exists.mp (attempt_isSome.mpr ?_)
  rw [ledger.numbers, List.mem_range'_1]
  omega

theorem JobLedger.attempt_absent (ledger : JobLedger db job) (beyond : n = 0 ∨ job.attemptCount < n) :
    db.attempt job.id n = none := by
  rw [attempt_none, ledger.numbers, List.mem_range'_1]
  omega

theorem JobLedger.current_none (ledger : JobLedger db job) :
    db.findCurrentAttempt job = none ↔ job.attemptCount = 0 := by
  constructor
  · intro absent
    by_contra positive
    obtain ⟨attempt, present⟩ := ledger.attempt_some (Nat.one_le_iff_ne_zero.mpr positive) le_rfl
    exact Option.some_ne_none attempt (present.symm.trans absent)
  · intro zero
    exact ledger.attempt_absent (.inl zero)

theorem JobLedger.congr (ledger : JobLedger db job)
    (numbers : after.attemptNumbers job.id = db.attemptNumbers job.id)
    (attempts : ∀ n, after.attempt job.id n = db.attempt job.id n) : JobLedger after job :=
  { ledger with
    numbers := numbers.trans ledger.numbers
    running := fun processing => by
      obtain ⟨attempt, present, running⟩ := ledger.running processing
      exact ⟨attempt, (attempts _).trans present, running⟩ }

theorem Ledger.same (ledger : Ledger db) (jobs : after.jobs = db.jobs)
    (attempts : after.attempts = db.attempts) : Ledger after where
  ids := jobs ▸ ledger.ids
  keys := attempts ▸ ledger.keys
  orphans id absent := by
    rw [Database.job, jobs] at absent
    exact (attemptNumbers_congr attempts).trans (ledger.orphans id absent)
  jobs id job present := by
    rw [Database.job, jobs] at present
    exact (ledger.jobs id job present).congr (attemptNumbers_congr attempts) fun _ => attempt_congr attempts

theorem Ledger.rewrite {f : ImportJob → ImportJob} (ledger : Ledger db) (present : db.job id = some row)
    (jobs : after.jobs = Table.modify ImportJob.id id f db.jobs)
    (keeps : ∀ r, r.id = id → (f r).id = id)
    (keys : (after.attempts.map ImportAttempt.key).Nodup)
    (others : ∀ other ≠ id, after.attemptNumbers other = db.attemptNumbers other ∧
      ∀ n, after.attempt other n = db.attempt other n)
    (this : JobLedger after (f row)) : Ledger after := by
  have self : after.job id = some (f row) := by
    rw [Database.job, jobs, Table.lookup_modify_self keeps, ← Database.job, present, Option.map_some]
  have elsewhere : ∀ other ≠ id, after.job other = db.job other := by
    intro other different
    rw [Database.job, jobs, Table.lookup_modify_other keeps different]
    rfl
  refine ⟨?_, keys, ?_, ?_⟩
  · rw [jobs, Table.modify_keys keeps]
    exact ledger.ids
  · intro other absent
    have different : other ≠ id := by
      rintro rfl
      rw [self] at absent
      contradiction
    rw [elsewhere other different] at absent
    exact (others other different).1.trans (ledger.orphans other absent)
  · intro other job found
    by_cases same : other = id
    · subst same
      rw [self] at found
      obtain rfl := Option.some.inj found
      exact this
    · rw [elsewhere other same] at found
      have known := ledger.jobs other job found
      obtain ⟨numbers, attempts⟩ := others other same
      rw [← job_id found] at numbers attempts
      exact known.congr numbers attempts

/-! ### Each transaction keeps it -/

theorem submitInsert_ok {settings : Settings} {request : SubmitRequest} {supplierId jobId : Id}
    {objectKey : String} {now : Timestamp}
    (h : submitInsert settings db request supplierId objectKey jobId now = .ok after) :
    after.jobs = db.jobs ++ [queuedJob settings request supplierId objectKey jobId now] ∧
      after.attempts = db.attempts ∧ after.errors = db.errors ∧ after.snapshots = db.snapshots ∧
      after.positions = db.positions := by
  obtain ⟨-, -, rfl⟩ := submitInsert_written h
  exact ⟨rfl, rfl, rfl, rfl, rfl⟩

theorem submit_ledger {settings : Settings} {request : SubmitRequest} {supplierId jobId : Id}
    {objectKey : String} {now : Timestamp} (ledger : Ledger db) (fresh : db.job jobId = none)
    (h : submitInsert settings db request supplierId objectKey jobId now = .ok after) : Ledger after := by
  obtain ⟨jobs, attempts, -⟩ := submitInsert_ok h
  have numbers (id : Id) : after.attemptNumbers id = db.attemptNumbers id := attemptNumbers_congr attempts
  refine ⟨?_, attempts ▸ ledger.keys, ?_, ?_⟩
  · rw [jobs, List.map_append, List.map_cons, List.map_nil, List.nodup_append]
    refine ⟨ledger.ids, by simp, ?_⟩
    intro id old id' new same
    obtain ⟨row, present, key⟩ := List.mem_map.mp old
    rw [List.mem_singleton.mp new] at same
    exact Table.lookup_none.mp fresh row present (key.trans same)
  · intro id absent
    rw [numbers]
    apply ledger.orphans id
    rw [Database.job, jobs, Table.lookup_append, Option.or_eq_none_iff] at absent
    exact absent.1
  · intro id job found
    rw [Database.job, jobs, Table.lookup_append] at found
    rcases Option.or_eq_some_iff.mp found with old | ⟨absent, new⟩
    · exact (ledger.jobs id job old).congr (numbers _) fun _ => attempt_congr attempts
    · rw [Table.lookup_cons] at new
      split at new
      · rename_i same
        obtain rfl := Option.some.inj new
        refine ⟨?_, settings.maxAttempts_bounds.1, Nat.zero_le _,
          fun _ => settings.maxAttempts_bounds.1, ?_, ?_, ?_⟩
        · rw [numbers]
          exact ledger.orphans jobId fresh
        · simp [queuedJob]
        · simp [queuedJob]
        · simp [queuedJob]
      · contradiction

theorem markJobDispatched_row (loaded current : ImportJob) (dispatchedAt : Timestamp) :
    ∃ at?, loaded.writeBack { loaded with dispatchedAt := some dispatchedAt } current =
      { current with dispatchedAt := at? } := by
  refine ⟨Columns.writeBack loaded.dispatchedAt (some dispatchedAt) current.dispatchedAt, ?_⟩
  simp [ImportJob.writeBack]

theorem dispatch_ledger {loaded : ImportJob} {dispatchedAt : Timestamp} (ledger : Ledger db) :
    Ledger (markJobDispatched db loaded dispatchedAt) := by
  unfold markJobDispatched
  split
  · cases present : db.job loaded.id with
    | none =>
      refine ledger.same ?_ rfl
      refine (List.map_congr_left fun row member => ?_).trans (List.map_id _)
      rw [if_neg (Table.lookup_none.mp present row member)]
      rfl
    | some row =>
      refine ledger.rewrite present rfl (fun r same => same) ledger.keys (fun _ _ => ⟨rfl, fun _ => rfl⟩) ?_
      obtain ⟨at?, same⟩ := markJobDispatched_row loaded row dispatchedAt
      rw [same]
      have known := ledger.jobs _ _ present
      exact ⟨known.numbers, known.allowed, known.bounded, known.queued, known.leased, known.worked,
        known.running⟩
  · exact ledger

theorem claim_ok {settings : Settings} {workerId : String} {celeryTaskId : Option String}
    {now : Timestamp} {session : WorkerSession}
    (h : executeImportJobClaim settings db id workerId celeryTaskId now = .ok (some (after, session))) :
    ∃ job, db.job id = some job ∧ job.status = .queued ∧ (∀ t ∈ job.nextRetryAt, t ≤ now) ∧
      db.attempt id (job.attemptCount + 1) = none ∧
      session = claimSession settings job workerId celeryTaskId now ∧
      after = { db with
        jobs := Table.modify ImportJob.id id (fun _ => session.job) db.jobs
        attempts := db.attempts ++ [session.attempt]
        events := db.events ++ [recordImportEvent session.job "Celery" "worker.claimed" "running"
          (.importAttempt id session.job.attemptCount) now] } := by
  unfold executeImportJobClaim at h
  split at h
  · contradiction
  · rename_i job present
    split at h
    · cases h
    · rename_i queued
      split at h
      · cases h
      · rename_i due
        dsimp only at h
        split at h
        · contradiction
        · rename_i inserted
          obtain ⟨absent, rfl⟩ := insertAttempt_ok inserted
          cases h
          refine ⟨job, present, by simpa using queued, ?_, ?_, rfl, rfl⟩
          · intro t pending
            simpa [Option.mem_def.mp pending] using due
          · rw [← job_id present]
            exact absent

theorem claim_ledger {settings : Settings} {workerId : String} {celeryTaskId : Option String}
    {now : Timestamp} {session : WorkerSession} (ledger : Ledger db)
    (h : executeImportJobClaim settings db id workerId celeryTaskId now = .ok (some (after, session))) :
    Ledger after := by
  obtain ⟨job, present, queued, -, absent, rfl, rfl⟩ := claim_ok h
  have known := ledger.jobs id job present
  obtain rfl := job_id present
  refine ledger.rewrite (f := fun _ => claimedJob settings job workerId now) present rfl (fun _ _ => rfl)
    (attemptKeys_append ledger.keys rfl absent) ?_ ?_
  · intro other different
    refine ⟨?_, fun n => ?_⟩
    · have foreign : (claimSession settings job workerId celeryTaskId now).attempt.importJobId ≠ other :=
        Ne.symm different
      rw [attemptNumbers_append rfl, if_neg foreign, List.append_nil]
    · exact attempt_append rfl fun same => different (congrArg Prod.fst same).symm
  · refine ⟨?_, known.allowed, known.queued queued, ?_, ?_, ?_, fun _ => ⟨_, attempt_append_new rfl absent rfl, rfl⟩⟩
    · rw [attemptNumbers_append rfl]
      simp only [claimedJob, claimSession, openAttempt, if_true, known.numbers]
      rw [List.range'_concat]
      simp [Nat.add_comm]
    · simp [claimedJob]
    · simp [claimedJob]
    · simp [claimedJob]

/-- The row a late completion leaves: the counters column by column, everything else outright. -/
theorem complete_row (a : Applying) (rejected : Nat) (now : Timestamp) (current : ImportJob) :
    a.job.writeBack (completedJob a rejected now) current =
      { current with
        status := if rejected = 0 then .completed else .completedWithErrors
        totalRecords := Columns.writeBack a.job.totalRecords (a.accepted + rejected) current.totalRecords
        acceptedRecords := Columns.writeBack a.job.acceptedRecords a.accepted current.acceptedRecords
        rejectedRecords := Columns.writeBack a.job.rejectedRecords rejected current.rejectedRecords
        completedAt := some now
        leaseExpiresAt := none
        workerId := none } := by
  have status : (if rejected = 0 then ImportStatus.completed else .completedWithErrors) ≠ a.job.status := by
    rw [a.processing]
    split <;> decide
  have finished : some now ≠ a.job.completedAt := by simp [a.unfinished]
  have lease : none ≠ a.job.leaseExpiresAt := by
    intro absent
    simpa [← absent] using a.leased
  have worker : none ≠ a.job.workerId := by
    intro absent
    simpa [← absent] using a.held
  simp [ImportJob.writeBack, completedJob, Columns.writeBack_dirty, status, finished, lease, worker]

/-- Likewise the attempt: its status and closing time, and nothing of an earlier closing's error. -/
theorem complete_attempt (a : Applying) (now : Timestamp) (current : ImportAttempt) :
    a.attempt.writeBack (succeededAttempt a.attempt now) current =
      { current with status := .succeeded, completedAt := some now } := by
  have status : ImportAttemptStatus.succeeded ≠ a.attempt.status := by simp [a.running]
  have closed : some now ≠ a.attempt.completedAt := by simp [a.unclosed]
  simp [ImportAttempt.writeBack, succeededAttempt, Columns.writeBack_dirty, status, closed]

theorem complete_ledger {a : Applying} {rejected : Nat} {now : Timestamp} (ledger : Ledger db) :
    Ledger (completeImportJob db a rejected now) := by
  have keeps (b : ImportAttempt) :
      (a.attempt.writeBack (succeededAttempt a.attempt now) b).key = b.key := rfl
  have numbers (other : Id) :
      (completeImportJob db a rejected now).attemptNumbers other = db.attemptNumbers other :=
    attemptNumbers_modify rfl keeps
  have keys : ((completeImportJob db a rejected now).attempts.map ImportAttempt.key).Nodup := by
    rw [attemptKeys_modify rfl keeps]
    exact ledger.keys
  have others (other : Id) (different : other ≠ a.job.id) :
      (completeImportJob db a rejected now).attemptNumbers other = db.attemptNumbers other ∧
        ∀ n, (completeImportJob db a rejected now).attempt other n = db.attempt other n :=
    ⟨numbers other, fun n => attempt_modify_other rfl keeps fun same => different (congrArg Prod.fst same)⟩
  cases present : db.job a.job.id with
  | none =>
    have untouched : (completeImportJob db a rejected now).jobs = db.jobs := by
      refine (List.map_congr_left fun row member => ?_).trans (List.map_id _)
      rw [if_neg (Table.lookup_none.mp present row member)]
      rfl
    refine ⟨untouched ▸ ledger.ids, keys, ?_, ?_⟩
    · intro id absent
      rw [Database.job, untouched] at absent
      exact (numbers id).trans (ledger.orphans id absent)
    · intro id job found
      rw [Database.job, untouched] at found
      have different : id ≠ a.job.id := by
        rintro rfl
        exact Option.some_ne_none job (found.symm.trans present)
      have known := ledger.jobs id job found
      rw [← job_id found] at different
      exact known.congr (numbers _) (others _ different).2
  | some row =>
    refine ledger.rewrite present rfl (fun r same => same) keys others ?_
    rw [complete_row]
    have known := ledger.jobs _ _ present
    refine ⟨(numbers _).trans known.numbers, known.allowed, known.bounded, ?_, ?_, ?_, ?_⟩ <;>
      · dsimp only
        split <;> simp

theorem attemptToFail_ok {workerId : String} {celeryTaskId : Option String} {middle : Database}
    {counted : ImportJob} {attempt : ImportAttempt} (present : db.job id = some job)
    (ledger : JobLedger db job)
    (h : attemptToFail db job workerId celeryTaskId = .ok (middle, counted, attempt)) :
    (middle = db ∧ counted = job ∧ db.findCurrentAttempt job = some attempt) ∨
      (job.attemptCount = 0 ∧ counted = { job with attemptCount := 1 } ∧
        attempt = openAttempt counted workerId celeryTaskId ∧ db.attempt id 1 = none ∧
        middle = { db with attempts := db.attempts ++ [attempt] }) := by
  unfold attemptToFail at h
  split at h
  · rename_i found
    cases h
    exact .inl ⟨rfl, rfl, found⟩
  · rename_i missing
    have zero := ledger.current_none.mp missing
    dsimp only at h
    split at h
    · contradiction
    · rename_i inserted
      obtain ⟨absent, rfl⟩ := insertAttempt_ok inserted
      cases h
      refine .inr ⟨zero, by simp [zero], rfl, ?_, rfl⟩
      rw [← job_id present]
      simpa [openAttempt, zero] using absent

/-- What a failure report commits: the job's row and its current attempt, opened first for a job that
has none. -/
theorem failure_ok {settings : Settings} {error : Raised} {workerId : String}
    {celeryTaskId : Option String} {now : Timestamp} {disposition : FailureDisposition} (ledger : Ledger db)
    (h : recordImportFailure settings db id error workerId celeryTaskId now = .ok (after, disposition)) :
    ∃ job counted middle attempt, db.job id = some job ∧
      ((middle = db ∧ counted = job ∧ db.findCurrentAttempt job = some attempt) ∨
        (job.attemptCount = 0 ∧ counted = { job with attemptCount := 1 } ∧
          attempt = openAttempt counted workerId celeryTaskId ∧ db.attempt id 1 = none ∧
          middle = { db with attempts := db.attempts ++ [attempt] })) ∧
      after = ((middle.modifyJob id fun _ => failedJob settings counted error now).modifyAttempt id
        counted.attemptCount (failedAttempt settings counted error now)).addEvents
          [failureEvent settings counted error now] := by
  unfold recordImportFailure at h
  split at h
  · contradiction
  · rename_i job present
    split at h
    · contradiction
    · rename_i middle counted attempt opened
      have cases := attemptToFail_ok present (ledger.jobs id job present) opened
      have owner : job.id = id := job_id present
      have same : counted.id = id := by
        rcases cases with ⟨-, same, -⟩ | ⟨-, same, -⟩
        · exact (congrArg ImportJob.id same).trans owner
        · exact (congrArg ImportJob.id same).trans owner
      cases h
      rw [same]
      exact ⟨job, counted, middle, attempt, present, cases, rfl⟩

theorem retryScheduled_bound {settings : Settings} {error : Raised}
    (h : (failureDisposition settings job error).retryScheduled = true) :
    job.attemptCount < job.maxAttempts := by
  simp only [failureDisposition, Bool.and_eq_true, decide_eq_true_eq] at h
  exact h.2

theorem failedJob_row (settings : Settings) (job : ImportJob) (error : Raised) (now : Timestamp) :
    (failedJob settings job error now).id = job.id ∧
      (failedJob settings job error now).attemptCount = job.attemptCount ∧
      (failedJob settings job error now).maxAttempts = job.maxAttempts ∧
      (failedJob settings job error now).leaseExpiresAt = none ∧
      (failedJob settings job error now).workerId = none ∧
      (failedJob settings job error now).status =
        if (failureDisposition settings job error).retryScheduled then .queued else .failed := by
  unfold failedJob
  dsimp only
  split <;> simp_all

theorem failedJob_ledger {settings : Settings} {error : Raised} {now : Timestamp} {counted : ImportJob}
    (numbers : after.attemptNumbers counted.id = List.range' 1 counted.attemptCount)
    (allowed : 1 ≤ counted.maxAttempts) (bounded : counted.attemptCount ≤ counted.maxAttempts) :
    JobLedger after (failedJob settings counted error now) := by
  obtain ⟨same, count, max, lease, worker, status⟩ := failedJob_row settings counted error now
  refine ⟨?_, max ▸ allowed, ?_, ?_, ?_, ?_, ?_⟩
  · rw [same, count]
    exact numbers
  · rw [count, max]
    exact bounded
  · intro queued
    rw [count, max]
    by_contra beyond
    have permanent : ¬(failureDisposition settings counted error).retryScheduled = true :=
      fun scheduled => beyond (retryScheduled_bound scheduled)
    rw [status, if_neg permanent] at queued
    contradiction
  · rw [status, lease]
    split <;> simp
  · rw [status, worker]
    split <;> simp
  · rw [status]
    split <;> simp

/-- The rows over which a failure report closes the attempt numbered `counted.attemptCount`. -/
structure Opened (db middle : Database) (job counted : ImportJob) : Prop where
  jobs : middle.jobs = db.jobs
  same : counted.id = job.id
  allowed : 1 ≤ counted.maxAttempts
  bounded : counted.attemptCount ≤ counted.maxAttempts
  keys : (middle.attempts.map ImportAttempt.key).Nodup
  numbers : middle.attemptNumbers job.id = List.range' 1 counted.attemptCount
  others : ∀ other ≠ job.id, middle.attemptNumbers other = db.attemptNumbers other ∧
    ∀ n, middle.attempt other n = db.attempt other n

theorem opened_present (ledger : Ledger db) (present : db.job job.id = some job) : Opened db db job job :=
  have known := ledger.jobs _ _ present
  ⟨rfl, rfl, known.allowed, known.bounded, ledger.keys, known.numbers, fun _ _ => ⟨rfl, fun _ => rfl⟩⟩

theorem opened_fresh {a : ImportAttempt} (ledger : Ledger db) (present : db.job job.id = some job)
    (zero : job.attemptCount = 0) (absent : db.attempt job.id 1 = none) (first : a.key = (job.id, 1)) :
    Opened db { db with attempts := db.attempts ++ [a] } job { job with attemptCount := 1 } := by
  have known := ledger.jobs _ _ present
  have owner : a.importJobId = job.id := congrArg Prod.fst first
  have number : a.attemptNumber = 1 := congrArg Prod.snd first
  refine ⟨rfl, rfl, known.allowed, known.allowed, ?_, ?_, ?_⟩
  · exact attemptKeys_append ledger.keys rfl (by rw [owner, number]; exact absent)
  · rw [attemptNumbers_append rfl, if_pos owner, number, known.numbers, zero]
    rfl
  · intro other different
    have foreign : a.importJobId ≠ other := fun same => different (same.symm.trans owner)
    refine ⟨?_, fun n => ?_⟩
    · rw [attemptNumbers_append rfl, if_neg foreign, List.append_nil]
    · exact attempt_append rfl fun same => foreign (congrArg Prod.fst same)

theorem Opened.closed_ledger {settings : Settings} {error : Raised} {now : Timestamp} {middle : Database}
    {counted : ImportJob} (ledger : Ledger db) (present : db.job job.id = some job)
    (opened : Opened db middle job counted) :
    Ledger ((middle.modifyJob job.id fun _ => failedJob settings counted error now).modifyAttempt job.id
      counted.attemptCount (failedAttempt settings counted error now)) := by
  have keeps (a : ImportAttempt) : (failedAttempt settings counted error now a).key = a.key := rfl
  have attempts : ((middle.modifyJob job.id fun _ => failedJob settings counted error now).modifyAttempt
      job.id counted.attemptCount (failedAttempt settings counted error now)).attempts =
    Table.modify ImportAttempt.key (job.id, counted.attemptCount)
      (failedAttempt settings counted error now) middle.attempts := rfl
  have jobs : ((middle.modifyJob job.id fun _ => failedJob settings counted error now).modifyAttempt
      job.id counted.attemptCount (failedAttempt settings counted error now)).jobs =
    Table.modify ImportJob.id job.id (fun _ => failedJob settings counted error now) db.jobs := by
    rw [← opened.jobs]
    rfl
  refine ledger.rewrite present jobs (fun _ _ => (failedJob_row _ _ _ _).1.trans opened.same) ?_ ?_ ?_
  · rw [attemptKeys_modify attempts keeps]
    exact opened.keys
  · intro other different
    obtain ⟨numbers, rows⟩ := opened.others other different
    refine ⟨(attemptNumbers_modify attempts keeps).trans numbers, fun n => ?_⟩
    rw [attempt_modify_other attempts keeps fun same => different (congrArg Prod.fst same)]
    exact rows n
  · refine failedJob_ledger ?_ opened.allowed opened.bounded
    rw [attemptNumbers_modify attempts keeps, opened.same]
    exact opened.numbers

theorem failure_ledger {settings : Settings} {error : Raised} {workerId : String}
    {celeryTaskId : Option String} {now : Timestamp} {disposition : FailureDisposition} (ledger : Ledger db)
    (h : recordImportFailure settings db id error workerId celeryTaskId now = .ok (after, disposition)) :
    Ledger after := by
  obtain ⟨job, counted, middle, attempt, present, opened, rfl⟩ := failure_ok ledger h
  obtain rfl := job_id present
  have ready : Opened db middle job counted := by
    rcases opened with ⟨rfl, rfl, -⟩ | ⟨zero, rfl, rfl, absent, rfl⟩
    · exact opened_present ledger present
    · exact opened_fresh ledger present zero absent rfl
  exact (ready.closed_ledger ledger present).same rfl rfl

/-! ### Recovery, job by job -/

def recoveredDatabase (now : Timestamp) (db : Database) (job : ImportJob) : Database :=
  (db.modifyJob job.id fun _ => recoveredJob now job).modifyAttempt job.id job.attemptCount
    (recoveredAttempt now)

theorem recoveredJob_row (now : Timestamp) (job : ImportJob) :
    (recoveredJob now job).id = job.id ∧ (recoveredJob now job).attemptCount = job.attemptCount ∧
      (recoveredJob now job).maxAttempts = job.maxAttempts ∧
      (recoveredJob now job).leaseExpiresAt = none ∧ (recoveredJob now job).workerId = none ∧
      (recoveredJob now job).status =
        if job.attemptCount < job.maxAttempts then .queued else .failed := by
  unfold recoveredJob
  dsimp only
  split <;> simp_all

theorem recovered_ledger {now : Timestamp} (ledger : Ledger db) (present : db.job job.id = some job) :
    Ledger (recoveredDatabase now db job) := by
  have known := ledger.jobs _ _ present
  have keeps (a : ImportAttempt) : (recoveredAttempt now a).key = a.key := rfl
  have attempts : (recoveredDatabase now db job).attempts =
    Table.modify ImportAttempt.key (job.id, job.attemptCount) (recoveredAttempt now) db.attempts := rfl
  obtain ⟨same, count, max, lease, worker, status⟩ := recoveredJob_row now job
  refine ledger.rewrite present rfl (fun _ _ => same) ?_ ?_ ?_
  · rw [attemptKeys_modify attempts keeps]
    exact ledger.keys
  · exact fun other different => ⟨attemptNumbers_modify attempts keeps,
      fun n => attempt_modify_other attempts keeps fun same => different (congrArg Prod.fst same)⟩
  · refine ⟨?_, max ▸ known.allowed, ?_, ?_, ?_, ?_, ?_⟩
    · rw [same, count, attemptNumbers_modify attempts keeps]
      exact known.numbers
    · rw [count, max]
      exact known.bounded
    · intro queued
      rw [count, max]
      by_contra spent
      rw [status, if_neg spent] at queued
      contradiction
    · rw [status, lease]
      split <;> simp
    · rw [status, worker]
      split <;> simp
    · rw [status]
      split <;> simp

/-- The sweep as a sequence of recoveries, each of a job that still holds its expired lease. -/
inductive Recoveries (now : Timestamp) : Database → Database → Prop where
  | nil (db : Database) : Recoveries now db db
  | cons {db after : Database} {job : ImportJob} (ledger : Ledger db) (present : db.job job.id = some job)
      (expired : leaseExpired now job = true) (rest : Recoveries now (recoveredDatabase now db job) after) :
      Recoveries now db after

theorem recovered_job_self {now : Timestamp} (present : db.job job.id = some job) :
    (recoveredDatabase now db job).job job.id = some (recoveredJob now job) := by
  have self : (recoveredDatabase now db job).job job.id =
      (db.job job.id).map fun _ => recoveredJob now job :=
    Table.lookup_modify_self fun _ _ => (recoveredJob_row now job).1
  rw [self, present, Option.map_some]

theorem recovered_job_other {now : Timestamp} (different : other ≠ job.id) :
    (recoveredDatabase now db job).job other = db.job other :=
  Table.lookup_modify_other (fun _ _ => (recoveredJob_row now job).1) different

theorem leaseExpired_processing {now : Timestamp} (h : leaseExpired now job = true) :
    job.status = .processing := by
  simp only [leaseExpired, Bool.and_eq_true, decide_eq_true_eq] at h
  exact h.1

/-- Over jobs with distinct ids that hold expired leases the loop does not raise. It recovers each of
them and leaves the others alone. -/
theorem recoverJobs_spec {now : Timestamp} {selected : List ImportJob} (ledger : Ledger db)
    (distinct : (selected.map ImportJob.id).Nodup)
    (held : ∀ job ∈ selected, db.job job.id = some job ∧ leaseExpired now job = true) :
    ∃ after ids, recoverJobs now selected db = .ok (after, ids) ∧ Recoveries now db after ∧
      (∀ job ∈ selected, after.job job.id = some (recoveredJob now job)) ∧
      ∀ id, id ∉ selected.map ImportJob.id → after.job id = db.job id := by
  induction selected generalizing db with
  | nil => exact ⟨db, [], rfl, .nil db, by simp, fun _ _ => rfl⟩
  | cons job rest ih =>
    rw [List.map_cons, List.nodup_cons] at distinct
    obtain ⟨present, expired⟩ := held job List.mem_cons_self
    obtain ⟨attempt, current, -⟩ := (ledger.jobs _ _ present).running (leaseExpired_processing expired)
    have recovered : recoverJob now db job = .ok (recoveredDatabase now db job,
        if job.attemptCount < job.maxAttempts then [job.id] else []) := by
      simp [recoverJob, current, recoveredDatabase]
    have apart : ∀ next ∈ rest, next.id ≠ job.id :=
      fun next member same => distinct.1 (same ▸ List.mem_map_of_mem member)
    have kept : Ledger (recoveredDatabase now db job) := recovered_ledger ledger present
    have still : ∀ next ∈ rest,
        (recoveredDatabase now db job).job next.id = some next ∧ leaseExpired now next = true := by
      intro next member
      obtain ⟨found, late⟩ := held next (List.mem_cons_of_mem _ member)
      exact ⟨(recovered_job_other (apart next member)).trans found, late⟩
    obtain ⟨after, ids, swept, chain, each, untouched⟩ := ih kept distinct.2 still
    refine ⟨after, _, by simp only [recoverJobs, recovered, swept]; rfl,
      .cons ledger present expired chain, ?_, ?_⟩
    · intro next member
      rcases List.mem_cons.mp member with rfl | later
      · rw [untouched _ distinct.1]
        exact recovered_job_self present
      · exact each next later
    · intro id outside
      rw [List.map_cons, List.mem_cons, not_or] at outside
      rw [untouched id outside.2]
      exact recovered_job_other outside.1

theorem recover_selected (now : Timestamp) (locked : List Id) (ledger : Ledger db) :
    ((db.jobs.filter fun job => leaseExpired now job && !locked.contains job.id).map ImportJob.id).Nodup ∧
      ∀ job ∈ db.jobs.filter fun job => leaseExpired now job && !locked.contains job.id,
        db.job job.id = some job ∧ leaseExpired now job = true := by
  refine ⟨ledger.ids.sublist (List.filter_sublist.map _), ?_⟩
  intro job member
  obtain ⟨present, chosen⟩ := List.mem_filter.mp member
  exact ⟨Table.lookup_of_mem ledger.ids present, (Bool.and_eq_true_iff.mp chosen).1⟩

theorem recover_recoveries {now : Timestamp} {locked ids : List Id} (ledger : Ledger db)
    (h : recoverStaleImports db locked now = .ok (after, ids)) : Recoveries now db after := by
  obtain ⟨distinct, held⟩ := recover_selected now locked ledger
  obtain ⟨swept, ids', same, chain, -⟩ := recoverJobs_spec ledger distinct held
  rw [recoverStaleImports, same] at h
  cases h
  exact chain

theorem Recoveries.ledger {now : Timestamp} (chain : Recoveries now db after) (ledger : Ledger db) :
    Ledger after := by
  induction chain with
  | nil => exact ledger
  | cons held present _ _ ih => exact ih (recovered_ledger held present)

theorem Recoveries.job_none {now : Timestamp} (chain : Recoveries now db after) (absent : db.job id = none) :
    after.job id = none := by
  induction chain with
  | nil => exact absent
  | cons _ present _ _ ih =>
    refine ih ((recovered_job_other ?_).trans absent)
    rintro rfl
    rw [absent] at present
    contradiction

end

/-! ### Every reachable hub -/

section
variable {env : Env} {hub next : Hub} {l : Label}

theorem initial_ledger (h : Hub.Initial hub) : Ledger hub.db := by
  refine ⟨?_, ?_, ?_, ?_⟩
  · rw [h.jobs]
    exact List.nodup_nil
  · rw [h.attempts]
    exact List.nodup_nil
  · intro id _
    rw [Database.attemptNumbers, h.attempts]
    rfl
  · intro id job present
    rw [Database.job, h.jobs] at present
    contradiction

theorem effect_ledger (ledger : Ledger hub.db) (effect : Effect env hub next l) : Ledger next.db := by
  cases effect with
  | reads imports => exact ledger.same imports.jobs imports.attempts
  | submitted fresh db => exact submit_ledger ledger fresh db
  | dispatched db => exact db ▸ dispatch_ledger ledger
  | claimed _ db => exact claim_ledger ledger db
  | completed _ _ db => exact db ▸ complete_ledger ledger
  | reported _ db => exact failure_ledger ledger db
  | recovered db => exact (recover_recoveries ledger db).ledger ledger

theorem reachable_ledger (reached : Hub.Reachable env hub) : Ledger hub.db :=
  reached.invariant (P := fun hub => Ledger hub.db) (fun _ => initial_ledger)
    fun _ _ _ ledger next => effect_ledger ledger (step_effect next)

end

end SupplyChainHub
