import SupplyChainHub.Imports.Attempts

/-!
The operation trail: what is recorded when an attempt is claimed and when it is closed. Every operation
that changes a job appends its events by hand; the lease sweep closes attempts and appends none.
-/

namespace SupplyChainHub

/-- The stage of the event that closes an attempt with a status. -/
def ImportAttemptStatus.closingStage : ImportAttemptStatus → Option String
  | .succeeded => some "job.completed"
  | .retryScheduled => some "job.retry_scheduled"
  | .failed => some "job.failed"
  | .running | .abandoned => none

def ImportStatus.closingStage : ImportStatus → Option String
  | .completed | .completedWithErrors => some "job.completed"
  | .failed => some "job.failed"
  | .queued | .processing => none

def Database.Shows (db : Database) (id : Id) (stage : String) : Prop :=
  ∃ e ∈ db.events, e.importJobId = id ∧ e.stage = stage

/-- The step itself appended an event of the job at the stage. -/
def Hub.Records (hub next : Hub) (id : Id) (stage : String) : Prop :=
  ∃ e ∈ next.db.events.drop hub.db.events.length, e.importJobId = id ∧ e.stage = stage

/-- The step left an attempt closed that was not closed, or closed otherwise, before. -/
def Hub.Closes (hub next : Hub) (id : Id) (n : Nat) (attempt : ImportAttempt) : Prop :=
  next.db.attempt id n = some attempt ∧ attempt.status ≠ .running ∧ hub.db.attempt id n ≠ some attempt

/-- Every closed attempt, and every job with an outcome, has the event that says so. -/
structure Explained (db : Database) : Prop where
  attempts : ∀ id n attempt, db.attempt id n = some attempt → attempt.status ≠ .running →
    ∃ stage, attempt.status.closingStage = some stage ∧ db.Shows id stage
  jobs : ∀ id job stage, db.job id = some job → job.status.closingStage = some stage → db.Shows id stage

/-- A sweep finds no job to recover. -/
def Unswept (hub : Hub) (l : Label) : Prop :=
  ∀ locked now, l = .recover locked now → ∀ job ∈ hub.db.jobs, leaseExpired now job = true → job.id ∈ locked

section
variable {env : Env} {hub next : Hub} {l : Label} {db after : Database} {id : Id} {n : Nat}
    {job row : ImportJob} {attempt : ImportAttempt} {stage : String}

/-! ### Events are only appended -/

theorem records_of_append {new : List OperationEvent} {e : OperationEvent}
    (events : next.db.events = hub.db.events ++ new) (member : e ∈ new) :
    hub.Records next e.importJobId e.stage := by
  refine ⟨e, ?_, rfl, rfl⟩
  rwa [events, List.drop_left]

theorem Hub.Records.shows (records : hub.Records next id stage) : next.db.Shows id stage := by
  obtain ⟨e, member, owner, staged⟩ := records
  exact ⟨e, List.mem_of_mem_drop member, owner, staged⟩

theorem Recoveries.events {now : Timestamp} (chain : Recoveries now db after) : after.events = db.events := by
  induction chain with
  | nil => rfl
  | cons _ _ _ _ ih => exact ih

/-- What a failure report writes, by the row it comes to. -/
theorem failure_rows {settings : Settings} {error : Raised} {workerId : String}
    {celeryTaskId : Option String} {now : Timestamp} {disposition : FailureDisposition} (ledger : Ledger db)
    (h : recordImportFailure settings db id error workerId celeryTaskId now = .ok (after, disposition)) :
    ∃ counted, counted.id = id ∧
      after.events = db.events ++ [failureEvent settings counted error now] ∧
      (∀ other row, after.job other = some row →
        db.job other = some row ∨ other = id ∧ row = failedJob settings counted error now) ∧
      ∀ other m row, after.attempt other m = some row → db.attempt other m = some row ∨
        other = id ∧ ∃ current, row = failedAttempt settings counted error now current := by
  obtain ⟨failed, counted, middle, attempt, found, opened, rfl⟩ := failure_ok ledger h
  have known : failed.id = id := job_id found
  have rows : middle.jobs = db.jobs ∧ middle.events = db.events := by
    rcases opened with ⟨rfl, -⟩ | ⟨-, -, -, -, rfl⟩ <;> exact ⟨rfl, rfl⟩
  have owner : counted.id = id := by
    rcases opened with ⟨-, rfl, -⟩ | ⟨-, rfl, -⟩ <;> exact known
  refine ⟨counted, owner, congrArg (· ++ _) rows.2, ?_, ?_⟩
  · intro other row present
    have keeps (r : ImportJob) (_ : r.id = id) : (failedJob settings counted error now).id = id :=
      (failedJob_row settings counted error now).1.trans owner
    rcases Table.lookup_modify_cases keeps present with ⟨-, old⟩ | ⟨same, _, -, new⟩
    · rw [rows.1] at old
      exact .inl old
    · exact .inr ⟨same, new⟩
  · intro other m row present
    have keeps (r : ImportAttempt) (same : r.key = (id, counted.attemptCount)) :
        (failedAttempt settings counted error now r).key = (id, counted.attemptCount) := same
    rcases Table.lookup_modify_cases keeps present with ⟨different, old⟩ | ⟨same, current, -, new⟩
    · left
      rcases opened with ⟨rfl, -⟩ | ⟨-, rfl, rfl, -, rfl⟩
      · exact old
      · rcases Table.lookup_push_cases old with old | ⟨mine, -⟩
        · exact old
        · -- the attempt just opened is the one that is closed
          have key : (other, m) = (id, 1) := mine.symm.trans (congrArg (·, 1) owner)
          exact absurd key different
    · exact .inr ⟨(Prod.mk.inj same).1, current, new⟩

theorem failureEvent_closes (settings : Settings) (counted : ImportJob) (error : Raised) (now : Timestamp)
    (current : ImportAttempt) :
    (failedAttempt settings counted error now current).status.closingStage =
        some (failureEvent settings counted error now).stage ∧
      ((failedJob settings counted error now).status.closingStage = none ∨
        (failedJob settings counted error now).status.closingStage =
          some (failureEvent settings counted error now).stage) ∧
      (failureEvent settings counted error now).importJobId = counted.id := by
  rw [(failedJob_row settings counted error now).2.2.2.2.2]
  unfold failedAttempt failureEvent
  dsimp only
  split
  · exact ⟨rfl, .inl rfl, rfl⟩
  · exact ⟨rfl, .inr rfl, rfl⟩

theorem unswept_still {locked ids : List Id} {now : Timestamp} (met : Unswept hub (.recover locked now))
    (swept : recoverStaleImports hub.db locked now = .ok (next.db, ids)) : next.db = hub.db := by
  have none : (hub.db.jobs.filter fun job => leaseExpired now job && !locked.contains job.id) = [] := by
    rw [List.filter_eq_nil_iff]
    intro job member chosen
    obtain ⟨expired, unlocked⟩ := Bool.and_eq_true_iff.mp chosen
    have held := met locked now rfl job member expired
    rw [List.contains_iff_mem.mpr held] at unlocked
    contradiction
  rw [recoverStaleImports, none] at swept
  exact (congrArg Prod.fst (Except.ok.inj swept)).symm

/-! ### What one step records -/

/-- A step that closes an attempt records it, in the same commit, unless it is a sweep. -/
theorem closing_recorded (ledger : Ledger hub.db) (met : Unswept hub l) (h : Hub.step env hub l = some next)
    (closes : hub.Closes next id n attempt) :
    ∃ stage, attempt.status.closingStage = some stage ∧ hub.Records next id stage := by
  obtain ⟨found, closed, fresh⟩ := closes
  have kept (same : next.db.attempts = hub.db.attempts) : False :=
    fresh ((attempt_congr same).symm.trans found)
  cases step_effect h with
  | reads imports => exact (kept imports.attempts).elim
  | submitted _ db => exact (kept (submitInsert_ok db).2.1).elim
  | dispatched db =>
    refine (kept ?_).elim
    rw [db, markJobDispatched]
    split <;> rfl
  | claimed _ claim =>
    obtain ⟨_, -, -, -, -, rfl, same⟩ := claim_ok claim
    rw [Database.attempt, congrArg Database.attempts same] at found
    rcases Table.lookup_push_cases found with old | ⟨-, rfl⟩
    · exact absurd old fresh
    · exact absurd rfl closed
  | @completed d now a rejected _ _ db =>
    rw [Database.attempt, congrArg Database.attempts db] at found
    have keeps (r : ImportAttempt) (same : r.key = (a.job.id, a.job.attemptCount)) :
        (a.attempt.writeBack (succeededAttempt a.attempt now) r).key = (a.job.id, a.job.attemptCount) := same
    rcases Table.lookup_modify_cases keeps found with ⟨-, old⟩ | ⟨mine, current, -, rfl⟩
    · exact absurd old fresh
    · rw [complete_attempt]
      refine ⟨"job.completed", rfl, ?_⟩
      obtain ⟨rfl, -⟩ := Prod.mk.inj mine
      have events := (congrArg Database.events db).trans (List.append_assoc _ _ _)
      exact records_of_append (e := recordImportEvent a.job "Celery" "job.completed" "succeeded"
        (.importJob a.job.id) now) events (by simp)
  | @reported d now r _ _ db =>
    obtain ⟨counted, owner, events, -, attempts⟩ := failure_rows ledger db
    rcases attempts id n attempt found with old | ⟨rfl, current, rfl⟩
    · exact absurd old fresh
    · obtain ⟨staged, -, named⟩ := failureEvent_closes env.settings counted r.error now current
      have recorded := records_of_append events (List.mem_singleton_self _)
      rw [named, owner] at recorded
      exact ⟨_, staged, recorded⟩
  | recovered db => exact (kept (congrArg Database.attempts (unswept_still met db))).elim

/-- A step that gives a job an outcome records it, unless it is a sweep. -/
theorem outcome_recorded (ledger : Ledger hub.db) (met : Unswept hub l) (h : Hub.step env hub l = some next)
    (found : next.db.job id = some row) (outcome : row.status.closingStage = some stage) :
    (∃ job, hub.db.job id = some job ∧ job.status.closingStage = some stage) ∨ hub.Records next id stage := by
  have kept (same : next.db.jobs = hub.db.jobs) :
      ∃ job, hub.db.job id = some job ∧ job.status.closingStage = some stage :=
    ⟨row, (job_congr same).symm.trans found, outcome⟩
  cases step_effect h with
  | reads imports => exact .inl (kept imports.jobs)
  | submitted _ db =>
    rw [Database.job, (submitInsert_ok db).1] at found
    rcases Table.lookup_push_cases found with old | ⟨-, rfl⟩
    · exact .inl ⟨row, old, outcome⟩
    · contradiction
  | @dispatched _ dispatchedAt loaded db =>
    left
    by_cases queued : loaded.status = .queued
    · have keeps (r : ImportJob) (same : r.id = loaded.id) :
          (loaded.writeBack { loaded with dispatchedAt := some dispatchedAt } r).id = loaded.id := same
      rw [db, markJobDispatched, if_pos queued] at found
      rcases Table.lookup_modify_cases keeps found with ⟨-, old⟩ | ⟨rfl, current, present, rfl⟩
      · exact ⟨row, old, outcome⟩
      · obtain ⟨at?, same⟩ := markJobDispatched_row loaded current dispatchedAt
        rw [same] at outcome
        exact ⟨current, present, outcome⟩
    · rw [db, markJobDispatched, if_neg queued] at found
      exact ⟨row, found, outcome⟩
  | @claimed _ now jobId workerId celeryTaskId _ _ claim =>
    obtain ⟨claimed, known, -, -, -, rfl, same⟩ := claim_ok claim
    rw [Database.job, congrArg Database.jobs same] at found
    have keeps (r : ImportJob) (_ : r.id = jobId) :
        (claimSession env.settings claimed workerId celeryTaskId now).job.id = jobId :=
      show claimed.id = jobId from job_id known
    rcases Table.lookup_modify_cases keeps found with ⟨-, old⟩ | ⟨-, _, -, rfl⟩
    · exact .inl ⟨row, old, outcome⟩
    · contradiction
  | @completed d now a rejected _ _ db =>
    have keeps (r : ImportJob) (same : r.id = a.job.id) :
        (a.job.writeBack (completedJob a rejected now) r).id = a.job.id := same
    rw [Database.job, congrArg Database.jobs db] at found
    rcases Table.lookup_modify_cases keeps found with ⟨-, old⟩ | ⟨rfl, current, -, rfl⟩
    · exact .inl ⟨row, old, outcome⟩
    · right
      have completes : (if rejected = 0 then ImportStatus.completed else .completedWithErrors).closingStage =
          some "job.completed" := by split <;> rfl
      rw [complete_row] at outcome
      obtain rfl := Option.some.inj (completes.symm.trans outcome)
      have events := (congrArg Database.events db).trans (List.append_assoc _ _ _)
      exact records_of_append (e := recordImportEvent a.job "Celery" "job.completed" "succeeded"
        (.importJob a.job.id) now) events (by simp)
  | @reported d now r _ _ db =>
    obtain ⟨counted, owner, events, jobs, -⟩ := failure_rows ledger db
    rcases jobs id row found with old | ⟨rfl, rfl⟩
    · exact .inl ⟨row, old, outcome⟩
    · right
      obtain ⟨-, none | staged, named⟩ :=
        failureEvent_closes env.settings counted r.error now (openAttempt counted "" none)
      · rw [none] at outcome
        contradiction
      · obtain rfl := Option.some.inj (staged.symm.trans outcome)
        have recorded := records_of_append events (List.mem_singleton_self _)
        rwa [named, owner] at recorded
  | recovered db => exact .inl (kept (congrArg Database.jobs (unswept_still met db)))

/-- A claim opens an attempt and records that it is claimed. -/
def Database.ShowsClaim (db : Database) (id : Id) (n : Nat) : Prop :=
  ∃ e ∈ db.events, e.importJobId = id ∧ e.stage = "worker.claimed" ∧ e.evidenceReference = .importAttempt id n

theorem claim_recorded (claims : hub.claims env id l = true) (h : Hub.step env hub l = some next) :
    next.db.ShowsClaim id (attemptCountOf next.db id) := by
  obtain ⟨workerId, task, now, session, claim⟩ := claims_ok claims h
  obtain ⟨job, present, -, -, -, rfl, same⟩ := claim_ok claim
  have owner : job.id = id := job_id present
  have updated : next.db.job id = some (if id = id then claimedJob env.settings job workerId now else job) :=
    job_modify present (congrArg Database.jobs same) fun _ _ => owner
  rw [if_pos rfl] at updated
  rw [attemptCountOf_present updated]
  rw [Database.ShowsClaim, congrArg Database.events same]
  exact ⟨_, List.mem_append_right _ (List.mem_singleton_self _), owner, rfl, rfl⟩

theorem events_grow (ledger : Ledger hub.db) (effect : Effect env hub next l) :
    hub.db.events <+: next.db.events := by
  cases effect with
  | reads imports => rw [imports.events]
  | submitted _ db =>
    obtain ⟨-, -, written⟩ := submitInsert_written db
    rw [written]
    exact List.prefix_append _ _
  | dispatched db =>
    rw [db, markJobDispatched]
    split
    · exact List.prefix_append _ _
    · exact List.prefix_rfl
  | claimed _ claim =>
    obtain ⟨_, -, -, -, -, -, same⟩ := claim_ok claim
    rw [congrArg Database.events same]
    exact List.prefix_append _ _
  | completed _ _ db =>
    rw [congrArg Database.events db]
    exact (List.prefix_append _ _).trans (List.prefix_append _ _)
  | reported _ db =>
    obtain ⟨_, -, events, -⟩ := failure_rows ledger db
    rw [events]
    exact List.prefix_append _ _
  | recovered db => rw [(recover_recoveries ledger db).events]

/-! ### Every run without a recovery -/

theorem events_run {guard : Hub → Label → Prop} (reached : Hub.Reachable env hub)
    (run : Hub.Run env guard hub next) : hub.db.events <+: next.db.events := by
  apply run.invariant_reachable (P := fun next => hub.db.events <+: next.db.events) ?_ reached List.prefix_rfl
  intro s l t reached grown _ h
  exact grown.trans (events_grow (reachable_ledger reached) (step_effect h))

theorem Database.Shows.mono (shows_ : db.Shows id stage) (grown : db.events <+: after.events) :
    after.Shows id stage := by
  obtain ⟨e, member, same⟩ := shows_
  exact ⟨e, grown.subset member, same⟩

theorem explained_step (ledger : Ledger hub.db) (explained : Explained hub.db) (met : Unswept hub l)
    (h : Hub.step env hub l = some next) : Explained next.db := by
  have grown := events_grow ledger (step_effect h)
  constructor
  · intro id n attempt found closed
    by_cases old : hub.db.attempt id n = some attempt
    · obtain ⟨stage, closing, shown⟩ := explained.attempts id n attempt old closed
      exact ⟨stage, closing, shown.mono grown⟩
    · obtain ⟨stage, closing, recorded⟩ := closing_recorded ledger met h ⟨found, closed, old⟩
      exact ⟨stage, closing, recorded.shows⟩
  · intro id row stage found outcome
    rcases outcome_recorded ledger met h found outcome with ⟨job, old, before⟩ | recorded
    · exact (explained.jobs id job stage old before).mono grown
    · exact recorded.shows

/-- As long as no sweep recovers a job: every closed attempt and every outcome has its event, the claim and
the closing of every attempt recorded their own when they happened, and these are still there. -/
theorem trail_explains {start : Hub} (begins : Hub.Initial start) (run : Hub.Run env Unswept start hub) :
    Explained hub.db ∧
    (∀ before l after id, Machine.Through (Hub.step env) Unswept start before l after hub →
      before.claims env id l = true → hub.db.ShowsClaim id (attemptCountOf after.db id)) ∧
    ∀ before l after id n attempt, Machine.Through (Hub.step env) Unswept start before l after hub →
      before.Closes after id n attempt → ∃ stage, attempt.status.closingStage = some stage ∧
        before.Records after id stage ∧ hub.db.Shows id stage := by
  have origin : Hub.Reachable env start := .start begins
  refine ⟨?_, ?_, ?_⟩
  · apply run.invariant_reachable (P := fun hub => Explained hub.db) ?_ origin
    · constructor
      · intro id n attempt found
        rw [Database.attempt, begins.attempts] at found
        contradiction
      · intro id job stage found
        rw [Database.job, begins.jobs] at found
        contradiction
    · intro hub l next reached explained met h
      exact explained_step (reachable_ledger reached) explained met h
  · intro before l after id through claims
    have reached : Hub.Reachable env after := (origin.run through.before).step through.next
    obtain ⟨e, member, same⟩ := claim_recorded claims through.next
    exact ⟨e, (events_run reached through.after).subset member, same⟩
  · intro before l after id n attempt through closes
    have reached : Hub.Reachable env before := origin.run through.before
    obtain ⟨stage, closing, recorded⟩ :=
      closing_recorded (reachable_ledger reached) through.met through.next closes
    exact ⟨stage, closing, recorded,
      recorded.shows.mono (events_run (reached.step through.next) through.after)⟩

end

namespace Small

/-- A failure, and a second attempt that completes. -/
def secondAttempt : List Label :=
  submitted ++ claimed 0 (moment 1) ++ failed 0 (moment 2) ++ claimed 1 (moment 400) ++ applied 1 (moment 401) ++
    completed 1 (moment 402)

/-- Three workers that claim the job and are not heard of again. -/
def abandoned : List Label :=
  submitted ++ claimed 0 (moment 1) ++ [.recover [] (moment 400)] ++ claimed 1 (moment 401) ++
    [.recover [] (moment 800)] ++ claimed 2 (moment 801) ++ [.recover [] (moment 1200)]

theorem secondAttempt_unswept : ∀ l ∈ secondAttempt, ∀ hub, Unswept hub l := by
  rintro l member hub locked now rfl
  simp [secondAttempt, submitted, claimed, failed, applied, completed] at member

end Small

theorem trail_explains_retried : ∃ hub attempt, Hub.Run Small.env Unswept Small.hub hub ∧
    hub.db.attempt 1 1 = some attempt ∧ attempt.status = .retryScheduled ∧
    hub.db.Shows 1 "job.retry_scheduled" ∧ hub.db.Shows 1 "job.completed" := by
  have shown : (Machine.exec (Hub.step Small.env) Small.hub Small.secondAttempt).any (fun hub =>
      (hub.db.attempt 1 1).any (fun attempt => attempt.status = .retryScheduled) &&
        (hub.db.job 1).any fun job => job.status = .completed) = true := by decide +kernel
  simp only [Option.any_eq_true, Bool.and_eq_true, decide_eq_true_eq] at shown
  obtain ⟨hub, steps, ⟨attempt, tried, scheduled⟩, job, present, completed⟩ := shown
  have run : Hub.Run Small.env Unswept Small.hub hub := Machine.exec_run Small.secondAttempt_unswept steps
  obtain ⟨explained, -⟩ := trail_explains Small.initial run
  refine ⟨hub, attempt, run, tried, scheduled, ?_, explained.jobs 1 job _ present (by rw [completed]; rfl)⟩
  obtain ⟨stage, closing, shows_⟩ := explained.attempts 1 1 attempt tried (by rw [scheduled]; decide)
  rw [scheduled] at closing
  obtain rfl := Option.some.inj closing
  exact shows_

/-- The third lease runs out: the job is FAILED, its last attempt closed, and no event says either. -/
theorem abandoned_unexplained : ∃ hub job attempt, Hub.Reachable Small.env hub ∧
    hub.db.job 1 = some job ∧ job.status = .failed ∧ hub.db.attempt 1 3 = some attempt ∧
    attempt.status = .abandoned ∧ ¬hub.db.Shows 1 "job.failed" ∧
    ∀ e ∈ hub.db.events, e.stage ∉ ["job.completed", "job.retry_scheduled", "job.failed"] := by
  obtain ⟨hub, -, reached, shown⟩ := Small.reaches Small.abandoned
    (fun hub => (hub.db.job 1).any (fun job => job.status = .failed) &&
      (hub.db.attempt 1 3).any (fun attempt => attempt.status = .abandoned) &&
      hub.db.events.all fun e => e.stage ∉ ["job.completed", "job.retry_scheduled", "job.failed"])
    (by decide +kernel)
  simp only [Bool.and_eq_true, Option.any_eq_true, decide_eq_true_eq, List.all_eq_true] at shown
  obtain ⟨⟨⟨job, present, failed⟩, attempt, last, closed⟩, silent⟩ := shown
  refine ⟨hub, job, attempt, reached, present, failed, last, closed, ?_, silent⟩
  rintro ⟨e, member, -, staged⟩
  apply silent e member
  rw [staged]
  decide

section
variable {env : Env} {hub : Hub} {db after : Database} {id : Id} {job : ImportJob} {attempt : ImportAttempt}

/-! ### A sweep that recovers -/

theorem Recoveries.recovers {now : Timestamp} (chain : Recoveries now db after) (present : db.job id = some job)
    (processing : job.status = .processing) (current : db.attempt id job.attemptCount = some attempt)
    (released : after.job id = some (recoveredJob now job)) :
    after.attempt id job.attemptCount = some (recoveredAttempt now attempt) := by
  induction chain with
  | nil =>
    have same := congrArg ImportJob.status (Option.some.inj (present.symm.trans released))
    rw [processing, (recoveredJob_row now job).2.2.2.2.2] at same
    split at same <;> contradiction
  | @cons db after head ledger found expired rest ih =>
    by_cases mine : id = head.id
    · subst mine
      obtain rfl := Option.some.inj (found.symm.trans present)
      have closed : (recoveredDatabase now db head).attempt head.id head.attemptCount =
          some (if (head.id, head.attemptCount) = (head.id, head.attemptCount) then
            recoveredAttempt now attempt else attempt) := attempt_modify current rfl fun _ => rfl
      rw [if_pos rfl] at closed
      rcases rest.attempt_row closed with same | ⟨running, -⟩
      · exact same
      · contradiction
    · have elsewhere : (id, job.attemptCount) ≠ (head.id, head.attemptCount) :=
        fun same => mine (congrArg Prod.fst same)
      have attempts : (recoveredDatabase now db head).attempts =
        Table.modify ImportAttempt.key (head.id, head.attemptCount) (recoveredAttempt now) db.attempts := rfl
      refine ih ((recovered_job_other mine).trans present) ?_ released
      exact (attempt_modify_other attempts (fun _ => rfl) elsewhere).trans current

/-- A sweep that recovers a job closes its attempt and records nothing at all. -/
theorem recovery_unexplained {locked : List Id} {now : Timestamp} (reached : Hub.Reachable env hub)
    (present : hub.db.job id = some job) (expired : leaseExpired now job = true) (unlocked : id ∉ locked) :
    (hub.recover locked now).db.events = hub.db.events ∧
      ∃ attempt, hub.Closes (hub.recover locked now) id job.attemptCount attempt := by
  have ledger := reachable_ledger reached
  have processing := leaseExpired_processing expired
  obtain ⟨attempt, current, running⟩ := (ledger.jobs id job present).running processing
  rw [Database.findCurrentAttempt, job_id present] at current
  obtain ⟨distinct, held⟩ := recover_selected now locked ledger
  obtain ⟨after, ids, swept, chain, each, -⟩ := recoverJobs_spec ledger distinct held
  have swept' : recoverStaleImports hub.db locked now = .ok (after, ids) := swept
  have member : job ∈ hub.db.jobs.filter fun job => leaseExpired now job && !locked.contains job.id := by
    refine List.mem_filter.mpr ⟨Table.lookup_mem present, ?_⟩
    rw [job_id present]
    simp [expired, unlocked]
  have released := each job member
  rw [job_id present] at released
  have closed := chain.recovers present processing current released
  rw [Hub.recover, swept']
  refine ⟨chain.events, recoveredAttempt now attempt, closed, ?_, ?_⟩
  · simp [recoveredAttempt]
  · rw [current]
    intro same
    have status := congrArg ImportAttempt.status (Option.some.inj same)
    rw [running] at status
    contradiction

end

end SupplyChainHub
