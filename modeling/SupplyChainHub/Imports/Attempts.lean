import Mathlib.Data.Finset.Card
import SupplyChainHub.Imports.Changes

/-!
Attempts as the record of what was tried: how often a job can be claimed, and when a recorded
failure spends an attempt of its own.
-/

namespace SupplyChainHub

section
variable {env : Env} {hub next : Hub} {l : Label} {db after : Database} {id : Id} {n : Nat}
    {job row : ImportJob} {attempt : ImportAttempt}

/-! ### Claims -/

def Hub.claims (env : Env) (id : Id) (hub : Hub) : Label → Bool
  | .claim d now =>
    match hub.deliveries[d]? with
    | some (.received jobId workerId celeryTaskId) =>
      jobId = id &&
        match executeImportJobClaim env.settings hub.db jobId workerId celeryTaskId now with
        | .ok (some _) => true
        | _ => false
    | _ => false
  | _ => false

theorem claims_ok (counts : hub.claims env id l = true) (h : Hub.step env hub l = some next) :
    ∃ workerId celeryTaskId now session,
      executeImportJobClaim env.settings hub.db id workerId celeryTaskId now = .ok (some (next.db, session)) := by
  cases l with
  | claim d now =>
    simp only [Hub.claims] at counts
    split at counts
    · rename_i jobId workerId celeryTaskId present
      simp only [Bool.and_eq_true, decide_eq_true_eq] at counts
      obtain ⟨rfl, counts⟩ := counts
      split at counts
      · rename_i claim
        simp only [Hub.step, Hub.claim, present, claim, Option.some.injEq] at h
        subst h
        exact ⟨workerId, celeryTaskId, now, _, claim⟩
      · contradiction
    · contradiction
  | _ => contradiction

def attemptCountOf (db : Database) (id : Id) : Nat := ((db.job id).map (·.attemptCount)).getD 0

theorem attemptCountOf_present (present : db.job id = some job) : attemptCountOf db id = job.attemptCount := by
  simp [attemptCountOf, present]

theorem JobChange.attemptCount_le (change : JobChange env hub job l row) :
    job.attemptCount ≤ row.attemptCount := by
  cases change with
  | kept | dispatched => exact le_rfl
  | claimed => exact Nat.le_succ _
  | completed => simp [complete_row]
  | reported _ _ counted =>
    rw [(failedJob_row _ _ _ _).2.1]
    exact (le_max_right 1 job.attemptCount).trans counted.ge
  | recovered => exact (recoveredJob_row _ _).2.1.ge

theorem claim_raises (ledger : Ledger hub.db) (h : Hub.step env hub l = some next) :
    attemptCountOf hub.db id + (hub.claims env id l).toNat ≤ attemptCountOf next.db id := by
  cases counts : hub.claims env id l with
  | true =>
    obtain ⟨workerId, celeryTaskId, now, session, claim⟩ := claims_ok counts h
    obtain ⟨job, present, -, -, -, rfl, same⟩ := claim_ok claim
    have owner : job.id = id := job_id present
    have updated : next.db.job id =
        some (if id = id then claimedJob env.settings job workerId now else job) :=
      job_modify present (congrArg Database.jobs same) fun _ _ => owner
    rw [if_pos rfl] at updated
    rw [attemptCountOf_present present, attemptCountOf_present updated]
    rfl
  | false =>
    cases present : hub.db.job id with
    | none => simp [attemptCountOf, present]
    | some job =>
      obtain ⟨row, updated, change⟩ := effect_job ledger (step_effect h) present
      rw [attemptCountOf_present present, attemptCountOf_present updated]
      exact change.attemptCount_le

theorem claim_succeeds {settings : Settings} (ledger : Ledger db) (present : db.job id = some job)
    (workerId : String) (celeryTaskId : Option String) (now : Timestamp) :
    ∃ result, executeImportJobClaim settings db id workerId celeryTaskId now = .ok result := by
  have known := ledger.jobs id job present
  have absent : db.attempt job.id (job.attemptCount + 1) = none :=
    known.attempt_absent (.inr (Nat.lt_succ_self _))
  simp only [executeImportJobClaim, present]
  split
  · exact ⟨_, rfl⟩
  · split
    · exact ⟨_, rfl⟩
    · have free : (db.modifyJob id fun _ => (claimSession settings job workerId celeryTaskId now).job).attempt
          (claimSession settings job workerId celeryTaskId now).attempt.importJobId
          (claimSession settings job workerId celeryTaskId now).attempt.attemptNumber = none := absent
      simp only [Database.insertAttempt, free]
      exact ⟨_, rfl⟩

theorem failure_succeeds {settings : Settings} (ledger : Ledger db) (present : db.job id = some job)
    (error : Raised) (workerId : String) (celeryTaskId : Option String) (now : Timestamp) :
    ∃ result, recordImportFailure settings db id error workerId celeryTaskId now = .ok result := by
  have known := ledger.jobs id job present
  simp only [recordImportFailure, present, attemptToFail]
  cases current : db.findCurrentAttempt job with
  | some attempt => exact ⟨_, rfl⟩
  | none =>
    have absent : db.attempt job.id (job.attemptCount + 1) = none :=
      known.attempt_absent (.inr (Nat.lt_succ_self _))
    simp only [Database.insertAttempt, openAttempt, absent]
    exact ⟨_, rfl⟩

/-- The attempt ledger, in every state any interleaving reaches. -/
theorem attempts_numbered (reached : Hub.Reachable env hub) (present : hub.db.job id = some job) :
    hub.db.attemptNumbers id = List.range' 1 job.attemptCount ∧
      job.attemptCount ≤ job.maxAttempts ∧
      (job.status = .queued → job.attemptCount < job.maxAttempts) ∧
      (∀ workerId celeryTaskId now, ∃ result,
        executeImportJobClaim env.settings hub.db id workerId celeryTaskId now = .ok result) ∧
      (∀ error workerId celeryTaskId now, ∃ result,
        recordImportFailure env.settings hub.db id error workerId celeryTaskId now = .ok result) ∧
      ∀ start claims, Hub.Initial start →
        Machine.Tally (Hub.step env) Machine.unguarded (Hub.claims env id) start claims hub →
        claims ≤ job.maxAttempts := by
  have ledger := reachable_ledger reached
  have known := ledger.jobs id job present
  have owner : job.id = id := job_id present
  refine ⟨?_, known.bounded, known.queued, claim_succeeds ledger present,
    failure_succeeds ledger present, ?_⟩
  · rw [← owner]
    exact known.numbers
  · intro start claims begins tally
    have raises (s : Hub) (l : Label) (t : Hub) (reached : Hub.Reachable env s) (_ : Machine.unguarded s l)
        (next : Hub.step env s l = some t) :
        attemptCountOf s.db id + (s.claims env id l).toNat ≤ attemptCountOf t.db id :=
      claim_raises (reachable_ledger reached) next
    have counted := tally.bound (m := fun hub => attemptCountOf hub.db id) raises (.start begins)
    rw [attemptCountOf_present present] at counted
    have bounded := known.bounded
    omega

/-- A job its worker holds: one attempt, numbered 1, of the three it may use. -/
theorem attempts_numbered_claimed : ∃ hub job, Hub.Reachable Small.env hub ∧ hub.db.job 1 = some job ∧
    job.status = .processing ∧ job.attemptCount = 1 ∧ hub.db.attemptNumbers 1 = List.range' 1 1 := by
  obtain ⟨hub, -, reached, shown⟩ := Small.reaches (Small.submitted ++ Small.claimed 0 (Small.moment 1))
    (fun hub => (hub.db.job 1).any fun job => job.status = .processing && job.attemptCount = 1)
    (by decide +kernel)
  obtain ⟨job, present, facts⟩ := (Option.any_eq_true _ _).mp shown
  simp only [Bool.and_eq_true, decide_eq_true_eq] at facts
  obtain ⟨numbers, -⟩ := attempts_numbered reached present
  rw [facts.2] at numbers
  exact ⟨hub, job, reached, present, facts.1, facts.2, numbers⟩

/-! ### Recorded failures -/

theorem Ledger.owner (ledger : Ledger db) (present : db.attempt id n = some attempt) :
    ∃ job, db.job id = some job := by
  refine Option.ne_none_iff_exists'.mp fun absent => ?_
  have numbered : n ∈ db.attemptNumbers id := attempt_isSome.mp (by simp [present])
  rw [ledger.orphans id absent] at numbered
  contradiction

theorem JobLedger.current_max (known : JobLedger db job) :
    db.attempt job.id (max 1 job.attemptCount) = db.findCurrentAttempt job := by
  rcases Nat.eq_zero_or_pos job.attemptCount with zero | positive
  · rw [known.current_none.mpr zero, zero]
    exact known.attempt_absent (.inr (by omega))
  · rw [max_eq_right positive]
    rfl

theorem failure_attempts {settings : Settings} {error : Raised} {workerId : String}
    {celeryTaskId : Option String} {now : Timestamp} {disposition : FailureDisposition}
    (ledger : Ledger db) (present : db.job id = some job)
    (h : recordImportFailure settings db id error workerId celeryTaskId now = .ok (after, disposition)) :
    (∃ row, after.attempt id (max 1 job.attemptCount) = some row ∧
      (row.status = .retryScheduled ∨ row.status = .failed)) ∧
    ∀ other m, (other, m) ≠ (id, max 1 job.attemptCount) →
      after.attempt other m = db.attempt other m := by
  obtain ⟨failed, counted, middle, attempt, found, opened, rfl⟩ := failure_ok ledger h
  obtain rfl := Option.some.inj (found.symm.trans present)
  have owner : failed.id = id := job_id found
  have known := ledger.jobs id failed found
  have held : counted.attemptCount = max 1 failed.attemptCount ∧
      middle.attempt id (max 1 failed.attemptCount) = some attempt ∧
      ∀ other m, (other, m) ≠ (id, max 1 failed.attemptCount) →
        middle.attempt other m = db.attempt other m := by
    rcases opened with ⟨rfl, rfl, current⟩ | ⟨zero, rfl, rfl, absent, rfl⟩
    · have number := known.current_max
      rw [current, owner] at number
      have positive : counted.attemptCount ≠ 0 := by
        intro zero
        rw [known.current_none.mpr zero] at current
        contradiction
      exact ⟨(max_eq_right (Nat.one_le_iff_ne_zero.mpr positive)).symm, number, fun _ _ _ => rfl⟩
    · rw [zero]
      refine ⟨rfl, attempt_append_new rfl absent (congrArg (·, 1) owner), fun other m different => ?_⟩
      refine attempt_append rfl fun same => different (same.symm.trans (congrArg (·, 1) owner))
  obtain ⟨number, current, others⟩ := held
  have attempts : (((middle.modifyJob id fun _ => failedJob settings counted error now).modifyAttempt id
      counted.attemptCount (failedAttempt settings counted error now)).addEvents
        [failureEvent settings counted error now]).attempts =
    Table.modify ImportAttempt.key (id, max 1 failed.attemptCount)
      (failedAttempt settings counted error now) middle.attempts := by
    rw [← number]
    rfl
  refine ⟨⟨failedAttempt settings counted error now attempt, ?_, ?_⟩, ?_⟩
  · rw [attempt_modify_self attempts fun _ => rfl, current]
    rfl
  · simp only [failedAttempt]
    split
    · exact .inl rfl
    · exact .inr rfl
  · intro other m different
    rw [attempt_modify_other attempts (fun _ => rfl) different]
    exact others other m different

/-- One attempt is closed that was running, or that did not exist, and no other is touched. -/
def SpendsAttempt (db after : Database) (id : Id) : Prop :=
  ∃ n row, after.attempt id n = some row ∧ row.status ≠ .running ∧
    (∀ attempt, db.attempt id n = some attempt → attempt.status = .running) ∧
    ∀ other m, (other, m) ≠ (id, n) → after.attempt other m = db.attempt other m

theorem failure_spends_iff {settings : Settings} {error : Raised} {workerId : String}
    {celeryTaskId : Option String} {now : Timestamp} {disposition : FailureDisposition}
    (ledger : Ledger db) (present : db.job id = some job)
    (h : recordImportFailure settings db id error workerId celeryTaskId now = .ok (after, disposition)) :
    SpendsAttempt db after id ↔
      ∀ attempt, db.findCurrentAttempt job = some attempt → attempt.status = .running := by
  obtain ⟨⟨row, closed, status⟩, others⟩ := failure_attempts ledger present h
  have owner : job.id = id := job_id present
  have current := (ledger.jobs id job present).current_max
  rw [owner] at current
  have ended : row.status ≠ .running := by
    rcases status with status | status <;> simp [status]
  constructor
  · rintro ⟨n, spent, found, shut, before, -⟩ attempt held
    by_cases same : n = max 1 job.attemptCount
    · exact before attempt (by rw [same, current, held])
    · -- An attempt the report left alone was already closed.
      have untouched := others id n fun equal => same (congrArg Prod.snd equal)
      exact absurd (before spent (untouched.symm.trans found)) shut
  · intro running
    exact ⟨_, row, closed, ended, fun attempt held => running attempt (current.symm.trans held), others⟩

/-- What a failure report or a completing commit is about to close is still running. -/
def ClosesRunning (hub : Hub) : Label → Prop
  | .report d _ => ∀ r job attempt, hub.deliveries[d]? = some (.raised r) →
    hub.db.job r.jobId = some job → hub.db.findCurrentAttempt job = some attempt → attempt.status = .running
  | .complete d _ => ∀ a rejected attempt, hub.deliveries[d]? = some (.closing a rejected) →
    hub.db.attempt a.job.id a.job.attemptCount = some attempt → attempt.status = .running
  | _ => True

theorem closed_step (ledger : Ledger hub.db) (met : ClosesRunning hub l) (h : Hub.step env hub l = some next)
    (present : hub.db.attempt id n = some attempt) (closed : attempt.status ≠ .running) :
    next.db.attempt id n = some attempt := by
  obtain ⟨job, owned⟩ := ledger.owner present
  have key : attempt.key = (id, n) := Table.lookup_key present
  obtain ⟨row, found, change⟩ := effect_attempt ledger (step_effect h) owned present
  cases change with
  | kept => exact found
  | completed closing owner =>
    rename_i a rejected
    have mine : (a.job.id, a.job.attemptCount) = (id, n) := (a.current.symm.trans owner).trans key
    obtain ⟨rfl, rfl⟩ := Prod.mk.inj mine
    exact absurd (met _ _ _ closing present) closed
  | reported raised owner =>
    obtain ⟨rfl, rfl⟩ := Prod.mk.inj (key.symm.trans owner)
    have current : hub.db.findCurrentAttempt job = some attempt := by
      rw [Database.findCurrentAttempt, job_id owned]
      exact present
    exact absurd (met _ _ _ raised owned current) closed
  | recovered running => exact absurd running closed

theorem closed_run (run : Hub.Run env ClosesRunning hub next) (reached : Hub.Reachable env hub)
    (present : hub.db.attempt id n = some attempt) (closed : attempt.status ≠ .running) :
    next.db.attempt id n = some attempt :=
  run.invariant_reachable (P := fun hub => hub.db.attempt id n = some attempt)
    (fun _ _ _ reached found met step => closed_step (reachable_ledger reached) met step found closed)
    reached present

def Hub.fails (env : Env) (id : Id) (hub : Hub) : Label → Bool
  | .report d now =>
    match hub.deliveries[d]? with
    | some (.raised r) =>
      r.jobId = id &&
        (recordImportFailure env.settings hub.db r.jobId r.error r.workerId r.celeryTaskId now).isOk
    | _ => false
  | _ => false

theorem fails_ok (fails : hub.fails env id l = true) (h : Hub.step env hub l = some next) :
    ∃ d now r disposition, l = .report d now ∧ hub.deliveries[d]? = some (.raised r) ∧ r.jobId = id ∧
      recordImportFailure env.settings hub.db id r.error r.workerId r.celeryTaskId now =
        .ok (next.db, disposition) := by
  cases l with
  | report d now =>
    simp only [Hub.fails] at fails
    split at fails
    · rename_i r present
      simp only [Bool.and_eq_true, decide_eq_true_eq] at fails
      obtain ⟨rfl, succeeds⟩ := fails
      simp only [Hub.step, Hub.report, present] at h
      split at h
      · rename_i raised
        rw [raised] at succeeds
        contradiction
      · rename_i reported
        cases h
        exact ⟨d, now, r, _, rfl, present, rfl, reported⟩
    · contradiction
  | _ => contradiction

def failedNumbers (db : Database) (id : Id) : Finset Nat :=
  (db.attemptNumbers id).toFinset.filter fun n =>
    (db.attempt id n).any fun a => a.status = .retryScheduled || a.status = .failed

theorem mem_failedNumbers : n ∈ failedNumbers db id ↔
    ∃ attempt, db.attempt id n = some attempt ∧
      (attempt.status = .retryScheduled ∨ attempt.status = .failed) := by
  simp only [failedNumbers, Finset.mem_filter, List.mem_toFinset, ← attempt_isSome, Option.any_eq_true,
    Bool.or_eq_true, decide_eq_true_eq]
  constructor
  · rintro ⟨-, attempt, present, failed⟩
    exact ⟨attempt, present, failed⟩
  · rintro ⟨attempt, present, failed⟩
    exact ⟨by simp [present], attempt, present, failed⟩

theorem failedNumbers_card (ledger : Ledger db) (present : db.job id = some job) :
    (failedNumbers db id).card ≤ job.attemptCount := by
  have owner : job.id = id := job_id present
  have numbers := (ledger.jobs id job present).numbers
  rw [owner] at numbers
  calc (failedNumbers db id).card
      ≤ (db.attemptNumbers id).toFinset.card := Finset.card_filter_le _ _
    _ ≤ (db.attemptNumbers id).length := List.toFinset_card_le _
    _ = job.attemptCount := by rw [numbers, List.length_range']

theorem failure_raises (ledger : Ledger hub.db) (met : ClosesRunning hub l)
    (h : Hub.step env hub l = some next) :
    (failedNumbers hub.db id).card + (hub.fails env id l).toNat ≤ (failedNumbers next.db id).card := by
  have kept : failedNumbers hub.db id ⊆ failedNumbers next.db id := by
    intro n member
    obtain ⟨attempt, present, failed⟩ := mem_failedNumbers.mp member
    have closed : attempt.status ≠ .running := by
      rcases failed with failed | failed <;> simp [failed]
    exact mem_failedNumbers.mpr ⟨attempt, closed_step ledger met h present closed, failed⟩
  cases fails : hub.fails env id l with
  | false => exact Finset.card_le_card kept
  | true =>
    obtain ⟨d, now, r, disposition, rfl, raised, rfl, reported⟩ := fails_ok fails h
    obtain ⟨job, -, -, -, present, -⟩ := failure_ok ledger reported
    obtain ⟨⟨row, closed, failed⟩, -⟩ := failure_attempts ledger present reported
    have current := (ledger.jobs _ _ present).current_max
    rw [job_id present] at current
    refine Finset.card_lt_card (Finset.ssubset_iff_of_subset kept |>.mpr ⟨max 1 job.attemptCount,
      mem_failedNumbers.mpr ⟨row, closed, failed⟩, fun before => ?_⟩)
    obtain ⟨attempt, held, shut⟩ := mem_failedNumbers.mp before
    have running := met r job attempt raised present (current.symm.trans held)
    rcases shut with shut | shut <;> simp [running] at shut

/-- Each failure report spends an attempt exactly when the current one is running or missing. In a run
whose reports and completions meet that, closed attempts stay as they are and a job has no more
recorded failures than attempts. -/
theorem failures_spend_attempts (reached : Hub.Reachable env hub) :
    (∀ id job error workerId celeryTaskId now after disposition, hub.db.job id = some job →
      recordImportFailure env.settings hub.db id error workerId celeryTaskId now = .ok (after, disposition) →
      (SpendsAttempt hub.db after id ↔
        ∀ attempt, hub.db.findCurrentAttempt job = some attempt → attempt.status = .running)) ∧
    (∀ next id n attempt, Hub.Run env ClosesRunning hub next → hub.db.attempt id n = some attempt →
      attempt.status ≠ .running → next.db.attempt id n = some attempt) ∧
    ∀ start id job failures, Hub.Initial start →
      Machine.Tally (Hub.step env) ClosesRunning (Hub.fails env id) start failures hub →
      hub.db.job id = some job → failures ≤ job.maxAttempts := by
  refine ⟨?_, ?_, ?_⟩
  · intro id job error workerId celeryTaskId now after disposition present reported
    exact failure_spends_iff (reachable_ledger reached) present reported
  · intro next id n attempt run present closed
    exact closed_run run reached present closed
  · intro start id job failures begins tally present
    have ledger := reachable_ledger reached
    have raises (s : Hub) (l : Label) (t : Hub) (reached : Hub.Reachable env s) (met : ClosesRunning s l)
        (next : Hub.step env s l = some t) :
        (failedNumbers s.db id).card + (s.fails env id l).toNat ≤ (failedNumbers t.db id).card :=
      failure_raises (reachable_ledger reached) met next
    have counted := tally.bound (m := fun hub => (failedNumbers hub.db id).card) raises (.start begins)
    have spent := failedNumbers_card ledger present
    have bounded := (ledger.jobs id job present).bounded
    omega

/-- The first delivery of a job loses its connection before it claims: the report opens attempt 1 and
closes it. -/
theorem failures_spend_attempts_first : ∃ hub next, Hub.Reachable Small.env hub ∧
    Hub.step Small.env hub (.report 0 (Small.moment 1)) = some next ∧ SpendsAttempt hub.db next.db 1 := by
  obtain ⟨hub, -, reached, shown⟩ := Small.reaches
    (Small.submitted ++ [.deliver 1 "worker" none, .raise 0 Small.connectionLost])
    (fun hub => hub.fails Small.env 1 (.report 0 (Small.moment 1)) &&
      (Hub.step Small.env hub (.report 0 (Small.moment 1))).isSome &&
      (hub.db.job 1).any fun job => (hub.db.findCurrentAttempt job).isNone)
    (by decide +kernel)
  simp only [Bool.and_eq_true, Option.any_eq_true] at shown
  obtain ⟨⟨fails, moves⟩, job, present, missing⟩ := shown
  obtain ⟨next, step⟩ := Option.isSome_iff_exists.mp moves
  obtain ⟨d, now, r, disposition, -, -, -, reported⟩ := fails_ok fails step
  have spends := (failures_spend_attempts reached).1 _ _ _ _ _ _ _ _ present reported
  refine ⟨hub, next, reached, step, spends.mpr fun attempt held => ?_⟩
  rw [held] at missing
  contradiction

/-- The next delivery loses its connection too. Its report finds attempt 1, closed and still current,
and writes over it: no attempt is spent. -/
theorem second_preclaim_failure_rewrites : ∃ hub next attempt row, Hub.Reachable Small.env hub ∧
    Hub.step Small.env hub (.report 1 (Small.moment 9)) = some next ∧
    hub.db.attempt 1 1 = some attempt ∧ attempt.status = .retryScheduled ∧
    next.db.attempt 1 1 = some row ∧ row ≠ attempt ∧ ¬SpendsAttempt hub.db next.db 1 := by
  obtain ⟨hub, -, reached, shown⟩ := Small.reaches
    (Small.submitted ++ [.deliver 1 "worker" none] ++ Small.failed 0 (Small.moment 1) ++
      [.deliver 1 "worker" none, .raise 1 Small.connectionLost])
    (fun hub => hub.fails Small.env 1 (.report 1 (Small.moment 9)) &&
      (Hub.step Small.env hub (.report 1 (Small.moment 9))).any fun next =>
        (hub.db.job 1).any fun job => (hub.db.findCurrentAttempt job).any fun attempt =>
          hub.db.attempt 1 1 = some attempt && attempt.status = .retryScheduled &&
            (next.db.attempt 1 1).any fun row => row ≠ attempt)
    (by decide +kernel)
  simp only [Bool.and_eq_true, Option.any_eq_true, decide_eq_true_eq] at shown
  obtain ⟨fails, next, step, job, present, attempt, current, ⟨held, closed⟩, row, found, changed⟩ := shown
  obtain ⟨d, now, r, disposition, -, -, -, reported⟩ := fails_ok fails step
  refine ⟨hub, next, attempt, row, reached, step, held, closed, found, changed, ?_⟩
  rw [failure_spends_iff (reachable_ledger reached) present reported]
  intro running
  have open_ := running attempt current
  rw [closed] at open_
  contradiction

end

end SupplyChainHub
