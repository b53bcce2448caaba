import SupplyChainHub.Imports.Attempts

/-!
Retries. Messages for a job may come at any time and in any number; what keeps a worker from taking the
job up too early is `next_retry_at`, which only a later failure report may push further out.
-/

namespace SupplyChainHub

variable {env : Env} {hub next : Hub} {l : Label} {db after : Database} {id : Id} {d : Nat}
    {job row : ImportJob} {f : Timestamp}

/-- The delay after which the job may be tried again, if the step is a failure report that schedules
its retry. -/
def Hub.retryDelay (env : Env) (id : Id) (hub : Hub) : Label → Option Nat
  | .report d now =>
    match hub.deliveries[d]? with
    | some (.raised r) =>
      if r.jobId = id then
        match recordImportFailure env.settings hub.db r.jobId r.error r.workerId r.celeryTaskId now with
        | .ok (_, disposition) => disposition.retryDelaySeconds
        | .error _ => none
      else none
    | _ => none
  | _ => none

theorem calculateRetryDelay_mono (settings : Settings) {m n : Nat} (le : m ≤ n) :
    calculateRetryDelay settings m ≤ calculateRetryDelay settings n := by
  unfold calculateRetryDelay
  have powers : 2 ^ (m - 1) ≤ 2 ^ (n - 1) := Nat.pow_le_pow_right (by omega) (by omega)
  exact min_le_min_right _ (Nat.mul_le_mul_left _ powers)

theorem calculateRetryDelay_max (settings : Settings) (n : Nat) :
    calculateRetryDelay settings n ≤ settings.importRetryMaxSeconds := min_le_right _ _

theorem failure_disposition {settings : Settings} {error : Raised} {workerId : String}
    {celeryTaskId : Option String} {now : Timestamp} {disposition : FailureDisposition}
    (ledger : Ledger db) (present : db.job id = some job)
    (h : recordImportFailure settings db id error workerId celeryTaskId now = .ok (after, disposition)) :
    disposition = failureDisposition settings { job with attemptCount := max 1 job.attemptCount } error := by
  have known := ledger.jobs id job present
  rw [recordImportFailure, present] at h
  dsimp only at h
  split at h
  · contradiction
  · rename_i middle counted attempt opened
    obtain rfl := (Prod.mk.inj (Except.ok.inj h)).2
    rcases attemptToFail_ok present known opened with ⟨-, rfl, current⟩ | ⟨zero, rfl, -⟩
    · have positive : counted.attemptCount ≠ 0 := by
        intro zero
        rw [known.current_none.mpr zero] at current
        contradiction
      rw [max_eq_right (Nat.one_le_iff_ne_zero.mpr positive)]
    · rw [zero]
      rfl

theorem failureDisposition_delay {settings : Settings} {error : Raised} {delay : Nat}
    (h : (failureDisposition settings job error).retryDelaySeconds = some delay) :
    (failureDisposition settings job error).retryScheduled = true ∧
      delay = calculateRetryDelay settings job.attemptCount := by
  unfold failureDisposition at *
  dsimp only at *
  split at h
  · rename_i retries
    exact ⟨retries, (Option.some.inj h).symm⟩
  · contradiction

theorem failedJob_waits {settings : Settings} {error : Raised} {now : Timestamp}
    (queued : (failedJob settings job error now).status = .queued) :
    (failedJob settings job error now).nextRetryAt =
      some (now + seconds (calculateRetryDelay settings job.attemptCount)) := by
  unfold failedJob at *
  dsimp only at *
  split at queued
  · rename_i retries
    rw [if_pos retries]
    unfold failureDisposition at *
    dsimp only at *
    rw [if_pos retries]
    rfl
  · contradiction

/-- What a scheduled retry leaves in the job's row. -/
theorem scheduled_row (ledger : Ledger hub.db) (h : Hub.step env hub l = some next) {delay : Nat}
    (scheduled : hub.retryDelay env id l = some delay) :
    ∃ d f job row, l = .report d f ∧ hub.db.job id = some job ∧ next.db.job id = some row ∧
      row.status = .queued ∧ row.attemptCount = max 1 job.attemptCount ∧
      delay = calculateRetryDelay env.settings row.attemptCount ∧
      row.nextRetryAt = some (f + seconds delay) := by
  unfold Hub.retryDelay at scheduled
  split at scheduled
  · rename_i d f
    split at scheduled
    · rename_i r raised
      split at scheduled
      · rename_i owner
        subst owner
        split at scheduled
        · rename_i after disposition reported
          obtain ⟨job, -, -, -, present, -⟩ := failure_ok ledger reported
          have updated := failure_job ledger present reported
          rw [if_pos rfl] at updated
          have same := failure_disposition ledger present reported
          simp only [Hub.step, Hub.report, raised, reported, Option.some.injEq] at h
          subst h
          refine ⟨d, f, job, _, rfl, present, updated, ?_⟩
          rw [same] at scheduled
          obtain ⟨retries, delays⟩ := failureDisposition_delay scheduled
          obtain ⟨-, count, -, -, -, status⟩ := failedJob_row env.settings
            { job with attemptCount := max 1 job.attemptCount } r.error f
          rw [if_pos retries] at status
          refine ⟨status, count, ?_, ?_⟩
          · rw [delays, count]
          · rw [failedJob_waits status, delays]
        · contradiction
      · contradiction
    · contradiction
  · contradiction

/-! ### Until the next claim -/

/-- The job is not claimed, and no failure report reads a clock behind `f`. -/
def Unclaimed (env : Env) (id : Id) (f : Timestamp) (hub : Hub) (l : Label) : Prop :=
  hub.claims env id l = false ∧ ∀ d now, l = .report d now → f ≤ now

def unclaimedNow (env : Env) (id : Id) (f : Timestamp) (hub : Hub) (l : Label) : Bool :=
  !hub.claims env id l &&
    match l with
    | .report _ now => f ≤ now
    | _ => true

theorem unclaimedNow_sound (hub : Hub) (l : Label) (h : unclaimedNow env id f hub l = true) :
    Unclaimed env id f hub l := by
  obtain ⟨unclaimed, later⟩ := Bool.and_eq_true_iff.mp h
  refine ⟨by simpa using unclaimed, ?_⟩
  rintro d now rfl
  exact of_decide_eq_true later

/-- The job is with no worker, and if it is queued it waits out the delay. -/
def Waits (env : Env) (id : Id) (f : Timestamp) (count : Nat) (hub : Hub) : Prop :=
  ∃ job, hub.db.job id = some job ∧ count ≤ job.attemptCount ∧ job.status ≠ .processing ∧
    (job.status = .queued →
      ∃ t, job.nextRetryAt = some t ∧ f + seconds (calculateRetryDelay env.settings count) ≤ t)

theorem seconds_mono {m n : Nat} (le : m ≤ n) : seconds m ≤ seconds n := Nat.mul_le_mul_right _ le

theorem raiseAt_db {x : Delivery} {error : Raised} (h : hub.raiseAt d x error = some next) :
    next.db = hub.db := by
  obtain ⟨raised, -, rfl⟩ := Option.map_eq_some_iff.mp h
  rfl

/-- A delivery that looks at its job and does not claim it commits nothing. -/
theorem unclaimed_still {now : Timestamp} {workerId : String} {celeryTaskId : Option String}
    (h : Hub.step env hub (.claim d now) = some next)
    (received : hub.deliveries[d]? = some (.received id workerId celeryTaskId))
    (unclaimed : hub.claims env id (.claim d now) = false) : next.db = hub.db := by
  simp only [Hub.claims, received, decide_true, Bool.true_and] at unclaimed
  simp only [Hub.step, Hub.claim, received] at h
  split at h
  · exact raiseAt_db h
  · obtain rfl := Option.some.inj h
    rfl
  · rename_i claim
    rw [claim] at unclaimed
    contradiction

theorem waits_step {count : Nat} (ledger : Ledger hub.db) (waits : Waits env id f count hub)
    (met : Unclaimed env id f hub l) (h : Hub.step env hub l = some next) : Waits env id f count next := by
  obtain ⟨job, present, counted, idle, pending⟩ := waits
  obtain ⟨row, updated, change⟩ := effect_job ledger (step_effect h) present
  refine ⟨row, updated, counted.trans change.attemptCount_le, ?_⟩
  cases change with
  | kept | dispatched => exact ⟨idle, pending⟩
  | claimed received queued =>
    rw [job_id present] at received
    rw [unclaimed_still h received met.1, present] at updated
    have same := congrArg ImportJob.status (Option.some.inj updated)
    exact nomatch queued.symm.trans same
  | completed =>
    rw [complete_row]
    dsimp only
    split <;> exact ⟨nofun, nofun⟩
  | @reported d now r attemptCount raised owner same =>
    obtain ⟨-, count', -, -, -, status⟩ := failedJob_row env.settings { job with attemptCount } r.error now
    constructor
    · rw [status]
      split <;> simp
    · intro queued
      refine ⟨_, failedJob_waits queued, Nat.add_le_add (met.2 d now rfl) (seconds_mono ?_)⟩
      exact calculateRetryDelay_mono _ (counted.trans ((le_max_right 1 _).trans same.ge))
  | recovered expired => exact absurd (leaseExpired_processing expired) idle

theorem claims_due {now : Timestamp} (present : hub.db.job id = some job)
    (claims : hub.claims env id (.claim d now) = true) :
    job.status = .queued ∧ ∀ t, job.nextRetryAt = some t → t ≤ now := by
  simp only [Hub.claims] at claims
  split at claims
  · rename_i jobId workerId celeryTaskId received
    obtain ⟨owner, claims⟩ := Bool.and_eq_true_iff.mp claims
    obtain rfl : jobId = id := of_decide_eq_true owner
    split at claims
    · rename_i claim
      obtain ⟨claimed, found, queued, due, -⟩ := claim_ok claim
      obtain rfl := Option.some.inj (found.symm.trans present)
      refine ⟨queued, fun t waiting => ?_⟩
      exact due t waiting
    · simp at claims
  · contradiction

theorem waits_until {count : Nat} {now : Timestamp} (waits : Waits env id f count hub)
    (claims : hub.claims env id (.claim d now) = true) :
    f + seconds (calculateRetryDelay env.settings count) ≤ now := by
  obtain ⟨job, present, -, -, pending⟩ := waits
  obtain ⟨queued, due⟩ := claims_due present claims
  obtain ⟨t, waiting, later⟩ := pending queued
  exact later.trans (due t waiting)

/-- Attempts are only ever added. -/
theorem attemptCount_run {guard : Hub → Label → Prop} {count : Nat} {later : Hub}
    (reached : Hub.Reachable env hub) (run : Hub.Run env guard hub later)
    (counted : ∃ job, hub.db.job id = some job ∧ count ≤ job.attemptCount) :
    ∃ job, later.db.job id = some job ∧ count ≤ job.attemptCount := by
  apply run.invariant_reachable (P := fun hub => ∃ job, hub.db.job id = some job ∧ count ≤ job.attemptCount)
    ?_ reached counted
  rintro hub l next reached ⟨job, present, counted⟩ - h
  obtain ⟨row, updated, change⟩ := effect_job (reachable_ledger reached) (step_effect h) present
  exact ⟨row, updated, counted.trans change.attemptCount_le⟩

/-- A retry scheduled at `f` keeps every worker away until its delay is over, and no later retry of
the job is scheduled with a shorter one. -/
theorem backoff_respected {delay : Nat} (reached : Hub.Reachable env hub)
    (h : Hub.step env hub l = some next) (scheduled : hub.retryDelay env id l = some delay) :
    ∃ d f row, l = .report d f ∧ next.db.job id = some row ∧
      delay = calculateRetryDelay env.settings row.attemptCount ∧
      delay ≤ env.settings.importRetryMaxSeconds ∧
      (∀ later d' c, Hub.Run env (Unclaimed env id f) next later →
        later.claims env id (.claim d' c) = true → f + seconds delay ≤ c) ∧
      ∀ later l' after delay', Hub.Run env Machine.unguarded next later →
        Hub.step env later l' = some after → later.retryDelay env id l' = some delay' →
        delay ≤ delay' := by
  have reached' : Hub.Reachable env next := reached.step h
  obtain ⟨d, f, job, row, rfl, -, updated, queued, -, rfl, waiting⟩ :=
    scheduled_row (reachable_ledger reached) h scheduled
  refine ⟨d, f, row, rfl, updated, rfl, calculateRetryDelay_max _ _, ?_, ?_⟩
  · intro later d' c run claims
    have waits : Waits env id f row.attemptCount next :=
      ⟨row, updated, le_rfl, by rw [queued]; decide, fun _ => ⟨_, waiting, le_rfl⟩⟩
    have still : Waits env id f row.attemptCount later :=
      run.invariant_reachable (fun _ _ _ reached waits met h =>
        waits_step (reachable_ledger reached) waits met h) reached' waits
    exact waits_until still claims
  · intro later l' after delay' run h' scheduled'
    have reachedLater : Hub.Reachable env later := reached'.run run
    obtain ⟨failed, found, counted⟩ := attemptCount_run reached' run ⟨row, updated, le_rfl⟩
    obtain ⟨-, -, job', row', -, found', -, -, count, rfl, -⟩ :=
      scheduled_row (reachable_ledger reachedLater) h' scheduled'
    obtain rfl := Option.some.inj (found.symm.trans found')
    apply calculateRetryDelay_mono
    rw [count]
    exact counted.trans (le_max_right 1 _)

/-- After the first failure a second message comes at once and is turned away; the claim that
succeeds comes with the delay over. -/
theorem backoff_respected_first : ∃ hub next later delay, Hub.Reachable Small.env hub ∧
    Hub.step Small.env hub (.report 0 (Small.moment 5)) = some next ∧
    hub.retryDelay Small.env 1 (.report 0 (Small.moment 5)) = some delay ∧
    Hub.Run Small.env (Unclaimed Small.env 1 (Small.moment 5)) next later ∧
    later.claims Small.env 1 (.claim 2 (Small.moment 900)) = true ∧
    Small.moment 5 + seconds delay ≤ Small.moment 900 := by
  obtain ⟨hub, -, reached, shown⟩ := Small.reaches
    (Small.submitted ++ Small.claimed 0 (Small.moment 1) ++ [.raise 0 Small.connectionLost])
    (fun hub => (hub.retryDelay Small.env 1 (.report 0 (Small.moment 5))).isSome &&
      (Hub.step Small.env hub (.report 0 (Small.moment 5))).any fun next =>
        (Machine.exec (Machine.checked (Hub.step Small.env) (unclaimedNow Small.env 1 (Small.moment 5))) next
            (Small.claimed 1 (Small.moment 6) ++ [.deliver 1 "worker" none])).any
          fun later => later.claims Small.env 1 (.claim 2 (Small.moment 900)))
    (by decide +kernel)
  simp only [Option.any_eq_true, Bool.and_eq_true] at shown
  obtain ⟨schedules, next, step, later, steps, claims⟩ := shown
  obtain ⟨delay, scheduled⟩ := Option.isSome_iff_exists.mp schedules
  have run : Hub.Run Small.env (Unclaimed Small.env 1 (Small.moment 5)) next later :=
    Machine.exec_run_checked unclaimedNow_sound steps
  obtain ⟨d, f, row, same, -, -, -, waits, -⟩ := backoff_respected reached step scheduled
  obtain ⟨-, rfl⟩ := Label.report.inj same
  exact ⟨hub, next, later, delay, reached, step, scheduled, run, claims, waits later 2 _ run claims⟩

end SupplyChainHub
