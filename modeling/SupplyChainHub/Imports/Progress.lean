import SupplyChainHub.Imports.Attempts
import SupplyChainHub.Imports.Recovery

/-!
Every job comes to an end. Workers may hang, die or fail at any step, and deliveries may be doubled or late. As long
as the sweep and the broker come around, each round spends one of the job's attempts.
-/

namespace SupplyChainHub

/-- The job is through: completed, with errors or without, or failed. -/
def Hub.Finished (id : Id) (hub : Hub) : Prop := ∃ job, hub.db.job id = some job ∧ job.status.terminal = true

/-- The sweep comes after the job's lease, if it has one. -/
def Hub.Overdue (hub : Hub) (id : Id) (now : Timestamp) : Prop :=
  ∀ job lease, hub.db.job id = some job → job.leaseExpiresAt = some lease → lease < now

/-- A delivery of the job is claimed, no sooner than the job is to be retried. -/
def Hub.Due (hub : Hub) (id : Id) (d : Nat) (now : Timestamp) : Prop :=
  (∃ workerId celeryTaskId, hub.deliveries[d]? = some (.received id workerId celeryTaskId)) ∧
    ∀ job retry, hub.db.job id = some job → job.nextRetryAt = some retry → retry ≤ now

/-- Among whatever else happens, a sweep that is not kept from the job and then a delivery of it. -/
structure Round (env : Env) (id : Id) (hub last : Hub) : Prop where
  steps : ∃ (s s' mid t t' : Hub) (locked : List Id) (d : Nat) (swept claimed : Timestamp),
    Machine.Through (Hub.step env) Machine.unguarded hub s (.recover locked swept) s' mid ∧
    id ∉ locked ∧ s.Overdue id swept ∧
    Machine.Through (Hub.step env) Machine.unguarded mid t (.claim d claimed) t' last ∧ t.Due id d claimed

section
variable {env : Env} {hub next last : Hub} {l : Label} {id : Id} {job row : ImportJob}

theorem JobChange.maxAttempts (change : JobChange env hub job l row) : row.maxAttempts = job.maxAttempts := by
  cases change with
  | kept | dispatched | claimed => rfl
  | completed => simp [complete_row]
  | reported => exact (failedJob_row _ _ _ _).2.2.1
  | recovered => exact (recoveredJob_row _ _).2.2.1

/-- A job is taken up again with a new attempt only. -/
theorem JobChange.processing (change : JobChange env hub job l row) (taken : row.status = .processing) :
    job.status = .processing ∨ job.attemptCount < row.attemptCount := by
  cases change with
  | kept | dispatched => exact .inl taken
  | claimed => exact .inr (Nat.lt_succ_self _)
  | completed =>
    rw [complete_row] at taken
    dsimp only at taken
    split at taken <;> contradiction
  | reported =>
    rw [(failedJob_row _ _ _ _).2.2.2.2.2] at taken
    split at taken <;> contradiction
  | recovered =>
    rw [(recoveredJob_row _ _).2.2.2.2.2] at taken
    split at taken <;> contradiction

/-- From a job that nobody works on: it is still with nobody, or an attempt was spent. -/
structure Moved (id : Id) (job : ImportJob) (hub : Hub) (row : ImportJob) : Prop where
  present : hub.db.job id = some row
  maxAttempts : row.maxAttempts = job.maxAttempts
  attempts : job.attemptCount ≤ row.attemptCount
  spent : row.status = .processing → job.attemptCount < row.attemptCount

theorem Moved.step (moved : Moved id job hub row) (ledger : Ledger hub.db) (h : Hub.step env hub l = some next) :
    ∃ later, Moved id job next later := by
  obtain ⟨later, updated, change⟩ := effect_job ledger (step_effect h) moved.present
  have more := change.attemptCount_le
  have before := moved.attempts
  refine ⟨later, updated, change.maxAttempts.trans moved.maxAttempts, by omega, ?_⟩
  intro taken
  rcases change.processing taken with already | spent
  · have earlier := moved.spent already
    omega
  · omega

theorem Moved.run (moved : Moved id job hub row) (reached : Hub.Reachable env hub)
    (run : Hub.Run env Machine.unguarded hub next) : ∃ later, Moved id job next later := by
  refine run.invariant_reachable (P := fun hub => ∃ row, Moved id job hub row) ?_ reached ⟨row, moved⟩
  rintro s l t reached ⟨row, moved⟩ - step
  exact moved.step (reachable_ledger reached) step

/-- Whatever happens to a job in a run, its attempts do not go back. -/
theorem job_run (reached : Hub.Reachable env hub) (present : hub.db.job id = some job)
    (run : Hub.Run env Machine.unguarded hub next) : ∃ row, next.db.job id = some row ∧
      row.maxAttempts = job.maxAttempts ∧ job.attemptCount ≤ row.attemptCount := by
  refine run.invariant_reachable (P := fun hub => ∃ row, hub.db.job id = some row ∧
    row.maxAttempts = job.maxAttempts ∧ job.attemptCount ≤ row.attemptCount) ?_ reached ⟨job, present, rfl, le_rfl⟩
  rintro s l t reached ⟨row, found, most, attempts⟩ - step
  obtain ⟨later, updated, change⟩ := effect_job (reachable_ledger reached) (step_effect step) found
  exact ⟨later, updated, change.maxAttempts.trans most, attempts.trans change.attemptCount_le⟩

/-- The sweep takes an overdue job from whoever has it. -/
theorem sweep_moved {locked : List Id} {now : Timestamp} (reached : Hub.Reachable env hub)
    (present : hub.db.job id = some job) (unlocked : id ∉ locked) (overdue : hub.Overdue id now)
    (h : Hub.step env hub (.recover locked now) = some next) : ∃ row, Moved id job next row := by
  have ledger := reachable_ledger reached
  have owner : job.id = id := job_id present
  have known := ledger.jobs id job present
  obtain ⟨row, updated, change⟩ := effect_job ledger (step_effect h) present
  refine ⟨row, updated, change.maxAttempts, change.attemptCount_le, ?_⟩
  intro taken
  rcases change.processing taken with held | spent
  · -- A job that is still processing was not swept, but its lease is over.
    obtain ⟨lease, leased⟩ := Option.isSome_iff_exists.mp (known.leased.mp held)
    have expired : leaseExpired now job = true := by
      simp [leaseExpired, held, leased, overdue job lease present leased]
    obtain ⟨distinct, holds⟩ := recover_selected now locked ledger
    obtain ⟨after, ids, swept, -, each, -⟩ := recoverJobs_spec ledger distinct holds
    have same : next.db = after := by
      simp only [Hub.step, Hub.recover, recoverStaleImports, swept, Option.some.injEq] at h
      rw [← h]
    have chosen : job ∈ hub.db.jobs.filter fun job => leaseExpired now job && !locked.contains job.id := by
      refine List.mem_filter.mpr ⟨Table.lookup_mem present, ?_⟩
      simp [expired, owner, unlocked]
    have recovered := each job chosen
    rw [owner, ← same, updated] at recovered
    rw [Option.some.inj recovered, (recoveredJob_row _ _).2.2.2.2.2] at taken
    split at taken <;> contradiction
  · exact spent

/-- A due delivery of a queued job spends an attempt. -/
theorem claim_spends {d : Nat} {now : Timestamp} (reached : Hub.Reachable env hub)
    (present : hub.db.job id = some job) (queued : job.status = .queued) (due : hub.Due id d now)
    (h : Hub.step env hub (.claim d now) = some next) :
    ∃ row, next.db.job id = some row ∧ job.attemptCount < row.attemptCount := by
  obtain ⟨⟨workerId, celeryTaskId, received⟩, retried⟩ := due
  have ledger := reachable_ledger reached
  have owner : job.id = id := job_id present
  have answers : ∃ result, executeImportJobClaim env.settings hub.db id workerId celeryTaskId now = .ok result :=
    claim_succeeds ledger present workerId celeryTaskId now
  obtain ⟨result, claim⟩ := answers
  have claimed : result ≠ none := by
    rintro rfl
    have ready : job.nextRetryAt.any (now < ·) = false := by
      cases retry : job.nextRetryAt with
      | none => rfl
      | some at? => simp [not_lt.mpr (retried job at? present retry)]
    unfold executeImportJobClaim at claim
    simp only [present, queued, ready, ne_eq, not_true_eq_false, Bool.false_eq_true, if_false] at claim
    split at claim <;> simp at claim
  obtain ⟨session, rfl⟩ := Option.ne_none_iff_exists'.mp claimed
  have counts : hub.claims env id (.claim d now) = true := by simp [Hub.claims, received, claim]
  obtain ⟨row, updated, -⟩ := effect_job ledger (step_effect h) present
  have raised : attemptCountOf hub.db id + (hub.claims env id (.claim d now)).toNat ≤ attemptCountOf next.db id :=
    claim_raises ledger h
  rw [counts, attemptCountOf_present present, attemptCountOf_present updated] at raised
  exact ⟨row, updated, raised⟩

/-- The attempts a job has left. -/
def attemptsLeft (id : Id) (hub : Hub) : Nat :=
  ((hub.db.job id).map fun job => job.maxAttempts - job.attemptCount).getD 0

theorem attemptsLeft_present (present : hub.db.job id = some job) :
    attemptsLeft id hub = job.maxAttempts - job.attemptCount := by
  simp [attemptsLeft, present]

theorem round_run (round : Round env id hub last) : Hub.Run env Machine.unguarded hub last := by
  obtain ⟨s, s', mid, t, t', locked, d, swept, claimed, sweep, -, -, claim, -⟩ := round.steps
  exact ((sweep.before.tail sweep.met sweep.next).trans sweep.after).trans
    ((claim.before.tail claim.met claim.next).trans claim.after)

/-- A round finds the job finished or spends one of its attempts. -/
theorem round_progress (reached : Hub.Reachable env hub) (present : hub.db.job id = some job)
    (round : Round env id hub last) :
    Machine.Passes (Hub.step env) (Hub.Finished id) hub last ∨ attemptsLeft id last < attemptsLeft id hub := by
  have whole := round_run round
  obtain ⟨s, s', mid, t, t', locked, d, swept, claimed, sweep, unlocked, overdue, claim, due⟩ := round.steps
  have reachedS := reached.run sweep.before
  have reachedS' := reachedS.step sweep.next
  have between := sweep.after.trans claim.before
  have reachedT := reachedS'.run between
  obtain ⟨before, foundS, mostS, attemptsS⟩ := job_run reached present sweep.before
  obtain ⟨released, moved⟩ := sweep_moved reachedS foundS unlocked overdue sweep.next
  obtain ⟨row, later⟩ := moved.run reachedS' between
  by_cases finished : row.status.terminal = true
  · left
    exact ⟨t, (sweep.before.tail sweep.met sweep.next).trans between, ⟨row, later.present, finished⟩,
      (Machine.Run.single claim.met claim.next).trans claim.after⟩
  · right
    have spent : ∃ after, t'.db.job id = some after ∧ before.attemptCount < after.attemptCount := by
      cases status : row.status with
      | queued =>
        obtain ⟨after, found, more⟩ := claim_spends reachedT later.present status due claim.next
        exact ⟨after, found, later.attempts.trans_lt more⟩
      | processing =>
        -- Another delivery was first, and spent the attempt.
        obtain ⟨after, found, -, more⟩ := job_run reachedT later.present (.single claim.met claim.next)
        exact ⟨after, found, (later.spent status).trans_le more⟩
      | completed | completedWithErrors | failed =>
        rw [status] at finished
        exact absurd rfl finished
    obtain ⟨after, foundT', attemptsT'⟩ := spent
    have reachedT' := reachedT.step claim.next
    obtain ⟨final, found, -, attempts⟩ := job_run reachedT' foundT' claim.after
    obtain ⟨same, foundLast, most, -⟩ := job_run reached present whole
    obtain rfl := Option.some.inj (foundLast.symm.trans found)
    have bounded := ((reachable_ledger (reached.run whole)).jobs id same found).bounded
    rw [attemptsLeft_present present, attemptsLeft_present found]
    omega

/-- A job that is swept and delivered in more rounds than it has attempts left is finished on the way,
whatever its workers do in the meantime. -/
theorem swept_jobs_finish {n : Nat} (reached : Hub.Reachable env hub) (present : hub.db.job id = some job)
    (rounds : Machine.Rounds (Round env id) n hub last) (enough : job.maxAttempts - job.attemptCount < n) :
    Machine.Passes (Hub.step env) (Hub.Finished id) hub last := by
  refine rounds.passes (Q := fun hub => Hub.Reachable env hub ∧ ∃ job, hub.db.job id = some job)
    (m := attemptsLeft id) (fun s t => round_run) ?_ ?_ ⟨reached, job, present⟩ ?_
  · rintro s t ⟨reached, job, present⟩ round
    obtain ⟨row, found, -⟩ := job_run reached present (round_run round)
    exact ⟨reached.run (round_run round), row, found⟩
  · rintro s t ⟨reached, job, present⟩ round
    exact round_progress reached present round
  · rw [attemptsLeft_present present]
    exact enough

end

namespace Small

/-- A sweep, a delivery and a worker that claims the job and is not heard of again. -/
def abandon (now : Timestamp) (hub : Hub) : Option Hub :=
  if (hub.db.job 1).all fun job => job.leaseExpiresAt.all (· < now) then
    (Hub.step env hub (.recover [] now)).bind fun swept =>
      if (swept.db.job 1).all fun job => job.nextRetryAt.all (· ≤ now) then
        Machine.exec (Hub.step env) swept [.deliver 1 "worker" none, .claim swept.deliveries.length now]
      else none
  else none

theorem abandon_round {now : Timestamp} {hub next : Hub} (h : abandon now hub = some next) : Round env 1 hub next := by
  unfold abandon at h
  split at h
  · rename_i overdue
    obtain ⟨swept, sweep, h⟩ := Option.bind_eq_some_iff.mp h
    split at h
    · rename_i due
      obtain ⟨delivered, deliver, h⟩ := Option.bind_eq_some_iff.mp h
      obtain ⟨last, claim, h⟩ := Option.bind_eq_some_iff.mp h
      obtain rfl := Option.some.inj h
      have queue : delivered = { swept with deliveries := swept.deliveries ++ [.received 1 "worker" none] } :=
        (Option.some.inj deliver).symm
      refine ⟨hub, swept, swept, delivered, last, [], swept.deliveries.length, now, now,
        ⟨.refl hub, trivial, sweep, .refl swept⟩, List.not_mem_nil, ?_,
        ⟨.single trivial deliver, trivial, claim, .refl last⟩, ⟨"worker", none, ?_⟩, ?_⟩
      · intro job lease present leased
        rw [present, Option.all_some, leased, Option.all_some] at overdue
        exact of_decide_eq_true overdue
      · rw [queue]
        exact List.getElem?_concat_length
      · intro job retry present retried
        have same : swept.db.job 1 = some job := by
          rw [queue] at present
          exact present
        rw [same, Option.all_some, retried, Option.all_some] at due
        exact of_decide_eq_true due
    · contradiction
  · contradiction

end Small

/-- Three workers in turn hang with the job, and the last sweep fails it. -/
theorem swept_jobs_finish_abandoned : ∃ hub last, Hub.Reachable Small.env hub ∧
    Machine.Rounds (Round Small.env 1) 4 hub last ∧
    Machine.Passes (Hub.step Small.env) (Hub.Finished 1) hub last := by
  obtain ⟨hub, -, reached, shown⟩ := Small.reaches Small.submitted
    (fun hub => (hub.db.job 1).any (fun job : ImportJob => decide (job.maxAttempts - job.attemptCount < 4)) &&
      ((Small.abandon (Small.moment 1) hub).bind fun first =>
        (Small.abandon (Small.moment 1000) first).bind fun second =>
          (Small.abandon (Small.moment 2000) second).bind (Small.abandon (Small.moment 3000))).isSome)
    (by decide +kernel)
  simp only [Bool.and_eq_true, Option.any_eq_true, decide_eq_true_eq, Option.isSome_iff_exists,
    Option.bind_eq_some_iff] at shown
  obtain ⟨⟨job, present, enough⟩, last, first, one, second, two, third, three, four⟩ := shown
  have rounds : Machine.Rounds (Round Small.env 1) 4 hub last :=
    .cons (Small.abandon_round one) (.cons (Small.abandon_round two) (.cons (Small.abandon_round three)
      (.cons (Small.abandon_round four) (.nil last))))
  exact ⟨hub, last, reached, rounds, swept_jobs_finish reached present rounds enough⟩

end SupplyChainHub
