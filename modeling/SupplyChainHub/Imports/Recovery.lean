import SupplyChainHub.Imports.Changes

/-!
Lease recovery as the way out of PROCESSING: who holds a lease, and what one sweep leaves.
-/

namespace SupplyChainHub

variable {env : Env} {hub : Hub} {db after : Database} {id : Id} {job row : ImportJob} {now : Timestamp}

theorem leaseExpired_iff :
    leaseExpired now job = true ↔
      job.status = .processing ∧ ∃ lease, job.leaseExpiresAt = some lease ∧ lease < now := by
  simp [leaseExpired, Option.any_eq_true]

/-- A job whose lease a sweep at `now` took back: queued for another try, or out of tries. -/
structure Released (settings : Settings) (now : Timestamp) (job row : ImportJob) : Prop where
  requeued : job.attemptCount < job.maxAttempts →
    row.status = .queued ∧ row.nextRetryAt = some now ∧ row.dispatchedAt = none ∧
      ∀ later, now ≤ later → dueForDispatch settings later row = true
  spent : job.maxAttempts ≤ job.attemptCount → row.status = .failed ∧ row.completedAt = some now

theorem recoveredJob_released (settings : Settings) (now : Timestamp) (job : ImportJob) :
    Released settings now job (recoveredJob now job) := by
  constructor
  · intro spare
    simp only [recoveredJob, if_pos spare]
    refine ⟨trivial, trivial, trivial, fun later passed => ?_⟩
    simp [dueForDispatch, passed]
  · intro spent
    simp [recoveredJob, Nat.not_lt.mpr spent]

theorem recover_none_expired {locked ids : List Id} (ledger : Ledger db)
    (h : recoverStaleImports db locked now = .ok (after, ids)) (present : after.job id = some row)
    (unlocked : id ∉ locked) : leaseExpired now row = false := by
  have chain := recover_recoveries ledger h
  cases before : db.job id with
  | none =>
    rw [chain.job_none before] at present
    contradiction
  | some job =>
    rw [recover_job ledger before h] at present
    obtain rfl := Option.some.inj present
    split
    · have idle : (recoveredJob now job).leaseExpiresAt = none := (recoveredJob_row now job).2.2.2.1
      simp [leaseExpired, idle]
    · rename_i kept
      simpa [unlocked] using kept

/-- In every state any interleaving reaches, leases and processing jobs are the same thing, and a sweep
goes through: it releases each unlocked job with an expired lease and touches no other. -/
theorem sweep_releases (reached : Hub.Reachable env hub) :
    (∀ id job, hub.db.job id = some job →
      (job.status = .processing ↔ job.leaseExpiresAt.isSome) ∧
      (job.leaseExpiresAt.isSome ↔ job.workerId.isSome) ∧
      (job.status = .processing → ∃ attempt, hub.db.attempt id job.attemptCount = some attempt)) ∧
    ∀ locked now, ∃ after ids, recoverStaleImports hub.db locked now = .ok (after, ids) ∧
      (∀ id row, after.job id = some row → id ∉ locked →
        ¬(row.status = .processing ∧ ∃ lease, row.leaseExpiresAt = some lease ∧ lease < now)) ∧
      ∀ id job, hub.db.job id = some job → ∃ row, after.job id = some row ∧
        (job.status = .processing ∧ (∃ lease, job.leaseExpiresAt = some lease ∧ lease < now) ∧ id ∉ locked →
          Released env.settings now job row) ∧
        (¬(job.status = .processing ∧ (∃ lease, job.leaseExpiresAt = some lease ∧ lease < now) ∧ id ∉ locked) →
          row = job) := by
  have ledger := reachable_ledger reached
  constructor
  · intro id job present
    have known := ledger.jobs id job present
    refine ⟨known.leased, known.leased.symm.trans known.worked, fun processing => ?_⟩
    obtain ⟨attempt, current, -⟩ := known.running processing
    rw [Database.findCurrentAttempt, job_id present] at current
    exact ⟨attempt, current⟩
  · intro locked now
    obtain ⟨distinct, held⟩ := recover_selected now locked ledger
    obtain ⟨after, ids, swept, -⟩ := recoverJobs_spec ledger distinct held
    have sweep : recoverStaleImports hub.db locked now = .ok (after, ids) := swept
    refine ⟨after, ids, sweep, ?_, ?_⟩
    · intro id row present unlocked expired
      have none := recover_none_expired ledger sweep present unlocked
      rw [leaseExpired_iff.mpr expired] at none
      contradiction
    · intro id job present
      have updated := recover_job ledger present sweep
      have chosen : (leaseExpired now job && !locked.contains id) = true ↔
          job.status = .processing ∧ (∃ lease, job.leaseExpiresAt = some lease ∧ lease < now) ∧ id ∉ locked := by
        rw [Bool.and_eq_true, leaseExpired_iff, and_assoc]
        simp
      refine ⟨_, updated, fun expired => ?_, fun kept => ?_⟩
      · rw [if_pos (chosen.mpr expired)]
        exact recoveredJob_released env.settings now job
      · rw [if_neg fun expired => kept (chosen.mp expired)]

/-- A claimed job whose worker is silent past its lease of 300 seconds is queued again. -/
theorem sweep_releases_silent : ∃ hub after ids row, Hub.Reachable Small.env hub ∧
    recoverStaleImports hub.db [] (Small.moment 400) = .ok (after, ids) ∧ after.job 1 = some row ∧
    row.status = .queued ∧ row.nextRetryAt = some (Small.moment 400) := by
  obtain ⟨hub, -, reached, shown⟩ := Small.reaches (Small.submitted ++ Small.claimed 0 (Small.moment 1))
    (fun hub => (hub.db.job 1).any fun job => leaseExpired (Small.moment 400) job &&
      decide (job.attemptCount < job.maxAttempts))
    (by decide +kernel)
  simp only [Option.any_eq_true, Bool.and_eq_true, decide_eq_true_eq] at shown
  obtain ⟨job, present, expired, spare⟩ := shown
  obtain ⟨after, ids, sweep, -, rows⟩ := (sweep_releases reached).2 [] (Small.moment 400)
  obtain ⟨row, found, released, -⟩ := rows 1 job present
  obtain ⟨processing, late⟩ := leaseExpired_iff.mp expired
  obtain ⟨queued, retry, -⟩ := (released ⟨processing, late, by simp⟩).requeued spare
  exact ⟨hub, after, ids, row, reached, sweep, found, queued, retry⟩

end SupplyChainHub
