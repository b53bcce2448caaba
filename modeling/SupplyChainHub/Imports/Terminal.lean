import SupplyChainHub.Imports.Changes

/-!
Finished imports. The claim and the sweep look at a job's status before they write it; the failure
report and the completing commit do not, so what keeps an outcome is when those two run.
-/

namespace SupplyChainHub

variable {env : Env} {hub next : Hub} {l : Label} {id : Id} {job row other : ImportJob}

structure SameOutcome (job row : ImportJob) : Prop where
  status : row.status = job.status
  completedAt : row.completedAt = job.completedAt
  total : row.totalRecords = job.totalRecords
  accepted : row.acceptedRecords = job.acceptedRecords
  rejected : row.rejectedRecords = job.rejectedRecords

theorem SameOutcome.refl (job : ImportJob) : SameOutcome job job := ⟨rfl, rfl, rfl, rfl, rfl⟩

theorem SameOutcome.trans (first : SameOutcome job row) (last : SameOutcome row other) :
    SameOutcome job other :=
  ⟨last.status.trans first.status, last.completedAt.trans first.completedAt, last.total.trans first.total,
    last.accepted.trans first.accepted, last.rejected.trans first.rejected⟩

/-- A failure report or a completing commit that acts on a job finds it unfinished. -/
def SparesFinished (hub : Hub) : Label → Prop
  | .report d _ => ∀ r job, hub.deliveries[d]? = some (.raised r) → hub.db.job r.jobId = some job →
    job.status.terminal = false
  | .complete d _ => ∀ a rejected job, hub.deliveries[d]? = some (.closing a rejected) →
    hub.db.job a.job.id = some job → job.status.terminal = false
  | _ => True

theorem JobChange.outcome (met : SparesFinished hub l) (present : hub.db.job id = some job)
    (finished : job.status.terminal = true) (change : JobChange env hub job l row) : SameOutcome job row := by
  have owner : job.id = id := job_id present
  cases change with
  | kept => exact .refl job
  | dispatched => exact ⟨rfl, rfl, rfl, rfl, rfl⟩
  | claimed _ queued =>
    rw [queued] at finished
    contradiction
  | completed closing same =>
    have unfinished := met _ _ job closing (by rw [same, owner, present])
    rw [unfinished] at finished
    contradiction
  | reported raised same =>
    have unfinished := met _ job raised (by rw [same, owner, present])
    rw [unfinished] at finished
    contradiction
  | recovered expired =>
    rw [leaseExpired_processing expired] at finished
    contradiction

/-- A finished job keeps its outcome in every run whose late reports and completions spare it. -/
theorem finished_job_final (reached : Hub.Reachable env hub) (run : Hub.Run env SparesFinished hub next)
    (present : hub.db.job id = some job) (finished : job.status.terminal = true) :
    ∃ row, next.db.job id = some row ∧ SameOutcome job row := by
  refine run.invariant_reachable (P := fun hub => ∃ row, hub.db.job id = some row ∧ SameOutcome job row)
    ?_ reached ⟨job, present, .refl job⟩
  rintro s l t reached ⟨row, found, same⟩ met step
  obtain ⟨later, updated, change⟩ := effect_job (reachable_ledger reached) (step_effect step) found
  refine ⟨later, updated, same.trans (change.outcome met found ?_)⟩
  rw [same.status]
  exact finished

/-- A duplicate delivery of a completed job leaves its outcome alone. -/
theorem finished_job_final_redelivered : ∃ hub next job row, Hub.Reachable Small.env hub ∧
    hub.db.job 1 = some job ∧ job.status = .completed ∧
    Machine.exec (Hub.step Small.env) hub (Small.claimed 1 (Small.moment 5)) = some next ∧
    next.db.job 1 = some row ∧ SameOutcome job row := by
  obtain ⟨hub, -, reached, shown⟩ := Small.reaches
    (Small.submitted ++ Small.claimed 0 (Small.moment 1) ++ Small.applied 0 (Small.moment 1) ++
      Small.completed 0 (Small.moment 2))
    (fun hub => (hub.db.job 1).any fun job => job.status = .completed &&
      (Machine.exec (Hub.step Small.env) hub (Small.claimed 1 (Small.moment 5))).isSome)
    (by decide +kernel)
  simp only [Option.any_eq_true, Bool.and_eq_true, decide_eq_true_eq] at shown
  obtain ⟨job, present, completed, moves⟩ := shown
  obtain ⟨next, steps⟩ := Option.isSome_iff_exists.mp moves
  have spares : ∀ l ∈ Small.claimed 1 (Small.moment 5), ∀ s, SparesFinished s l := by
    simp [Small.claimed, SparesFinished]
  have run : Hub.Run Small.env SparesFinished hub next := Machine.exec_run spares steps
  obtain ⟨row, found, same⟩ := finished_job_final reached run present (by rw [completed]; rfl)
  exact ⟨hub, next, job, row, reached, present, completed, steps, found, same⟩

/-- The worker loses its connection after its last commit, and the failure report queues the completed
job again. -/
theorem completed_job_requeued : ∃ hub next job row, Hub.Reachable Small.env hub ∧
    Hub.step Small.env hub (.report 0 (Small.moment 3)) = some next ∧
    hub.db.job 1 = some job ∧ job.status = .completed ∧
    next.db.job 1 = some row ∧ row.status = .queued := by
  obtain ⟨hub, -, reached, shown⟩ := Small.reaches
    (Small.submitted ++ Small.claimed 0 (Small.moment 1) ++ Small.applied 0 (Small.moment 1) ++
      Small.completed 0 (Small.moment 2) ++ [.raise 0 Small.connectionLost])
    (fun hub => (Hub.step Small.env hub (.report 0 (Small.moment 3))).any fun next =>
      (hub.db.job 1).any fun job => (next.db.job 1).any fun row =>
        job.status = .completed && row.status = .queued)
    (by decide +kernel)
  simp only [Option.any_eq_true, Bool.and_eq_true, decide_eq_true_eq] at shown
  obtain ⟨next, step, job, present, row, found, completed, queued⟩ := shown
  exact ⟨hub, next, job, row, reached, step, present, completed, found, queued⟩

end SupplyChainHub
