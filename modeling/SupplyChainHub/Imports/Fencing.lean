import SupplyChainHub.Imports.Attempts
import SupplyChainHub.Imports.Transactions

/-!
Workers that lost their lease. Nothing stops one that is merely slow: its completing commit and its
failure report look at neither the job's status nor its attempt count. What such a worker can still
do turns on those two steps alone.
-/

namespace SupplyChainHub

/-- The job and the attempt number a delivery has claimed. -/
def Delivery.held : Delivery → Option (Id × Nat)
  | .claimed w | .adapted w _ _ | .committed w => some (w.job.id, w.job.attemptCount)
  | .applying a | .closing a _ => some (a.job.id, a.job.attemptCount)
  | .raised r => r.attempt.map fun n => (r.jobId, n)
  | .received _ _ _ | .done => none

/-- The delivery claimed an attempt, and its job has been claimed again since. -/
def Hub.Superseded (hub : Hub) (d : Nat) (id : Id) : Prop :=
  ∃ x n job, hub.deliveries[d]? = some x ∧ x.held = some (id, n) ∧ hub.db.job id = some job ∧
    n < job.attemptCount

/-- Completions and reports are made by the worker of the job's current attempt while it is processing;
a delivery that claimed nothing reports on a job that is still queued. -/
def ClosedByHolder (hub : Hub) : Label → Prop
  | .complete d _ => ∀ a rejected job, hub.deliveries[d]? = some (.closing a rejected) →
    hub.db.job a.job.id = some job → job.status = .processing ∧ job.attemptCount = a.job.attemptCount
  | .report d _ => ∀ r job, hub.deliveries[d]? = some (.raised r) → hub.db.job r.jobId = some job →
    match r.attempt with
    | some n => job.status = .processing ∧ job.attemptCount = n
    | none => job.status = .queued
  | _ => True

variable {env : Env} {hub next after : Hub} {l : Label} {d : Nat} {id : Id} {job row : ImportJob}

/-! ### A delivery keeps its claim to its end -/

theorem raising_held {x : Delivery} {error : Raised} {r : RaisedDelivery} (raising : x.raising error = some r) :
    (Delivery.raised r).held = x.held := by
  cases x with
  | received | claimed | adapted | applying | closing | committed =>
    cases raising
    rfl
  | raised | done => contradiction

theorem Advance.held {x y : Delivery} (advance : Advance hub d x y) : y.held = x.held ∨ y = .done := by
  cases advance with
  | adapted => exact .inl rfl
  | started w result events =>
    have session := (start_work hub.db w result events).1
    exact .inl (congrArg (fun w : WorkerSession => some (w.job.id, w.job.attemptCount)) session)
  | recorded _ applied =>
    have session := (record_statement applied).session
    exact .inl (congrArg (fun w : WorkerSession => some (w.job.id, w.job.attemptCount)) session)
  | summarised => exact .inl rfl
  | raised raising => exact .inl (raising_held raising)
  | done => exact .inr rfl

theorem held_step {x : Delivery} {n : Nat} (effect : Effect env hub next l)
    (present : hub.deliveries[d]? = some x) (held : x.held = some (id, n)) :
    ∃ y, next.deliveries[d]? = some y ∧ (y.held = some (id, n) ∨ y = .done) := by
  obtain ⟨y, found, move⟩ := effect_move effect present
  refine ⟨y, found, ?_⟩
  cases move with
  | kept | committed => exact .inl held
  | advanced advance => exact advance.held.imp_left fun kept => kept.trans held
  | claimed => contradiction
  | reported => exact .inr rfl

def Hub.HeldNumbered (hub : Hub) : Prop :=
  ∀ (d : Nat) (x : Delivery) (id : Id) (n : Nat), hub.deliveries[d]? = some x → x.held = some (id, n) →
    ∃ job, hub.db.job id = some job ∧ 1 ≤ n ∧ n ≤ job.attemptCount

theorem held_numbered (reached : Hub.Reachable env hub) : hub.HeldNumbered := by
  obtain ⟨start, begins, run⟩ := reached
  refine run.invariant_reachable ?_ (.start begins) ?_
  · intro s l t reached numbered _ step d y id n found held
    have effect := step_effect step
    have ledger := reachable_ledger reached
    have grown (x : Delivery) (present : s.deliveries[d]? = some x) (same : x.held = some (id, n)) :
        ∃ job, t.db.job id = some job ∧ 1 ≤ n ∧ n ≤ job.attemptCount := by
      obtain ⟨job, known, positive, bound⟩ := numbered d x id n present same
      obtain ⟨row, updated, change⟩ := effect_job ledger effect known
      exact ⟨row, updated, positive, bound.trans change.attemptCount_le⟩
    cases effect_delivery effect found with
    | kept present => exact grown y present held
    | delivered => contradiction
    | @advanced _ x _ present advance =>
      rcases advance.held with same | rfl
      · exact grown x present (same.symm.trans held)
      · contradiction
    | claimed received claim =>
      obtain ⟨job, known, -, -, -, rfl, same⟩ := claim_ok claim
      obtain rfl := job_id known
      obtain ⟨rfl, rfl⟩ := Prod.mk.inj (Option.some.inj held)
      have updated := job_modify known (congrArg Database.jobs same) fun _ _ => rfl
      rw [if_pos rfl] at updated
      exact ⟨_, updated, Nat.succ_pos _, le_rfl⟩
    | committed closing => exact grown _ closing held
    | reported => contradiction
  · intro d x id n found
    rw [begins.deliveries] at found
    contradiction

/-! ### Superseded deliveries -/

theorem superseded_step (ledger : Ledger hub.db) (effect : Effect env hub next l)
    (lost : hub.deliveries[d]? = some .done ∨ hub.Superseded d id) :
    next.deliveries[d]? = some .done ∨ next.Superseded d id := by
  rcases lost with ended | ⟨x, n, job, present, held, known, behind⟩
  · left
    obtain ⟨y, found, move⟩ := effect_move effect ended
    cases move with
    | kept => exact found
    | advanced advance =>
      cases advance with
      | raised raising => contradiction
      | done => exact found
  · obtain ⟨y, found, kept | rfl⟩ := held_step effect present held
    · obtain ⟨row, updated, change⟩ := effect_job ledger effect known
      exact .inr ⟨y, n, row, found, kept, updated, behind.trans_le change.attemptCount_le⟩
    · exact .inl found

theorem superseded_run (run : Hub.Run env ClosedByHolder hub next) (reached : Hub.Reachable env hub)
    (lost : hub.Superseded d id) : next.deliveries[d]? = some .done ∨ next.Superseded d id :=
  run.invariant_reachable (P := fun hub => hub.deliveries[d]? = some .done ∨ hub.Superseded d id)
    (fun _ _ _ reached lost _ step => superseded_step (reachable_ledger reached) (step_effect step) lost)
    reached (.inr lost)

theorem superseded_quiet (effect : Effect env hub next l) (acts : l.delivery? = some d)
    (lost : hub.deliveries[d]? = some .done ∨ hub.Superseded d id) (met : ClosedByHolder hub l) :
    next.db = hub.db ∧ next.positionLog = hub.positionLog := by
  have holds (x : Delivery) (present : hub.deliveries[d]? = some x) (busy : x ≠ .done) :
      ∃ n job, x.held = some (id, n) ∧ hub.db.job id = some job ∧ n < job.attemptCount := by
    rcases lost with ended | ⟨y, n, job, same, held, known, behind⟩
    · rw [present] at ended
      exact absurd (Option.some.inj ended) busy
    · rw [present] at same
      obtain rfl := Option.some.inj same
      exact ⟨n, job, held, known, behind⟩
  cases effect with
  | reads _ _ _ _ _ worker => exact worker (by simp [acts])
  | submitted | dispatched | recovered => contradiction
  | claimed received =>
    cases acts
    obtain ⟨n, job, held, -⟩ := holds _ received nofun
    contradiction
  | completed closing =>
    cases acts
    obtain ⟨n, job, held, known, behind⟩ := holds _ closing nofun
    obtain ⟨rfl, rfl⟩ := Prod.mk.inj (Option.some.inj held)
    have current := (met _ _ job closing known).2
    omega
  | @reported _ _ r _ raised =>
    cases acts
    obtain ⟨n, job, held, known, behind⟩ := holds _ raised nofun
    obtain ⟨m, claimed, same⟩ := Option.map_eq_some_iff.mp held
    obtain ⟨rfl, rfl⟩ := Prod.mk.inj same
    have current := met r job raised known
    rw [claimed] at current
    have number := current.2
    omega

/-! ### Late closings go through -/

theorem complete_commits {a : Applying} {rejected : Nat} {now : Timestamp} (reached : Hub.Reachable env hub)
    (closing : hub.deliveries[d]? = some (.closing a rejected))
    (h : Hub.step env hub (.complete d now) = some next) :
    next.db = completeImportJob hub.db a rejected now := by
  obtain ⟨job, known, positive, bound⟩ := held_numbered reached d _ _ _ closing rfl
  have ledger := (reachable_ledger reached).jobs _ job known
  obtain ⟨attempt, present⟩ := ledger.attempt_some positive bound
  rw [job_id known] at present
  simp only [Hub.step, Hub.complete, closing, Database.findCurrentAttempt, present, Option.some.injEq] at h
  rw [← h]

theorem report_commits {r : RaisedDelivery} {now : Timestamp} (ledger : Ledger hub.db)
    (raised : hub.deliveries[d]? = some (.raised r)) (known : hub.db.job r.jobId = some job)
    (h : Hub.step env hub (.report d now) = some next) :
    ∃ disposition, recordImportFailure env.settings hub.db r.jobId r.error r.workerId r.celeryTaskId now =
      .ok (next.db, disposition) := by
  have succeeds : ∃ result, recordImportFailure env.settings hub.db r.jobId r.error r.workerId
      r.celeryTaskId now = .ok result := failure_succeeds ledger known r.error r.workerId r.celeryTaskId now
  obtain ⟨⟨db, disposition⟩, reported⟩ := succeeds
  simp only [Hub.step, Hub.report, raised, reported, Option.some.injEq] at h
  subst h
  exact ⟨disposition, reported⟩

theorem late_closing_rewrites (reached : Hub.Reachable env hub) (h : Hub.step env hub l = some next)
    (known : hub.db.job id = some job) (processing : job.status = .processing) (acts : l.delivery? = some d)
    (lost : hub.Superseded d id) (late : ¬ClosedByHolder hub l) : next.db.job id ≠ some job := by
  have ledger := reachable_ledger reached
  obtain ⟨x, n, owner, present, held, known', -⟩ := lost
  have changed (row : ImportJob) (found : next.db.job id = some row) (moved : row.status ≠ .processing) :
      next.db.job id ≠ some job := by
    intro same
    obtain rfl := Option.some.inj (found.symm.trans same)
    exact moved processing
  cases l with
  | complete d' now =>
    cases acts
    simp only [ClosedByHolder, not_forall] at late
    obtain ⟨a, rejected, _, closing, -⟩ := late
    obtain rfl := Option.some.inj (present.symm.trans closing)
    obtain ⟨rfl, rfl⟩ := Prod.mk.inj (Option.some.inj held)
    have updated := job_modify known (congrArg Database.jobs (complete_commits reached closing h))
      fun _ same => same
    rw [if_pos rfl, complete_row] at updated
    apply changed _ updated
    dsimp only
    split <;> simp
  | report d' now =>
    cases acts
    simp only [ClosedByHolder, not_forall] at late
    obtain ⟨r, _, raised, known'', -⟩ := late
    obtain rfl := Option.some.inj (present.symm.trans raised)
    obtain ⟨m, claimed, same⟩ := Option.map_eq_some_iff.mp held
    obtain ⟨rfl, rfl⟩ := Prod.mk.inj same
    obtain ⟨disposition, reported⟩ := report_commits ledger raised known'' h
    have updated := failure_job ledger known reported
    rw [if_pos rfl] at updated
    apply changed _ updated
    rw [(failedJob_row _ _ _ _).2.2.2.2.2]
    split <;> simp
  | _ => exact absurd trivial late

/-- Who may close the job in a step: the sweep of an expired lease, the worker of its current attempt while it is
processing, or a delivery that fails before it could claim the queued job. -/
inductive Closer (hub : Hub) (job : ImportJob) (l : Label) : Prop where
  | sweep {locked : List Id} {now : Timestamp} (swept : l = .recover locked now) (expired : leaseExpired now job = true)
  | holder {d : Nat} {x : Delivery} (acts : l.delivery? = some d) (present : hub.deliveries[d]? = some x)
      (held : x.held = some (job.id, job.attemptCount)) (processing : job.status = .processing)
  | unclaimed {d : Nat} {now : Timestamp} {r : RaisedDelivery} (reports : l = .report d now)
      (raised : hub.deliveries[d]? = some (.raised r)) (owner : r.jobId = job.id) (none : r.attempt = none)
      (queued : job.status = .queued)

theorem only_holder_closes (effect : Effect env hub next l) (ledger : Ledger hub.db)
    (met : ClosedByHolder hub l) (known : hub.db.job id = some job) (found : next.db.job id = some row)
    (changed : row ≠ { job with dispatchedAt := row.dispatchedAt }) (ended : row.status ≠ .processing) :
    Closer hub job l := by
  have owner : job.id = id := job_id known
  obtain ⟨row', updated, change⟩ := effect_job ledger effect known
  obtain rfl := Option.some.inj (updated.symm.trans found)
  cases change with
  | kept | dispatched => exact absurd rfl changed
  | claimed => exact absurd rfl ended
  | @completed d now a rejected closing same =>
    have current := met a rejected job closing (by rw [same, owner, known])
    refine .holder rfl closing ?_ current.1
    rw [current.2, ← same]
    rfl
  | @reported d now r attemptCount raised same =>
    have current := met r job raised (by rw [same, owner, known])
    cases claimed : r.attempt with
    | none =>
      rw [claimed] at current
      exact .unclaimed rfl raised same claimed current
    | some n =>
      rw [claimed] at current
      refine .holder rfl raised ?_ current.1
      rw [current.2, ← same]
      simp [Delivery.held, claimed]
  | @recovered locked now expired => exact .sweep rfl expired

/-- In a run whose completions and reports are the holder's, a worker whose attempt was superseded commits nothing,
and no job is completed or failed, finished ones included, but by who may close it. A superseded worker's completion
or report that is not the holder's would rewrite the processing job. -/
theorem superseded_worker_fenced (reached : Hub.Reachable env hub)
    (run : Hub.Run env ClosedByHolder hub next) (h : Hub.step env next l = some after) :
    (∀ d id, hub.Superseded d id → l.delivery? = some d → ClosedByHolder next l →
      after.db = next.db ∧ after.positionLog = next.positionLog) ∧
    (∀ id job row, ClosedByHolder next l → next.db.job id = some job → after.db.job id = some row →
      row ≠ { job with dispatchedAt := row.dispatchedAt } → row.status ≠ .processing → Closer next job l) ∧
    (∀ d id job, next.Superseded d id → l.delivery? = some d → next.db.job id = some job →
      job.status = .processing → ¬ClosedByHolder next l → after.db.job id ≠ some job) := by
  have reached' : Hub.Reachable env next := reached.run run
  refine ⟨?_, ?_, ?_⟩
  · intro d id lost acts met
    exact superseded_quiet (step_effect h) acts (superseded_run run reached lost) met
  · intro id job row met known found changed ended
    exact only_holder_closes (step_effect h) (reachable_ledger reached') met known found changed ended
  · intro d id job lost acts known processing late
    exact late_closing_rewrites reached' h known processing acts lost late

theorem superseded_of_held {n : Nat} (held : (hub.deliveries[d]?.bind Delivery.held) = some (id, n))
    (known : hub.db.job id = some job) (behind : n < job.attemptCount) : hub.Superseded d id := by
  obtain ⟨x, present, held⟩ := Option.bind_eq_some_iff.mp held
  exact ⟨x, n, job, present, held, known, behind⟩

/-- An overtaken worker goes on to its next read, and nothing it does is committed. -/
theorem superseded_worker_fenced_reading : ∃ hub after, Hub.Reachable Small.env hub ∧
    hub.Superseded 0 1 ∧ Hub.step Small.env hub (.record 0) = some after ∧ after.db = hub.db := by
  obtain ⟨hub, -, reached, shown⟩ := Small.reaches Small.overtaken
    (fun hub => hub.deliveries[0]?.bind Delivery.held = some (1, 1) &&
      (hub.db.job 1).any (fun job => job.attemptCount = 2) &&
      (Hub.step Small.env hub (.record 0)).isSome)
    (by decide +kernel)
  simp only [Bool.and_eq_true, Option.any_eq_true, decide_eq_true_eq] at shown
  obtain ⟨⟨held, job, known, count⟩, moves⟩ := shown
  obtain ⟨after, step⟩ := Option.isSome_iff_exists.mp moves
  have lost : hub.Superseded 0 1 := superseded_of_held held known (by omega)
  have quiet := (superseded_worker_fenced reached (.refl hub) step).1 0 1 lost rfl trivial
  exact ⟨hub, after, reached, lost, step, quiet.1⟩

/-- The overtaken worker completes: the job that delivery 1 is processing is completed under it, and the
snapshot of the old attempt is committed. -/
theorem overtaken_worker_completes : ∃ hub next job row, Hub.Reachable Small.env hub ∧
    hub.Superseded 0 1 ∧ Hub.step Small.env hub (.complete 0 (Small.moment 402)) = some next ∧
    hub.db.job 1 = some job ∧ job.status = .processing ∧ job.attemptCount = 2 ∧
    next.db.job 1 = some row ∧ row.status = .completed ∧
    (hub.db.snapshotsOf 1).length = 0 ∧ (next.db.snapshotsOf 1).length = 1 := by
  obtain ⟨hub, -, reached, shown⟩ := Small.reaches
    (Small.overtaken ++ [.record 0, .record 0, .record 0, .record 0, .record 0, .summarise 0])
    (fun hub => hub.deliveries[0]?.bind Delivery.held = some (1, 1) &&
      (Hub.step Small.env hub (.complete 0 (Small.moment 402))).any fun next =>
        (hub.db.job 1).any fun job => (next.db.job 1).any fun row =>
          job.status = .processing && job.attemptCount = 2 && row.status = .completed &&
            (hub.db.snapshotsOf 1).length = 0 && (next.db.snapshotsOf 1).length = 1)
    (by decide +kernel)
  simp only [Bool.and_eq_true, Option.any_eq_true, decide_eq_true_eq] at shown
  obtain ⟨held, next, step, job, known, row, found, facts, after⟩ := shown
  obtain ⟨⟨⟨processing, count⟩, completed⟩, before⟩ := facts
  have lost : hub.Superseded 0 1 := superseded_of_held held known (by omega)
  exact ⟨hub, next, job, row, reached, lost, step, known, processing, count, found, completed, before, after⟩

end SupplyChainHub
