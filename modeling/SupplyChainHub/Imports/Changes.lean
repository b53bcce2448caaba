import SupplyChainHub.Imports.Ledger

/-!
What one step does to the row of one job, to the row of one attempt, and to the tables that only
grow. The later invariants are about single jobs; they read these and not the transactions.
-/

namespace SupplyChainHub

inductive JobChange (env : Env) (hub : Hub) (job : ImportJob) : Label → ImportJob → Prop where
  | kept {l : Label} : JobChange env hub job l job
  | dispatched {call : Nat} {now : Timestamp} (dispatchedAt : Option Timestamp) :
      JobChange env hub job (.dispatchWrite call now) { job with dispatchedAt }
  | claimed {d : Nat} {now : Timestamp} {workerId : String} {celeryTaskId : Option String}
      (received : hub.deliveries[d]? = some (.received job.id workerId celeryTaskId))
      (queued : job.status = .queued) :
      JobChange env hub job (.claim d now) (claimedJob env.settings job workerId now)
  | completed {d : Nat} {now : Timestamp} {a : Applying} {rejected : Nat}
      (closing : hub.deliveries[d]? = some (.closing a rejected)) (owner : a.job.id = job.id) :
      JobChange env hub job (.complete d now) (a.job.writeBack (completedJob a rejected now) job)
  | reported {d : Nat} {now : Timestamp} {r : RaisedDelivery} {attemptCount : Nat}
      (raised : hub.deliveries[d]? = some (.raised r)) (owner : r.jobId = job.id)
      (counted : attemptCount = max 1 job.attemptCount) :
      JobChange env hub job (.report d now)
        (failedJob env.settings { job with attemptCount } r.error now)
  | recovered {locked : List Id} {now : Timestamp} (expired : leaseExpired now job = true) :
      JobChange env hub job (.recover locked now) (recoveredJob now job)

/-- The row of an attempt before and after a step. `current` is the count of its job's row. -/
inductive AttemptChange (env : Env) (hub : Hub) (current : Nat) (attempt : ImportAttempt) :
    Label → ImportAttempt → Prop where
  | kept {l : Label} : AttemptChange env hub current attempt l attempt
  | completed {d : Nat} {now : Timestamp} {a : Applying} {rejected : Nat}
      (closing : hub.deliveries[d]? = some (.closing a rejected)) (owner : a.attempt.key = attempt.key) :
      AttemptChange env hub current attempt (.complete d now)
        { attempt with status := .succeeded, completedAt := some now }
  | reported {d : Nat} {now : Timestamp} {r : RaisedDelivery} {job : ImportJob}
      (raised : hub.deliveries[d]? = some (.raised r)) (owner : attempt.key = (r.jobId, current)) :
      AttemptChange env hub current attempt (.report d now)
        (failedAttempt env.settings job r.error now attempt)
  | recovered {locked : List Id} {now : Timestamp} (running : attempt.status = .running) :
      AttemptChange env hub current attempt (.recover locked now) (recoveredAttempt now attempt)

section
variable {env : Env} {hub next : Hub} {l : Label} {db after : Database} {id : Id} {n : Nat}
    {job row : ImportJob} {attempt : ImportAttempt}

/-! ### Jobs -/

theorem job_modify {f : ImportJob → ImportJob} {target : Id} (present : db.job id = some job)
    (jobs : after.jobs = Table.modify ImportJob.id target f db.jobs)
    (keeps : ∀ r, r.id = target → (f r).id = target) :
    after.job id = some (if id = target then f job else job) := by
  by_cases same : id = target
  · subst same
    rw [Database.job, jobs, Table.lookup_modify_self keeps, ← Database.job, present, if_pos rfl]
    rfl
  · rw [Database.job, jobs, Table.lookup_modify_other keeps same, ← Database.job, present, if_neg same]

theorem job_congr (jobs : after.jobs = db.jobs) : after.job id = db.job id := by
  rw [Database.job, Database.job, jobs]

theorem dispatch_job {loaded : ImportJob} {dispatchedAt : Timestamp} (present : db.job id = some job) :
    ∃ at?, (markJobDispatched db loaded dispatchedAt).job id = some { job with dispatchedAt := at? } := by
  by_cases queued : loaded.status = .queued
  · have jobs : (markJobDispatched db loaded dispatchedAt).jobs = Table.modify ImportJob.id loaded.id
        (loaded.writeBack { loaded with dispatchedAt := some dispatchedAt }) db.jobs := by
      rw [markJobDispatched, if_pos queued]
      rfl
    have updated := job_modify present jobs fun _ same => same
    obtain ⟨at?, row⟩ := markJobDispatched_row loaded job dispatchedAt
    by_cases same : id = loaded.id
    · rw [if_pos same, row] at updated
      exact ⟨at?, updated⟩
    · rw [if_neg same] at updated
      exact ⟨job.dispatchedAt, updated⟩
  · rw [markJobDispatched, if_neg queued]
    exact ⟨job.dispatchedAt, present⟩

theorem failure_job {settings : Settings} {error : Raised} {workerId : String}
    {celeryTaskId : Option String} {now : Timestamp} {disposition : FailureDisposition} {target : Id}
    (ledger : Ledger db) (present : db.job id = some job)
    (h : recordImportFailure settings db target error workerId celeryTaskId now = .ok (after, disposition)) :
    after.job id = some (if id = target then
      failedJob settings { job with attemptCount := max 1 job.attemptCount } error now else job) := by
  obtain ⟨failed, counted, middle, attempt, found, opened, rfl⟩ := failure_ok ledger h
  have jobs : middle.jobs = db.jobs := by
    rcases opened with ⟨rfl, -⟩ | ⟨-, -, -, -, rfl⟩ <;> rfl
  have owner : failed.id = target := job_id found
  have known := ledger.jobs target failed found
  have row : counted = { failed with attemptCount := max 1 failed.attemptCount } := by
    rcases opened with ⟨-, rfl, current⟩ | ⟨zero, rfl, -⟩
    · have positive : 1 ≤ counted.attemptCount := by
        by_contra none
        have zero : counted.attemptCount = 0 := by omega
        rw [known.current_none.mpr zero] at current
        contradiction
      rw [max_eq_right positive]
    · rw [zero]
      rfl
  have keeps (r : ImportJob) (_ : r.id = target) : (failedJob settings counted error now).id = target := by
    rw [(failedJob_row settings counted error now).1, row]
    exact owner
  have present' : middle.job id = some job := (job_congr jobs).trans present
  have updated : ((middle.modifyJob target fun _ => failedJob settings counted error now).modifyAttempt
      target counted.attemptCount (failedAttempt settings counted error now)).job id =
      some (if id = target then failedJob settings counted error now else job) :=
    job_modify present' rfl keeps
  apply updated.trans
  by_cases same : id = target
  · subst same
    obtain rfl := Option.some.inj (found.symm.trans present)
    rw [if_pos rfl, if_pos rfl, row]
  · rw [if_neg same, if_neg same]

theorem recover_job {locked ids : List Id} {now : Timestamp} (ledger : Ledger db)
    (present : db.job id = some job) (h : recoverStaleImports db locked now = .ok (after, ids)) :
    after.job id =
      some (if leaseExpired now job && !locked.contains id then recoveredJob now job else job) := by
  obtain ⟨distinct, held⟩ := recover_selected now locked ledger
  obtain ⟨swept, ids', same, -, each, untouched⟩ := recoverJobs_spec ledger distinct held
  rw [recoverStaleImports, same] at h
  cases h
  have owner : job.id = id := job_id present
  by_cases chosen : (leaseExpired now job && !locked.contains id) = true
  · rw [if_pos chosen, ← owner]
    refine each job (List.mem_filter.mpr ⟨Table.lookup_mem present, ?_⟩)
    rw [owner]
    exact chosen
  · rw [if_neg chosen, untouched id, present]
    intro member
    obtain ⟨other, selected, key⟩ := List.mem_map.mp member
    have found := (held other selected).1
    rw [key, present] at found
    obtain rfl := Option.some.inj found
    have expired := (List.mem_filter.mp selected).2
    rw [owner] at expired
    exact chosen expired

theorem effect_job (ledger : Ledger hub.db) (effect : Effect env hub next l)
    (present : hub.db.job id = some job) :
    ∃ row, next.db.job id = some row ∧ JobChange env hub job l row := by
  have owner : job.id = id := job_id present
  cases effect with
  | reads imports => exact ⟨job, (job_congr imports.jobs).trans present, .kept⟩
  | submitted _ db =>
    obtain ⟨jobs, -⟩ := submitInsert_ok db
    refine ⟨job, ?_, .kept⟩
    rw [Database.job, jobs]
    exact Table.lookup_append_present present _
  | dispatched db =>
    rw [db]
    obtain ⟨at?, row⟩ := dispatch_job present
    exact ⟨_, row, .dispatched at?⟩
  | @claimed d now jobId workerId celeryTaskId session received claim =>
    obtain ⟨claimed, found, queued, -, -, rfl, same⟩ := claim_ok claim
    have mineId : claimed.id = jobId := job_id found
    have updated : next.db.job id =
        some (if id = jobId then claimedJob env.settings claimed workerId now else job) :=
      job_modify present (congrArg Database.jobs same) fun _ _ => mineId
    by_cases mine : id = jobId
    · subst mine
      obtain rfl := Option.some.inj (found.symm.trans present)
      rw [if_pos rfl] at updated
      exact ⟨_, updated, .claimed (owner ▸ received) queued⟩
    · rw [if_neg mine] at updated
      exact ⟨job, updated, .kept⟩
  | @completed d now a rejected closing _ db =>
    have updated : next.db.job id =
        some (if id = a.job.id then a.job.writeBack (completedJob a rejected now) job else job) :=
      job_modify present (congrArg Database.jobs db) fun _ same => same
    by_cases mine : id = a.job.id
    · rw [if_pos mine] at updated
      exact ⟨_, updated, .completed closing (mine.symm.trans owner.symm)⟩
    · rw [if_neg mine] at updated
      exact ⟨job, updated, .kept⟩
  | @reported d now r disposition raised db =>
    have updated := failure_job ledger present db
    by_cases mine : id = r.jobId
    · rw [if_pos mine] at updated
      exact ⟨_, updated, .reported raised (mine.symm.trans owner.symm) rfl⟩
    · rw [if_neg mine] at updated
      exact ⟨job, updated, .kept⟩
  | recovered db =>
    have updated := recover_job ledger present db
    split at updated
    · rename_i chosen
      exact ⟨_, updated, .recovered (Bool.and_eq_true_iff.mp chosen).1⟩
    · exact ⟨job, updated, .kept⟩

theorem effect_job_new (ledger : Ledger hub.db) (effect : Effect env hub next l)
    (absent : hub.db.job id = none) (present : next.db.job id = some job) :
    ∃ call now request supplierId objectKey, l = .insert call id now ∧
      job = queuedJob env.settings request supplierId objectKey id now := by
  have kept {target : Id} {f : ImportJob → ImportJob}
      (jobs : next.db.jobs = Table.modify ImportJob.id target f hub.db.jobs)
      (keeps : ∀ r, r.id = target → (f r).id = target) : False := by
    have keys : next.db.jobs.map ImportJob.id = hub.db.jobs.map ImportJob.id := by
      rw [jobs, Table.modify_keys keeps]
    have member : id ∈ next.db.jobs.map ImportJob.id :=
      List.mem_map.mpr ⟨job, Table.lookup_mem present, job_id present⟩
    rw [keys] at member
    obtain ⟨old, found, same⟩ := List.mem_map.mp member
    exact Table.lookup_none.mp absent old found same
  cases effect with
  | reads imports =>
    rw [job_congr imports.jobs, absent] at present
    contradiction
  | @submitted call jobId now request supplierId objectKey fresh db =>
    obtain ⟨jobs, -⟩ := submitInsert_ok db
    rw [Database.job, jobs, Table.lookup_append_absent absent, Table.lookup_cons] at present
    split at present
    · rename_i same
      obtain rfl : jobId = id := same
      exact ⟨call, now, request, supplierId, objectKey, rfl, (Option.some.inj present).symm⟩
    · contradiction
  | @dispatched _ dispatchedAt loaded db =>
    unfold markJobDispatched at db
    split at db
    · exact (kept (congrArg Database.jobs db) fun _ same => same).elim
    · rw [db, absent] at present
      contradiction
  | claimed _ claim =>
    obtain ⟨claimed, found, -, -, -, rfl, same⟩ := claim_ok claim
    have owner := job_id found
    exact (kept (congrArg Database.jobs same) fun _ _ => owner).elim
  | @completed _ now a rejected _ _ db =>
    exact (kept (congrArg Database.jobs db) fun _ same => same).elim
  | @reported _ now r _ _ db =>
    obtain ⟨failed, counted, middle, attempt, found, opened, same⟩ := failure_ok ledger db
    have owner : counted.id = r.jobId := by
      have known : failed.id = r.jobId := job_id found
      rcases opened with ⟨-, rfl, -⟩ | ⟨-, rfl, -⟩
      · exact known
      · exact known
    have rows : middle.jobs = hub.db.jobs := by
      rcases opened with ⟨rfl, -⟩ | ⟨-, -, -, -, rfl⟩ <;> rfl
    have jobs : next.db.jobs = Table.modify ImportJob.id r.jobId
        (fun _ => failedJob env.settings counted r.error now) hub.db.jobs := by
      rw [same, ← rows]
      rfl
    exact (kept jobs fun _ _ => (failedJob_row _ _ _ _).1.trans owner).elim
  | recovered db =>
    have chain := recover_recoveries ledger db
    have none : next.db.job id = none := chain.job_none absent
    rw [none] at present
    contradiction

/-! ### Attempts -/

theorem attempt_modify {f : ImportAttempt → ImportAttempt} {target : Id} {m : Nat}
    (present : db.attempt id n = some attempt)
    (attempts : after.attempts = Table.modify ImportAttempt.key (target, m) f db.attempts)
    (keeps : ∀ a, (f a).key = a.key) :
    after.attempt id n = some (if (id, n) = (target, m) then f attempt else attempt) := by
  by_cases same : (id, n) = (target, m)
  · obtain ⟨rfl, rfl⟩ := Prod.mk.inj same
    rw [attempt_modify_self attempts keeps, present, if_pos rfl]
    rfl
  · rw [attempt_modify_other attempts keeps same, present, if_neg same]

theorem Recoveries.attempt_row {now : Timestamp} (chain : Recoveries now db after)
    (present : db.attempt id n = some attempt) :
    after.attempt id n = some attempt ∨
      (attempt.status = .running ∧ after.attempt id n = some (recoveredAttempt now attempt)) := by
  induction chain generalizing attempt with
  | nil => exact .inl present
  | @cons db after job ledger found expired rest ih =>
    obtain ⟨current, held, running⟩ := (ledger.jobs _ _ found).running (leaseExpired_processing expired)
    have step : (recoveredDatabase now db job).attempt id n =
        some (if (id, n) = (job.id, job.attemptCount) then recoveredAttempt now attempt else attempt) :=
      attempt_modify present rfl fun _ => rfl
    by_cases mine : (id, n) = (job.id, job.attemptCount)
    · obtain ⟨rfl, rfl⟩ := Prod.mk.inj mine
      obtain rfl := Option.some.inj (held.symm.trans present)
      rw [if_pos rfl] at step
      rcases ih step with same | ⟨still, -⟩
      · exact .inr ⟨running, same⟩
      · contradiction
    · rw [if_neg mine] at step
      exact ih step

theorem effect_attempt (ledger : Ledger hub.db) (effect : Effect env hub next l)
    (owned : hub.db.job id = some job) (present : hub.db.attempt id n = some attempt) :
    ∃ row, next.db.attempt id n = some row ∧ AttemptChange env hub job.attemptCount attempt l row := by
  have key : attempt.key = (id, n) := Table.lookup_key present
  have kept (same : next.db.attempts = hub.db.attempts) :
      ∃ row, next.db.attempt id n = some row ∧ AttemptChange env hub job.attemptCount attempt l row :=
    ⟨attempt, (attempt_congr same).trans present, .kept⟩
  cases effect with
  | reads imports => exact kept imports.attempts
  | submitted _ db => exact kept (submitInsert_ok db).2.1
  | dispatched db =>
    apply kept
    rw [db, markJobDispatched]
    split <;> rfl
  | claimed _ claim =>
    obtain ⟨claimed, found, -, -, absent, rfl, same⟩ := claim_ok claim
    refine ⟨attempt, ?_, .kept⟩
    rw [Database.attempt, congrArg Database.attempts same]
    exact Table.lookup_append_present present _
  | @completed d now a rejected closing _ db =>
    have updated := attempt_modify present (congrArg Database.attempts db) fun _ => rfl
    rw [complete_attempt] at updated
    by_cases mine : (id, n) = (a.job.id, a.job.attemptCount)
    · rw [if_pos mine] at updated
      exact ⟨_, updated, .completed closing ((a.current.trans mine.symm).trans key.symm)⟩
    · rw [if_neg mine] at updated
      exact ⟨attempt, updated, .kept⟩
  | @reported d now r disposition raised db =>
    obtain ⟨failed, counted, middle, current, found, opened, same⟩ := failure_ok ledger db
    have opened' : middle.attempt id n = some attempt := by
      rcases opened with ⟨rfl, -⟩ | ⟨-, -, -, -, rfl⟩
      · exact present
      · exact Table.lookup_append_present present _
    have attempts : next.db.attempts = Table.modify ImportAttempt.key (r.jobId, counted.attemptCount)
        (failedAttempt env.settings counted r.error now) middle.attempts := by
      rw [same]
      rfl
    have updated := attempt_modify opened' attempts fun _ => rfl
    by_cases mine : (id, n) = (r.jobId, counted.attemptCount)
    · rw [if_pos mine] at updated
      obtain ⟨rfl, rfl⟩ := Prod.mk.inj mine
      refine ⟨_, updated, .reported raised (key.trans ?_)⟩
      obtain rfl := Option.some.inj (found.symm.trans owned)
      rcases opened with ⟨-, rfl, -⟩ | ⟨-, rfl, -, absent, -⟩
      · rfl
      · rw [absent] at present
        contradiction
    · rw [if_neg mine] at updated
      exact ⟨attempt, updated, .kept⟩
  | recovered db =>
    rcases (recover_recoveries ledger db).attempt_row present with same | ⟨running, closed⟩
    · exact ⟨attempt, same, .kept⟩
    · exact ⟨_, closed, .recovered running⟩

/-! ### Master data -/

structure SameMaster (before after : Database) : Prop where
  suppliers : after.suppliers = before.suppliers
  products : after.products = before.products
  warehouses : after.warehouses = before.warehouses
  productMappings : after.productMappings = before.productMappings
  warehouseMappings : after.warehouseMappings = before.warehouseMappings

theorem SameMaster.of_eq (same : after = db) : SameMaster db after := by
  rw [same]
  exact ⟨rfl, rfl, rfl, rfl, rfl⟩

theorem Recoveries.master {now : Timestamp} (chain : Recoveries now db after) : SameMaster db after := by
  induction chain with
  | nil => exact .of_eq rfl
  | cons _ _ _ _ ih => exact ⟨ih.suppliers, ih.products, ih.warehouses, ih.productMappings, ih.warehouseMappings⟩

theorem submitInsert_master {settings : Settings} {request : SubmitRequest} {supplierId jobId : Id}
    {objectKey : String} {now : Timestamp}
    (h : submitInsert settings db request supplierId objectKey jobId now = .ok after) : SameMaster db after := by
  obtain ⟨-, -, rfl⟩ := submitInsert_written h
  exact ⟨rfl, rfl, rfl, rfl, rfl⟩

theorem markJobDispatched_master {loaded : ImportJob} {dispatchedAt : Timestamp} :
    SameMaster db (markJobDispatched db loaded dispatchedAt) := by
  unfold markJobDispatched
  split <;> exact ⟨rfl, rfl, rfl, rfl, rfl⟩

/-- No import writes master data. What does leaves the import tables alone, and is no worker's step. -/
theorem effect_master (ledger : Ledger hub.db) (effect : Effect env hub next l) :
    SameMaster hub.db next.db ∨ SameImports hub.db next.db ∧ (l.delivery?.isSome → next.db = hub.db) := by
  cases effect with
  | reads imports _ _ _ _ worker => exact .inr ⟨imports, fun mine => (worker mine).1⟩
  | submitted _ db => exact .inl (submitInsert_master db)
  | dispatched db =>
    left
    rw [db]
    exact markJobDispatched_master
  | claimed _ claim =>
    left
    obtain ⟨_, -, -, -, -, -, same⟩ := claim_ok claim
    rw [same]
    exact ⟨rfl, rfl, rfl, rfl, rfl⟩
  | completed _ _ db =>
    left
    rw [db]
    exact ⟨rfl, rfl, rfl, rfl, rfl⟩
  | reported _ db =>
    left
    obtain ⟨_, counted, middle, _, -, opened, same⟩ := failure_ok ledger db
    rw [same]
    rcases opened with ⟨rfl, -⟩ | ⟨-, -, -, -, rfl⟩
    · exact ⟨rfl, rfl, rfl, rfl, rfl⟩
    · exact ⟨rfl, rfl, rfl, rfl, rfl⟩
  | recovered db => exact .inl (recover_recoveries ledger db).master

theorem effect_suppliers (ledger : Ledger hub.db) (effect : Effect env hub next l) :
    next.db.suppliers = hub.db.suppliers := by
  rcases effect_master ledger effect with master | ⟨imports, -⟩
  · exact master.suppliers
  · exact imports.suppliers

theorem step_master (ledger : Ledger hub.db) (h : Hub.step env hub l = some next)
    (other : ∀ call, l ≠ .mappingCommit call) : SameMaster hub.db next.db := by
  rcases effect_master ledger (step_effect h) with master | ⟨-, worker⟩
  · exact master
  cases l with
  | claim | adapt | start | record | summarise | complete | raise | report | stop => exact .of_eq (worker rfl)
  | submit | replay | dispatchRead | deliver | inventoryRead | productMappingRead | warehouseMappingRead =>
    cases h
    exact .of_eq rfl
  | lookup call =>
    simp only [Hub.step, Hub.lookup] at h
    split at h
    · cases h
      exact .of_eq rfl
    · contradiction
  | put call outcome now =>
    simp only [Hub.step, Hub.put] at h
    split at h
    · cases h
      exact .of_eq rfl
    · contradiction
  | inventoryCommit call =>
    simp only [Hub.step, Hub.inventoryCommit] at h
    split at h
    · split at h
      · contradiction
      · split at h
        · cases h
          exact .of_eq rfl
        · cases h
          exact ⟨rfl, rfl, rfl, rfl, rfl⟩
    · contradiction
  | mappingCommit call => exact absurd rfl (other call)
  | insert call jobId now =>
    simp only [Hub.step, Hub.insert] at h
    split at h
    · split at h
      · cases h
        exact .of_eq rfl
      · rename_i inserted
        cases h
        exact submitInsert_master inserted
    · contradiction
  | dispatchWrite call dispatchedAt =>
    simp only [Hub.step, Hub.dispatchWrite] at h
    split at h
    · cases h
      exact markJobDispatched_master
    · contradiction
  | recover locked now =>
    cases h
    unfold Hub.recover
    split
    · exact .of_eq rfl
    · rename_i recovered
      exact (recover_recoveries ledger recovered).master

/-! ### Lineage -/

def Unsent (hub : Hub) (deliveries : List Delivery) : Prop :=
  Moves hub deliveries ∨ ∃ d jobId workerId celeryTaskId session,
    hub.deliveries[d]? = some (.received jobId workerId celeryTaskId) ∧
      deliveries = hub.deliveries.set d (.claimed session)

/-- Only a completing commit adds errors and snapshots, and it adds its transaction's. -/
inductive LineageChange (hub next : Hub) : Label → Prop where
  | kept {l : Label} (errors : next.db.errors = hub.db.errors)
      (snapshots : next.db.snapshots = hub.db.snapshots)
      (log : ∃ writes : List PositionWrite, (∀ w ∈ writes, w.origin = none) ∧
        next.positionLog = hub.positionLog ++ writes)
      (deliveries : Unsent hub next.deliveries) : LineageChange hub next l
  | completed {d : Nat} {now : Timestamp} {a : Applying} {rejected : Nat}
      (closing : hub.deliveries[d]? = some (.closing a rejected))
      (deliveries : next.deliveries = hub.deliveries.set d (.committed a.toWorkerSession))
      (errors : next.db.errors = hub.db.errors ++ a.newErrors)
      (snapshots : next.db.snapshots = hub.db.snapshots ++ a.snapshots)
      (log : next.positionLog = hub.positionLog ++ a.writes) : LineageChange hub next (.complete d now)

theorem Recoveries.lineage {now : Timestamp} (chain : Recoveries now db after) :
    after.errors = db.errors ∧ after.snapshots = db.snapshots ∧ after.positions = db.positions := by
  induction chain with
  | nil => exact ⟨rfl, rfl, rfl⟩
  | cons _ _ _ _ ih => exact ih

theorem effect_lineage (ledger : Ledger hub.db) (effect : Effect env hub next l) :
    LineageChange hub next l := by
  have silent (log : next.positionLog = hub.positionLog) : ∃ writes : List PositionWrite,
      (∀ w ∈ writes, w.origin = none) ∧ next.positionLog = hub.positionLog ++ writes :=
    ⟨[], by simp, by rw [log, List.append_nil]⟩
  have still (same : next.deliveries = hub.deliveries) : Unsent hub next.deliveries := same ▸ .inl .same
  cases effect with
  | reads imports _ log origins moves => exact .kept imports.errors imports.snapshots ⟨_, origins, log⟩ (.inl moves)
  | submitted _ db log deliveries =>
    obtain ⟨-, -, errors, snapshots, -⟩ := submitInsert_ok db
    exact .kept errors snapshots (silent log) (still deliveries)
  | dispatched db log deliveries =>
    refine .kept ?_ ?_ (silent log) (still deliveries)
    · rw [db, markJobDispatched]
      split <;> rfl
    · rw [db, markJobDispatched]
      split <;> rfl
  | claimed received claim log deliveries =>
    obtain ⟨_, -, -, -, -, -, same⟩ := claim_ok claim
    exact .kept (by rw [same]) (by rw [same]) (silent log) (.inr ⟨_, _, _, _, _, received, deliveries⟩)
  | completed closing _ db log deliveries =>
    exact .completed closing deliveries (congrArg Database.errors db) (congrArg Database.snapshots db) log
  | reported raised db log deliveries =>
    obtain ⟨_, counted, middle, _, -, opened, same⟩ := failure_ok ledger db
    have rows : middle.errors = hub.db.errors ∧ middle.snapshots = hub.db.snapshots := by
      rcases opened with ⟨rfl, -⟩ | ⟨-, -, -, -, rfl⟩ <;> exact ⟨rfl, rfl⟩
    refine .kept ?_ ?_ (silent log) (deliveries ▸ .inl (.advanced raised (.done _)))
    · rw [same]
      exact rows.1
    · rw [same]
      exact rows.2
  | recovered db log deliveries =>
    obtain ⟨errors, snapshots, -⟩ := (recover_recoveries ledger db).lineage
    exact .kept errors snapshots (silent log) (still deliveries)

theorem effect_positions (ledger : Ledger hub.db) (effect : Effect env hub next l) :
    next.db.positions = applyWrites hub.db.positions (hub.commits l) ∧
      next.positionLog = hub.positionLog ++ hub.commits l := by
  have silent (none : hub.commits l = []) (positions : next.db.positions = hub.db.positions)
      (log : next.positionLog = hub.positionLog) :
      next.db.positions = applyWrites hub.db.positions (hub.commits l) ∧
        next.positionLog = hub.positionLog ++ hub.commits l := by
    rw [none, positions, log]
    exact ⟨rfl, (List.append_nil _).symm⟩
  cases effect with
  | reads _ positions log => exact ⟨positions, log⟩
  | submitted _ db log => exact silent rfl (submitInsert_ok db).2.2.2.2 log
  | dispatched db log =>
    refine silent rfl ?_ log
    rw [db, markJobDispatched]
    split <;> rfl
  | claimed _ claim log =>
    obtain ⟨_, -, -, -, -, -, same⟩ := claim_ok claim
    exact silent rfl (by rw [same]) log
  | @completed d now a rejected closing current db log =>
    have sent : hub.commits (.complete d now) = a.writes := by simp [Hub.commits, closing, current]
    rw [sent, log, db]
    exact ⟨rfl, rfl⟩
  | reported _ db log =>
    obtain ⟨_, counted, middle, _, -, opened, same⟩ := failure_ok ledger db
    have rows : middle.positions = hub.db.positions := by
      rcases opened with ⟨rfl, -⟩ | ⟨-, -, -, -, rfl⟩ <;> rfl
    refine silent rfl ?_ log
    rw [same]
    exact rows
  | recovered db log =>
    obtain ⟨-, -, positions⟩ := (recover_recoveries ledger db).lineage
    exact silent rfl positions log

/-! ### Deliveries -/

inductive DeliveryChange (env : Env) (hub next : Hub) (d : Nat) : Label → Delivery → Prop where
  | kept {l : Label} {x : Delivery} (present : hub.deliveries[d]? = some x) :
      DeliveryChange env hub next d l x
  | delivered {l : Label} (jobId : Id) (workerId : String) (celeryTaskId : Option String)
      (fresh : hub.deliveries[d]? = none) :
      DeliveryChange env hub next d l (.received jobId workerId celeryTaskId)
  | advanced {l : Label} {x y : Delivery} (present : hub.deliveries[d]? = some x)
      (advance : Advance hub d x y) (imports : SameImports hub.db next.db) :
      DeliveryChange env hub next d l y
  | claimed {now : Timestamp} {jobId : Id} {workerId : String} {celeryTaskId : Option String}
      {session : WorkerSession} (received : hub.deliveries[d]? = some (.received jobId workerId celeryTaskId))
      (db : executeImportJobClaim env.settings hub.db jobId workerId celeryTaskId now =
        .ok (some (next.db, session))) :
      DeliveryChange env hub next d (.claim d now) (.claimed session)
  | committed {now : Timestamp} {a : Applying} {rejected : Nat}
      (closing : hub.deliveries[d]? = some (.closing a rejected)) :
      DeliveryChange env hub next d (.complete d now) (.committed a.toWorkerSession)
  | reported {now : Timestamp} {r : RaisedDelivery} (raised : hub.deliveries[d]? = some (.raised r)) :
      DeliveryChange env hub next d (.report d now) .done

theorem effect_delivery {d : Nat} {y : Delivery} (effect : Effect env hub next l)
    (found : next.deliveries[d]? = some y) : DeliveryChange env hub next d l y := by
  cases effect with
  | reads imports _ _ _ moves =>
    generalize same : next.deliveries = after at moves found
    cases moves with
    | same => exact .kept found
    | delivered jobId workerId celeryTaskId =>
      rcases Pool.push_cases found with old | ⟨last, rfl⟩
      · exact .kept old
      · exact .delivered jobId workerId celeryTaskId (List.getElem?_eq_none last.ge)
    | advanced present advance =>
      rcases Pool.set_cases found with ⟨rfl, rfl⟩ | ⟨-, old⟩
      · exact .advanced present advance imports
      · exact .kept old
  | submitted _ _ _ deliveries => exact .kept (deliveries ▸ found)
  | dispatched _ _ deliveries => exact .kept (deliveries ▸ found)
  | claimed received db _ deliveries =>
    rw [deliveries] at found
    rcases Pool.set_cases found with ⟨rfl, rfl⟩ | ⟨-, old⟩
    · exact .claimed received db
    · exact .kept old
  | completed closing _ _ _ deliveries =>
    rw [deliveries] at found
    rcases Pool.set_cases found with ⟨rfl, rfl⟩ | ⟨-, old⟩
    · exact .committed closing
    · exact .kept old
  | reported raised _ _ deliveries =>
    rw [deliveries] at found
    rcases Pool.set_cases found with ⟨rfl, rfl⟩ | ⟨-, old⟩
    · exact .reported raised
    · exact .kept old
  | recovered _ _ deliveries => exact .kept (deliveries ▸ found)

theorem effect_present {d : Nat} {x : Delivery} (effect : Effect env hub next l)
    (present : hub.deliveries[d]? = some x) : ∃ y, next.deliveries[d]? = some y := by
  have inside : d < hub.deliveries.length := (List.getElem?_eq_some_iff.mp present).1
  have grown : hub.deliveries.length ≤ next.deliveries.length := by
    cases effect with
    | reads _ _ _ _ moves =>
      generalize next.deliveries = after at moves
      cases moves <;> simp
    | submitted _ _ _ deliveries | dispatched _ _ deliveries | recovered _ _ deliveries =>
      rw [deliveries]
    | claimed _ _ _ deliveries | completed _ _ _ _ deliveries | reported _ _ _ deliveries =>
      rw [deliveries, List.length_set]
  exact ⟨_, List.getElem?_eq_getElem (inside.trans_le grown)⟩

/-- What a step makes of a delivery there is. -/
inductive DeliveryMove (env : Env) (hub next : Hub) (d : Nat) : Label → Delivery → Delivery → Prop where
  | kept {l : Label} {x : Delivery} : DeliveryMove env hub next d l x x
  | advanced {l : Label} {x y : Delivery} (advance : Advance hub d x y) (imports : SameImports hub.db next.db) :
      DeliveryMove env hub next d l x y
  | claimed {now : Timestamp} {jobId : Id} {workerId : String} {celeryTaskId : Option String}
      {session : WorkerSession}
      (db : executeImportJobClaim env.settings hub.db jobId workerId celeryTaskId now =
        .ok (some (next.db, session))) :
      DeliveryMove env hub next d (.claim d now) (.received jobId workerId celeryTaskId) (.claimed session)
  | committed {now : Timestamp} {a : Applying} {rejected : Nat} :
      DeliveryMove env hub next d (.complete d now) (.closing a rejected) (.committed a.toWorkerSession)
  | reported {now : Timestamp} {r : RaisedDelivery} : DeliveryMove env hub next d (.report d now) (.raised r) .done

theorem effect_move {d : Nat} {x : Delivery} (effect : Effect env hub next l)
    (present : hub.deliveries[d]? = some x) :
    ∃ y, next.deliveries[d]? = some y ∧ DeliveryMove env hub next d l x y := by
  obtain ⟨y, found⟩ := effect_present effect present
  refine ⟨y, found, ?_⟩
  cases effect_delivery effect found with
  | kept same =>
    obtain rfl := Option.some.inj (present.symm.trans same)
    exact .kept
  | delivered _ _ _ fresh =>
    rw [present] at fresh
    contradiction
  | advanced same advance imports =>
    obtain rfl := Option.some.inj (present.symm.trans same)
    exact .advanced advance imports
  | claimed received db =>
    obtain rfl := Option.some.inj (present.symm.trans received)
    exact .claimed db
  | committed closing =>
    obtain rfl := Option.some.inj (present.symm.trans closing)
    exact .committed
  | reported raised =>
    obtain rfl := Option.some.inj (present.symm.trans raised)
    exact .reported

end

end SupplyChainHub
