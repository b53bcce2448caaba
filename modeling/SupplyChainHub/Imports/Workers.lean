import SupplyChainHub.Imports.Lineage
import SupplyChainHub.Imports.Plans
import SupplyChainHub.Imports.Sources

/-!
Tasks that nothing disturbs: the retry is due, the object store answers, nobody kills the process or takes
the lease back. What one step of such a task does, and what keeps two of them apart.
-/

namespace SupplyChainHub

def Hub.retryDue (hub : Hub) (d : Nat) (now : Timestamp) : Bool :=
  match hub.deliveries[d]? with
  | some (.received jobId _ _) => (hub.db.job jobId).all fun job => job.nextRetryAt.all (· ≤ now)
  | _ => true

/-- A step of the task of delivery `d`, undisturbed. -/
def Hub.Executing (d : Nat) (hub : Hub) : Label → Prop
  | .claim e now => e = d ∧ hub.retryDue d now = true
  | .adapt e available _ => e = d ∧ available = true
  | .start e | .record e | .summarise e | .complete e _ | .report e _ => e = d
  | _ => False

instance (d : Nat) (hub : Hub) (l : Label) : Decidable (Hub.Executing d hub l) :=
  match l with
  | .claim e now => inferInstanceAs (Decidable (e = d ∧ hub.retryDue d now = true))
  | .adapt e available _ => inferInstanceAs (Decidable (e = d ∧ available = true))
  | .start e | .record e | .summarise e | .complete e _ | .report e _ => inferInstanceAs (Decidable (e = d))
  | .submit _ | .replay _ _ _ | .lookup _ | .put _ _ _ | .insert _ _ _ | .dispatchRead _ | .dispatchWrite _ _
  | .deliver _ _ _ | .raise _ _ | .stop _ | .recover _ _ | .inventoryRead _ _ _ | .inventoryCommit _
  | .productMappingRead _ | .warehouseMappingRead _ | .mappingCommit _ => .isFalse id

/-- What an undisturbed task raises for. -/
inductive Fails (env : Env) (hub : Hub) (d : Nat) : Delivery → Raised → Prop where
  | claim {jobId : Id} {workerId : String} {celeryTaskId : Option String} {now : Timestamp} {e : Raised}
      (refused : executeImportJobClaim env.settings hub.db jobId workerId celeryTaskId now = .error e) :
      Fails env hub d (.received jobId workerId celeryTaskId) e
  | adapt {w : WorkerSession} {e : Raised}
      (refused : adaptRetainedPayload env hub.objects true w.job = .error e) : Fails env hub d (.claimed w) e
  | record {a : Applying} {record : CanonicalInventoryRecord} {rest : List CanonicalInventoryRecord} {e : Raised}
      (records : a.records = record :: rest)
      (refused : a.validateAndApplyRecord hub.db (hub.locks d) record rest = .raised e) :
      Fails env hub d (.applying a) e
  | complete {a : Applying} {rejected : Nat} {e : Raised} (missing : hub.db.findCurrentAttempt a.job = none) :
      Fails env hub d (.closing a rejected) e

/-- One step of an undisturbed task: its delivery before and after, and the database after. -/
inductive WorkerMove (env : Env) (hub : Hub) (d : Nat) : Delivery → Delivery → Database → Prop where
  | passed {jobId : Id} {workerId : String} {celeryTaskId : Option String} {job : ImportJob}
      (found : hub.db.job jobId = some job) (busy : job.status ≠ .queued) :
      WorkerMove env hub d (.received jobId workerId celeryTaskId) .done hub.db
  | claimed {jobId : Id} {workerId : String} {celeryTaskId : Option String} {now : Timestamp} {after : Database}
      {session : WorkerSession}
      (claim : executeImportJobClaim env.settings hub.db jobId workerId celeryTaskId now =
        .ok (some (after, session))) :
      WorkerMove env hub d (.received jobId workerId celeryTaskId) (.claimed session) after
  | adapted {w : WorkerSession} {result : InventoryAdapterResult} (events : List OperationEvent)
      (adapted : adaptRetainedPayload env hub.objects true w.job = .ok result) :
      WorkerMove env hub d (.claimed w) (.adapted w result events) hub.db
  | started {w : WorkerSession} {result : InventoryAdapterResult} {events : List OperationEvent} :
      WorkerMove env hub d (.adapted w result events) (.applying (Applying.start hub.db w result events)) hub.db
  | recorded {a b : Applying} {record : CanonicalInventoryRecord} {rest : List CanonicalInventoryRecord}
      (records : a.records = record :: rest) (progress : RecordProgress hub.db (hub.locks d) a record rest b) :
      WorkerMove env hub d (.applying a) (.applying b) hub.db
  | summarised {a : Applying} (records : a.records = []) :
      WorkerMove env hub d (.applying a)
        (.closing (a.loadErrors hub.db) (rejectedRecords (a.loadErrors hub.db).jobErrors)) hub.db
  | completed {a : Applying} {rejected : Nat} (now : Timestamp) :
      WorkerMove env hub d (.closing a rejected) (.committed a.toWorkerSession)
        (completeImportJob hub.db a rejected now)
  | raised {x : Delivery} {e : Raised} {r : RaisedDelivery} (fails : Fails env hub d x e)
      (raising : x.raising e = some r) : WorkerMove env hub d x (.raised r) hub.db
  | ended {x : Delivery} {e : Raised} (fails : Fails env hub d x e) : WorkerMove env hub d x .done hub.db
  | reported {r : RaisedDelivery} {now : Timestamp} {after : Database} {disposition : FailureDisposition}
      (report : recordImportFailure env.settings hub.db r.jobId r.error r.workerId r.celeryTaskId now =
        .ok (after, disposition)) :
      WorkerMove env hub d (.raised r) .done after
  | unreported {r : RaisedDelivery} : WorkerMove env hub d (.raised r) .done hub.db

/-- The step `next` of delivery `d`, as a whole. -/
structure Hub.Moved (env : Env) (hub next : Hub) (d : Nat) (x y : Delivery) : Prop where
  present : hub.deliveries[d]? = some x
  deliveries : next.deliveries = hub.deliveries.set d y
  objects : next.objects = hub.objects
  move : WorkerMove env hub d x y next.db

section
variable {env : Env} {hub next : Hub} {l : Label} {d : Nat} {x y : Delivery}

theorem raiseAt_moved {e : Raised} (present : hub.deliveries[d]? = some x) (fails : Fails env hub d x e)
    (h : hub.raiseAt d x e = some next) : ∃ y, Hub.Moved env hub next d x y := by
  obtain ⟨r, raising, same⟩ := Option.map_eq_some_iff.mp h
  subst same
  split
  · exact ⟨.done, present, rfl, rfl, .ended fails⟩
  · exact ⟨.raised r, present, rfl, rfl, .raised fails raising⟩

theorem claim_moved {now : Timestamp} (met : Hub.Executing d hub (.claim d now))
    (h : hub.claim env d now = some next) : ∃ x y, Hub.Moved env hub next d x y := by
  unfold Hub.claim at h
  split at h
  · rename_i jobId workerId celeryTaskId present
    split at h
    · rename_i refused
      obtain ⟨y, moved⟩ := raiseAt_moved present (.claim refused) h
      exact ⟨_, y, moved⟩
    · rename_i none
      cases h
      refine ⟨_, _, present, rfl, rfl, ?_⟩
      unfold executeImportJobClaim at none
      split at none
      · contradiction
      · rename_i job found
        split at none
        · rename_i busy
          exact .passed found busy
        · split at none
          · rename_i early
            obtain ⟨t, pending, later⟩ := (Option.any_eq_true _ _).mp early
            have due := met.2
            unfold Hub.retryDue at due
            simp only [present, found, pending, Option.all_some, decide_eq_true_eq] at due
            exact absurd due (Nat.not_le.mpr (of_decide_eq_true later))
          · dsimp only at none
            split at none <;> cases none
    · rename_i claim
      cases h
      exact ⟨_, _, present, rfl, rfl, .claimed claim⟩
  · contradiction

theorem adapt_moved {now : Timestamp} (h : hub.adapt env d true now = some next) :
    ∃ x y, Hub.Moved env hub next d x y := by
  unfold Hub.adapt at h
  split at h
  · rename_i present
    split at h
    · rename_i refused
      obtain ⟨y, moved⟩ := raiseAt_moved present (.adapt refused) h
      exact ⟨_, y, moved⟩
    · rename_i adapted
      cases h
      exact ⟨_, _, present, rfl, rfl, .adapted _ adapted⟩
  · contradiction

theorem record_moved (h : hub.record d = some next) : ∃ x y, Hub.Moved env hub next d x y := by
  unfold Hub.record at h
  split at h
  · rename_i present
    split at h
    · contradiction
    · rename_i records
      split at h
      · contradiction
      · rename_i refused
        obtain ⟨y, moved⟩ := raiseAt_moved present (.record records refused) h
        exact ⟨_, y, moved⟩
      · rename_i applied
        cases h
        exact ⟨_, _, present, rfl, rfl, .recorded records (record_progress applied)⟩
  · contradiction

theorem complete_moved {now : Timestamp} (h : hub.complete d now = some next) :
    ∃ x y, Hub.Moved env hub next d x y := by
  unfold Hub.complete at h
  split at h
  · rename_i present
    split at h
    · rename_i missing
      obtain ⟨y, moved⟩ := raiseAt_moved present (.complete missing) h
      exact ⟨_, y, moved⟩
    · cases h
      exact ⟨_, _, present, rfl, rfl, .completed now⟩
  · contradiction

theorem report_moved {now : Timestamp} (h : hub.report env d now = some next) :
    ∃ x y, Hub.Moved env hub next d x y := by
  unfold Hub.report at h
  split at h
  · rename_i present
    split at h
    · cases h
      exact ⟨_, _, present, rfl, rfl, .unreported⟩
    · rename_i reported
      cases h
      exact ⟨_, _, present, rfl, rfl, .reported reported⟩
  · contradiction

theorem worker_move (met : Hub.Executing d hub l) (h : Hub.step env hub l = some next) :
    ∃ x y, Hub.Moved env hub next d x y := by
  cases l with
  | claim e now =>
    obtain rfl := met.1
    exact claim_moved met h
  | adapt e available now =>
    obtain ⟨rfl, rfl⟩ := met
    exact adapt_moved h
  | start e =>
    obtain rfl := met
    simp only [Hub.step, Hub.start] at h
    split at h
    · rename_i present
      cases h
      exact ⟨_, _, present, rfl, rfl, .started⟩
    · contradiction
  | record e =>
    obtain rfl := met
    exact record_moved h
  | summarise e =>
    obtain rfl := met
    simp only [Hub.step, Hub.summarise] at h
    split at h
    · rename_i present
      split at h
      · rename_i records
        cases h
        exact ⟨_, _, present, rfl, rfl, .summarised records⟩
      · contradiction
    · contradiction
  | complete e now =>
    obtain rfl := met
    exact complete_moved h
  | report e now =>
    obtain rfl := met
    exact report_moved h
  | _ => exact met.elim

/-! ### What keeps tasks apart -/

def Delivery.places (x : Delivery) : List (Id × Id) := x.writes.map PositionWrite.key

/-- Held of every reachable hub: the ledger, and that no two open transactions hold a source key or the row
of a position in common. -/
structure Hub.Sound (hub : Hub) : Prop where
  ledger : Ledger hub.db
  exclusive : hub.KeysExclusive
  places : Pool.Disjoint Delivery.places hub.deliveries

theorem advance_places (disjoint : Pool.Disjoint Delivery.places hub.deliveries)
    (present : hub.deliveries[d]? = some x) (advance : Advance hub d x y) :
    Pool.Disjoint Delivery.places (hub.deliveries.set d y) := by
  have same (kept : y.writes = x.writes) : Pool.Disjoint Delivery.places (hub.deliveries.set d y) :=
    disjoint.keep present fun place member => by rwa [Delivery.places, kept] at member
  have none (empty : y.writes = []) : Pool.Disjoint Delivery.places (hub.deliveries.set d y) :=
    disjoint.keep present fun place member => by simp [Delivery.places, empty] at member
  cases advance with
  | adapted | raised | done => exact none rfl
  | started w result events => exact none (start_work hub.db w result events).2.2.2
  | summarised => exact same rfl
  | @recorded a b head rest _ applied =>
    cases record_statement applied with
    | searched work => exact same work.writes
    | rejected => exact same rfl
    | flushed snapshot write _ _ _ _ writes _ free =>
      apply disjoint.take present
      intro place member
      have grown : Delivery.places (.applying b) = Delivery.places (.applying a) ++ [write.key] := by
        show b.writes.map PositionWrite.key = _
        rw [writes, List.map_append]
        rfl
      rw [grown] at member
      rcases List.mem_append.mp member with before | new
      · exact .inl before
      · right
        intro j z other different held
        rw [List.mem_singleton.mp new] at held
        obtain ⟨w, wrote, same⟩ := List.mem_map.mp held
        exact List.any_eq_false.mp (Pool.elsewhere_false.mp free j z other different) w wrote (decide_eq_true same)

theorem effect_places (ledger : Ledger hub.db) (disjoint : Pool.Disjoint Delivery.places hub.deliveries)
    (effect : Effect env hub next l) : Pool.Disjoint Delivery.places next.deliveries := by
  cases effect_lineage ledger effect with
  | kept _ _ _ unsent =>
    rcases unsent with moves | ⟨d, jobId, workerId, celeryTaskId, session, received, same⟩
    · generalize next.deliveries = after at moves
      cases moves with
      | same => exact disjoint
      | delivered => exact disjoint.push rfl
      | advanced present advance => exact advance_places disjoint present advance
    · rw [same]
      exact disjoint.keep received fun place member => member
  | completed closing deliveries =>
    rw [deliveries]
    exact disjoint.keep closing fun place member => (List.not_mem_nil member).elim

theorem Hub.Sound.step (sound : hub.Sound) (h : Hub.step env hub l = some next) : next.Sound where
  ledger := effect_ledger sound.ledger (step_effect h)
  exclusive := effect_exclusive sound.ledger sound.exclusive (step_effect h)
  places := effect_places sound.ledger sound.places (step_effect h)

theorem reachable_sound (reached : Hub.Reachable env hub) : hub.Sound := by
  refine reached.invariant (fun start begins => ⟨initial_ledger begins, ?_, ?_⟩) fun _ _ _ sound h => sound.step h
  · have reached : Hub.Reachable env start := .start begins
    exact reachable_exclusive reached
  · intro i j x y first
    simp [begins.deliveries] at first

/-! ### What a step leaves alone -/

/-- The rows of the other jobs, and all that imports never write. -/
structure SameElsewhere (jobId : Id) (before after : Database) : Prop where
  job : ∀ other, other ≠ jobId → after.job other = before.job other
  errors : ∀ other, other ≠ jobId → after.errorsOf other = before.errorsOf other
  productMappings : after.productMappings = before.productMappings
  warehouseMappings : after.warehouseMappings = before.warehouseMappings

/-- Nothing is imported. -/
structure SameStock (before after : Database) : Prop where
  errors : after.errors = before.errors
  snapshots : after.snapshots = before.snapshots
  positions : after.positions = before.positions

theorem SameElsewhere.refl (jobId : Id) (db : Database) : SameElsewhere jobId db db :=
  ⟨fun _ _ => rfl, fun _ _ => rfl, rfl, rfl⟩

theorem claim_elsewhere {settings : Settings} {db after : Database} {jobId : Id} {workerId : String}
    {celeryTaskId : Option String} {now : Timestamp} {session : WorkerSession}
    (h : executeImportJobClaim settings db jobId workerId celeryTaskId now = .ok (some (after, session))) :
    SameElsewhere jobId db after ∧ SameStock db after := by
  obtain ⟨job, found, -, -, -, rfl, rfl⟩ := claim_ok h
  refine ⟨⟨?_, fun _ _ => rfl, rfl, rfl⟩, ⟨rfl, rfl, rfl⟩⟩
  have owner : job.id = jobId := job_id found
  intro other different
  exact Table.lookup_modify_other (fun _ _ => owner) different

theorem complete_elsewhere {db : Database} {a : Applying} {rejected : Nat} {now : Timestamp} :
    SameElsewhere a.job.id db (completeImportJob db a rejected now) := by
  refine ⟨?_, ?_, rfl, rfl⟩
  · intro other different
    exact Table.lookup_modify_other (fun _ same => same) different
  · intro other different
    have added : (completeImportJob db a rejected now).errors = db.errors ++ a.newErrors := rfl
    rw [errorsOf_owned added, if_neg (Ne.symm different), List.append_nil]

theorem failure_elsewhere {settings : Settings} {db after : Database} {jobId : Id} {error : Raised}
    {workerId : String} {celeryTaskId : Option String} {now : Timestamp} {disposition : FailureDisposition}
    (ledger : Ledger db)
    (h : recordImportFailure settings db jobId error workerId celeryTaskId now = .ok (after, disposition)) :
    SameElsewhere jobId db after ∧ SameStock db after := by
  obtain ⟨job, counted, middle, _, found, opened, rfl⟩ := failure_ok ledger h
  have known : job.id = jobId := job_id found
  have owner : counted.id = jobId := by
    rcases opened with ⟨-, rfl, -⟩ | ⟨-, rfl, -⟩ <;> exact known
  have jobs (other : Id) (different : other ≠ jobId) (middle : Database) :
      Table.lookup ImportJob.id other (Table.modify ImportJob.id jobId
        (fun _ => failedJob settings counted error now) middle.jobs) = middle.job other :=
    Table.lookup_modify_other (fun _ _ => (failedJob_row _ _ _ _).1.trans owner) different
  rcases opened with ⟨rfl, -⟩ | ⟨-, -, -, -, rfl⟩
  · exact ⟨⟨fun other different => jobs other different _, fun _ _ => rfl, rfl, rfl⟩, ⟨rfl, rfl, rfl⟩⟩
  · exact ⟨⟨fun other different => jobs other different db, fun _ _ => rfl, rfl, rfl⟩, ⟨rfl, rfl, rfl⟩⟩

end

end SupplyChainHub
