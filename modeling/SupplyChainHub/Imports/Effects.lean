import SupplyChainHub.Imports.Hub

/-!
What one step of the hub can do to the import tables, to the log of position writes and to the
deliveries. Every invariant is proved from `step_effect`; the step function is not unfolded again.
-/

namespace SupplyChainHub

structure SameImports (before after : Database) : Prop where
  suppliers : after.suppliers = before.suppliers
  jobs : after.jobs = before.jobs
  attempts : after.attempts = before.attempts
  events : after.events = before.events
  errors : after.errors = before.errors
  snapshots : after.snapshots = before.snapshots

theorem SameImports.refl (db : Database) : SameImports db db := ⟨rfl, rfl, rfl, rfl, rfl, rfl⟩

theorem SameImports.of_eq {before after : Database} (same : after = before) : SameImports before after :=
  same ▸ .refl before

def Hub.commits (hub : Hub) : Label → List PositionWrite
  | .complete d _ =>
    match hub.deliveries[d]? with
    | some (.closing a _) => if (hub.db.findCurrentAttempt a.job).isSome then a.writes else []
    | _ => []
  | .inventoryCommit call =>
    match hub.inventoryCalls[call]? with
    | some (.loaded warehouseId productId request position) =>
      match setInventoryCommit hub.db warehouseId productId request position with
      | .ok write => [write]
      | .error _ => []
    | _ => []
  | _ => []

inductive Advance (hub : Hub) (d : Nat) : Delivery → Delivery → Prop where
  | adapted (w : WorkerSession) (result : InventoryAdapterResult) (events : List OperationEvent) :
      Advance hub d (.claimed w) (.adapted w result events)
  | started (w : WorkerSession) (result : InventoryAdapterResult) (events : List OperationEvent) :
      Advance hub d (.adapted w result events) (.applying (Applying.start hub.db w result events))
  | recorded {a next : Applying} {head : CanonicalInventoryRecord} {rest : List CanonicalInventoryRecord}
      (records : a.records = head :: rest)
      (applied : a.validateAndApplyRecord hub.db (hub.locks d) head rest = .next next) :
      Advance hub d (.applying a) (.applying next)
  | summarised {a : Applying} (records : a.records = []) :
      Advance hub d (.applying a)
        (.closing (a.loadErrors hub.db) (rejectedRecords (a.loadErrors hub.db).jobErrors))
  | raised {x : Delivery} {error : Raised} {r : RaisedDelivery} (raising : x.raising error = some r) :
      Advance hub d x (.raised r)
  | done (x : Delivery) : Advance hub d x .done

inductive Moves (hub : Hub) : List Delivery → Prop where
  | same : Moves hub hub.deliveries
  | delivered (jobId : Id) (workerId : String) (celeryTaskId : Option String) :
      Moves hub (hub.deliveries ++ [.received jobId workerId celeryTaskId])
  | advanced {d : Nat} {x y : Delivery} (present : hub.deliveries[d]? = some x)
      (advance : Advance hub d x y) : Moves hub (hub.deliveries.set d y)

inductive Effect (env : Env) (hub next : Hub) : Label → Prop where
  | reads {l : Label} (imports : SameImports hub.db next.db)
      (positions : next.db.positions = applyWrites hub.db.positions (hub.commits l))
      (log : next.positionLog = hub.positionLog ++ hub.commits l)
      (origins : ∀ w ∈ hub.commits l, w.origin = none) (deliveries : Moves hub next.deliveries)
      (worker : l.delivery?.isSome → next.db = hub.db ∧ next.positionLog = hub.positionLog) :
      Effect env hub next l
  | submitted {call : Nat} {jobId : Id} {now : Timestamp} {request : SubmitRequest} {supplierId : Id}
      {objectKey : String} (fresh : hub.db.job jobId = none)
      (db : submitInsert env.settings hub.db request supplierId objectKey jobId now = .ok next.db)
      (log : next.positionLog = hub.positionLog) (deliveries : next.deliveries = hub.deliveries) :
      Effect env hub next (.insert call jobId now)
  | dispatched {call : Nat} {dispatchedAt : Timestamp} {loaded : ImportJob}
      (db : next.db = markJobDispatched hub.db loaded dispatchedAt)
      (log : next.positionLog = hub.positionLog) (deliveries : next.deliveries = hub.deliveries) :
      Effect env hub next (.dispatchWrite call dispatchedAt)
  | claimed {d : Nat} {now : Timestamp} {jobId : Id} {workerId : String} {celeryTaskId : Option String}
      {session : WorkerSession} (received : hub.deliveries[d]? = some (.received jobId workerId celeryTaskId))
      (db : executeImportJobClaim env.settings hub.db jobId workerId celeryTaskId now =
        .ok (some (next.db, session)))
      (log : next.positionLog = hub.positionLog)
      (deliveries : next.deliveries = hub.deliveries.set d (.claimed session)) :
      Effect env hub next (.claim d now)
  | completed {d : Nat} {now : Timestamp} {a : Applying} {rejected : Nat}
      (closing : hub.deliveries[d]? = some (.closing a rejected))
      (current : (hub.db.findCurrentAttempt a.job).isSome)
      (db : next.db = completeImportJob hub.db a rejected now)
      (log : next.positionLog = hub.positionLog ++ a.writes)
      (deliveries : next.deliveries = hub.deliveries.set d (.committed a.toWorkerSession)) :
      Effect env hub next (.complete d now)
  | reported {d : Nat} {now : Timestamp} {r : RaisedDelivery} {disposition : FailureDisposition}
      (raised : hub.deliveries[d]? = some (.raised r))
      (db : recordImportFailure env.settings hub.db r.jobId r.error r.workerId r.celeryTaskId now =
        .ok (next.db, disposition))
      (log : next.positionLog = hub.positionLog)
      (deliveries : next.deliveries = hub.deliveries.set d .done) : Effect env hub next (.report d now)
  | recovered {locked : List Id} {now : Timestamp} {ids : List Id}
      (db : recoverStaleImports hub.db locked now = .ok (next.db, ids))
      (log : next.positionLog = hub.positionLog) (deliveries : next.deliveries = hub.deliveries) :
      Effect env hub next (.recover locked now)

section
variable {env : Env} {hub next : Hub} {l : Label}

theorem Effect.still (quiet : hub.commits l = []) (db : next.db = hub.db)
    (log : next.positionLog = hub.positionLog) (deliveries : Moves hub next.deliveries) :
    Effect env hub next l := by
  refine .reads (.of_eq db) ?_ ?_ ?_ deliveries fun _ => ⟨db, log⟩
  · rw [quiet, db]
    rfl
  · rw [quiet, log, List.append_nil]
  · simp [quiet]

theorem advance_effect {d : Nat} {x y : Delivery} (quiet : hub.commits l = [])
    (present : hub.deliveries[d]? = some x) (advance : Advance hub d x y) :
    Effect env hub (hub.setDelivery d y) l :=
  .still quiet rfl rfl (.advanced present advance)

theorem raiseAt_effect {d : Nat} {x : Delivery} {error : Raised} (quiet : hub.commits l = [])
    (present : hub.deliveries[d]? = some x) (h : hub.raiseAt d x error = some next) :
    Effect env hub next l := by
  obtain ⟨r, raising, same⟩ := Option.map_eq_some_iff.mp h
  subst same
  split
  · exact advance_effect quiet present (.done x)
  · exact advance_effect quiet present (.raised raising)

theorem lookup_effect {call : Nat} (h : hub.lookup call = some next) :
    Effect env hub next (.lookup call) := by
  unfold Hub.lookup at h
  split at h
  · cases h
    exact .still rfl rfl rfl .same
  · contradiction

theorem put_effect {call : Nat} {outcome : PutOutcome} {now : Timestamp}
    (h : hub.put call outcome now = some next) : Effect env hub next (.put call outcome now) := by
  unfold Hub.put at h
  split at h
  · cases h
    exact .still rfl rfl rfl .same
  · contradiction

theorem insert_effect {call : Nat} {jobId : Id} {now : Timestamp}
    (h : hub.insert env call jobId now = some next) : Effect env hub next (.insert call jobId now) := by
  unfold Hub.insert at h
  split at h
  · rename_i fresh
    split at h
    · cases h
      exact .still rfl rfl rfl .same
    · rename_i inserted
      cases h
      exact .submitted fresh inserted rfl rfl
  · contradiction

theorem dispatchWrite_effect {call : Nat} {dispatchedAt : Timestamp}
    (h : hub.dispatchWrite call dispatchedAt = some next) :
    Effect env hub next (.dispatchWrite call dispatchedAt) := by
  unfold Hub.dispatchWrite at h
  split at h
  · cases h
    exact .dispatched rfl rfl rfl
  · contradiction

theorem claim_effect {d : Nat} {now : Timestamp} (h : hub.claim env d now = some next) :
    Effect env hub next (.claim d now) := by
  unfold Hub.claim at h
  split at h
  · rename_i present
    split at h
    · exact raiseAt_effect rfl present h
    · cases h
      exact advance_effect rfl present (.done _)
    · rename_i claimed
      cases h
      exact .claimed present claimed rfl rfl
  · contradiction

theorem adapt_effect {d : Nat} {available : Bool} {now : Timestamp}
    (h : hub.adapt env d available now = some next) : Effect env hub next (.adapt d available now) := by
  unfold Hub.adapt at h
  split at h
  · rename_i present
    split at h
    · exact raiseAt_effect rfl present h
    · cases h
      exact advance_effect rfl present (.adapted _ _ _)
  · contradiction

theorem start_effect {d : Nat} (h : hub.start d = some next) : Effect env hub next (.start d) := by
  unfold Hub.start at h
  split at h
  · rename_i present
    cases h
    exact advance_effect rfl present (.started _ _ _)
  · contradiction

theorem record_effect {d : Nat} (h : hub.record d = some next) : Effect env hub next (.record d) := by
  unfold Hub.record at h
  split at h
  · rename_i present
    split at h
    · contradiction
    · rename_i records
      split at h
      · contradiction
      · exact raiseAt_effect rfl present h
      · rename_i applied
        cases h
        exact advance_effect rfl present (.recorded records applied)
  · contradiction

theorem summarise_effect {d : Nat} (h : hub.summarise d = some next) :
    Effect env hub next (.summarise d) := by
  unfold Hub.summarise at h
  split at h
  · rename_i present
    split at h
    · rename_i records
      cases h
      exact advance_effect rfl present (.summarised records)
    · contradiction
  · contradiction

theorem complete_effect {d : Nat} {now : Timestamp} (h : hub.complete d now = some next) :
    Effect env hub next (.complete d now) := by
  unfold Hub.complete at h
  split at h
  · rename_i present
    split at h
    · rename_i missing
      exact raiseAt_effect (by simp [Hub.commits, present, missing]) present h
    · rename_i current
      cases h
      exact .completed present (by simp [current]) rfl rfl rfl
  · contradiction

theorem raise_effect {d : Nat} {error : Raised} (h : hub.raise d error = some next) :
    Effect env hub next (.raise d error) := by
  unfold Hub.raise at h
  split at h
  · rename_i present
    exact raiseAt_effect rfl present h
  · contradiction

theorem report_effect {d : Nat} {now : Timestamp} (h : hub.report env d now = some next) :
    Effect env hub next (.report d now) := by
  unfold Hub.report at h
  split at h
  · rename_i present
    split at h
    · cases h
      exact advance_effect rfl present (.done _)
    · rename_i reported
      cases h
      exact .reported present reported rfl rfl
  · contradiction

theorem stop_effect {d : Nat} (h : hub.stop d = some next) : Effect env hub next (.stop d) := by
  unfold Hub.stop at h
  split at h
  · rename_i present
    cases h
    exact advance_effect rfl present (.done _)
  · contradiction

theorem recover_effect {locked : List Id} {now : Timestamp} :
    Effect env hub (hub.recover locked now) (.recover locked now) := by
  unfold Hub.recover
  split
  · exact .still rfl rfl rfl .same
  · rename_i recovered
    exact .recovered recovered rfl rfl

/-- What `set_inventory` sends is what was asked for, over the row that was read. -/
theorem setInventoryCommit_write {db : Database} {warehouseId productId : Id} {request : InventorySet}
    {position : Option InventoryPosition} {write : PositionWrite}
    (h : setInventoryCommit db warehouseId productId request position = .ok write) :
    write.onHand = request.onHandQuantity ∧ write.reserved = request.reservedQuantity ∧
      write.origin = none ∧ write.loaded = position ∧ write.key = (warehouseId, productId) := by
  unfold setInventoryCommit at h
  split at h
  · contradiction
  · rename_i built
    split at h
    · contradiction
    · cases h
      unfold setInventoryWrite at built
      split at built
      · split at built
        · exact Except.ok.inj built ▸ ⟨rfl, rfl, rfl, rfl, rfl⟩
        · contradiction
      · contradiction

theorem setInventoryCommit_origin {db : Database} {warehouseId productId : Id} {request : InventorySet}
    {position : Option InventoryPosition} {write : PositionWrite}
    (h : setInventoryCommit db warehouseId productId request position = .ok write) :
    write.origin = none ∧ write.loaded = position ∧ write.key = (warehouseId, productId) :=
  (setInventoryCommit_write h).2.2

theorem inventoryCommit_effect {call : Nat} (h : hub.inventoryCommit call = some next) :
    Effect env hub next (.inventoryCommit call) := by
  unfold Hub.inventoryCommit at h
  split at h
  · rename_i loaded
    split at h
    · contradiction
    · split at h
      · rename_i ended
        cases h
        exact .still (by simp [Hub.commits, loaded, ended]) rfl rfl .same
      · rename_i write committed
        have sent : hub.commits (.inventoryCommit call) = [write] := by simp [Hub.commits, loaded, committed]
        cases h
        refine .reads ⟨rfl, rfl, rfl, rfl, rfl, rfl⟩ (by rw [sent]; rfl) (by rw [sent]) ?_ .same nofun
        intro w member
        rw [sent, List.mem_singleton] at member
        rw [member]
        exact (setInventoryCommit_origin committed).1
  · contradiction

theorem upsertProductMapping_imports {db after : Database} {request : ProductMappingUpsert}
    {loaded : Option SupplierProductMapping} (h : upsertProductMappingCommit db request loaded = .ok after) :
    SameImports db after ∧ after.positions = db.positions := by
  unfold upsertProductMappingCommit at h
  split at h
  · split at h
    · contradiction
    · cases h
      exact ⟨⟨rfl, rfl, rfl, rfl, rfl, rfl⟩, rfl⟩
  · cases h
    exact ⟨⟨rfl, rfl, rfl, rfl, rfl, rfl⟩, rfl⟩

theorem upsertWarehouseMapping_imports {db after : Database} {request : WarehouseMappingUpsert}
    {loaded : Option SupplierWarehouseMapping} (h : upsertWarehouseMappingCommit db request loaded = .ok after) :
    SameImports db after ∧ after.positions = db.positions := by
  unfold upsertWarehouseMappingCommit at h
  split at h
  · split at h
    · contradiction
    · cases h
      exact ⟨⟨rfl, rfl, rfl, rfl, rfl, rfl⟩, rfl⟩
  · cases h
    exact ⟨⟨rfl, rfl, rfl, rfl, rfl, rfl⟩, rfl⟩

theorem endMapping_effect {call : Nat} {outcome : Except DomainError Database}
    (imports : ∀ db, outcome = .ok db → SameImports hub.db db ∧ db.positions = hub.db.positions) :
    Effect env hub (hub.endMapping call outcome) (.mappingCommit call) := by
  cases outcome with
  | error => exact .still rfl rfl rfl .same
  | ok db =>
    obtain ⟨same, positions⟩ := imports db rfl
    exact .reads same positions (List.append_nil _).symm (by simp [Hub.commits]) .same nofun

theorem mappingCommit_effect {call : Nat} (h : hub.mappingCommit call = some next) :
    Effect env hub next (.mappingCommit call) := by
  unfold Hub.mappingCommit at h
  split at h
  · cases h
    exact endMapping_effect fun _ => upsertProductMapping_imports
  · cases h
    exact endMapping_effect fun _ => upsertWarehouseMapping_imports
  · contradiction

theorem step_effect (h : Hub.step env hub l = some next) : Effect env hub next l := by
  cases l with
  | submit | replay | dispatchRead | inventoryRead | productMappingRead | warehouseMappingRead =>
    cases h
    exact .still rfl rfl rfl .same
  | lookup => exact lookup_effect h
  | put => exact put_effect h
  | insert => exact insert_effect h
  | dispatchWrite => exact dispatchWrite_effect h
  | deliver =>
    cases h
    exact .still rfl rfl rfl (.delivered _ _ _)
  | claim => exact claim_effect h
  | adapt => exact adapt_effect h
  | start => exact start_effect h
  | record => exact record_effect h
  | summarise => exact summarise_effect h
  | complete => exact complete_effect h
  | raise => exact raise_effect h
  | report => exact report_effect h
  | stop => exact stop_effect h
  | recover =>
    cases h
    exact recover_effect
  | inventoryCommit => exact inventoryCommit_effect h
  | mappingCommit => exact mappingCommit_effect h

/-! ### What a worker leaves alone -/

structure SameCalls (hub next : Hub) : Prop where
  objects : next.objects = hub.objects
  submissions : next.submissions = hub.submissions
  inventoryCalls : next.inventoryCalls = hub.inventoryCalls
  mappingCalls : next.mappingCalls = hub.mappingCalls

theorem raiseAt_calls {d : Nat} {x : Delivery} {error : Raised} (h : hub.raiseAt d x error = some next) :
    SameCalls hub next := by
  obtain ⟨r, -, rfl⟩ := Option.map_eq_some_iff.mp h
  exact ⟨rfl, rfl, rfl, rfl⟩

theorem delivery_calls {d : Nat} (mine : l.delivery? = some d) (h : Hub.step env hub l = some next) :
    SameCalls hub next := by
  cases l with
  | claim d now =>
    simp only [Hub.step, Hub.claim] at h
    split at h
    · split at h
      · exact raiseAt_calls h
      · cases h
        exact ⟨rfl, rfl, rfl, rfl⟩
      · cases h
        exact ⟨rfl, rfl, rfl, rfl⟩
    · contradiction
  | adapt d available now =>
    simp only [Hub.step, Hub.adapt] at h
    split at h
    · split at h
      · exact raiseAt_calls h
      · cases h
        exact ⟨rfl, rfl, rfl, rfl⟩
    · contradiction
  | record d =>
    simp only [Hub.step, Hub.record] at h
    split at h
    · split at h
      · contradiction
      · split at h
        · contradiction
        · exact raiseAt_calls h
        · cases h
          exact ⟨rfl, rfl, rfl, rfl⟩
    · contradiction
  | complete d now =>
    simp only [Hub.step, Hub.complete] at h
    split at h
    · split at h
      · exact raiseAt_calls h
      · cases h
        exact ⟨rfl, rfl, rfl, rfl⟩
    · contradiction
  | raise d error =>
    simp only [Hub.step, Hub.raise] at h
    split at h
    · exact raiseAt_calls h
    · contradiction
  | start | summarise | report | stop =>
    simp only [Hub.step, Hub.start, Hub.summarise, Hub.report, Hub.stop] at h
    repeat' split at h
    all_goals first | contradiction | (cases h; exact ⟨rfl, rfl, rfl, rfl⟩)
  | _ => contradiction

theorem recover_calls {locked : List Id} {now : Timestamp} : SameCalls hub (hub.recover locked now) := by
  unfold Hub.recover
  split <;> exact ⟨rfl, rfl, rfl, rfl⟩

end

end SupplyChainHub
