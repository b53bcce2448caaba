import Mathlib.Data.List.Nodup
import SupplyChainHub.Imports.Transactions

/-!
Partner source records. The duplicate check sees committed rows and the transaction's own, no other
worker's; what keeps a record from being applied twice is that its snapshot and its position write go
together, behind the unique constraint.
-/

namespace SupplyChainHub

def Delivery.sourceKeys (x : Delivery) : List SourceKey := x.snapshots.map InventorySnapshot.sourceKey

def committedKeys (db : Database) : List SourceKey := db.snapshots.map InventorySnapshot.sourceKey

/-- Committed source keys are distinct, and open transactions hold others, each its own. -/
def Hub.KeysExclusive (hub : Hub) : Prop :=
  Pool.Exclusive Delivery.sourceKeys (committedKeys hub.db) hub.deliveries

section
variable {env : Env} {hub next : Hub} {l : Label} {d : Nat}

theorem not_imported {db : Database} {a : Applying} {key : SourceKey} (fresh : a.imported db key = false) :
    key ∉ committedKeys db ∧ key ∉ a.snapshots.map InventorySnapshot.sourceKey := by
  have absent : ∀ s ∈ db.snapshots ++ a.snapshots, s.sourceKey ≠ key := by
    intro s member
    have differs := List.any_eq_false.mp fresh s member
    simpa using differs
  constructor
  · intro member
    obtain ⟨s, present, same⟩ := List.mem_map.mp member
    exact absent s (List.mem_append_left _ present) same
  · intro member
    obtain ⟨s, present, same⟩ := List.mem_map.mp member
    exact absent s (List.mem_append_right _ present) same

theorem unlocked_keys {key : SourceKey} (unlocked : (hub.locks d).sourceKey key = false) :
    ∀ j x, hub.deliveries[j]? = some x → j ≠ d → key ∉ x.sourceKeys := by
  intro j x present other member
  obtain ⟨s, inserted, same⟩ := List.mem_map.mp member
  have free := Pool.elsewhere_false.mp unlocked j x present other
  exact List.any_eq_false.mp free s inserted (decide_eq_true same)

theorem advance_exclusive {x y : Delivery} (exclusive : hub.KeysExclusive)
    (present : hub.deliveries[d]? = some x) (advance : Advance hub d x y) :
    Pool.Exclusive Delivery.sourceKeys (committedKeys hub.db) (hub.deliveries.set d y) := by
  have none (empty : y.sourceKeys = []) :
      Pool.Exclusive Delivery.sourceKeys (committedKeys hub.db) (hub.deliveries.set d y) :=
    exclusive.keep present (by rw [empty]; exact List.nil_sublist _)
  have same (kept : y.sourceKeys = x.sourceKeys) :
      Pool.Exclusive Delivery.sourceKeys (committedKeys hub.db) (hub.deliveries.set d y) :=
    exclusive.keep present (by rw [kept])
  cases advance with
  | adapted | raised | done => exact none rfl
  | started w result events =>
    have empty := (start_work hub.db w result events).2.2.1
    exact none (congrArg (List.map InventorySnapshot.sourceKey) empty)
  | summarised => exact same rfl
  | @recorded a b head rest _ applied =>
    cases record_statement applied with
    | searched work => exact same (congrArg (List.map InventorySnapshot.sourceKey) work.snapshots)
    | rejected => exact same rfl
    | flushed snapshot write _ _ _ snapshots _ unlocked _ fresh =>
      obtain ⟨new, mine⟩ := not_imported fresh
      refine exclusive.take present ?_ new mine (unlocked_keys unlocked)
      show b.snapshots.map InventorySnapshot.sourceKey = _
      rw [snapshots, List.map_append]
      rfl

theorem effect_exclusive (ledger : Ledger hub.db) (exclusive : hub.KeysExclusive)
    (effect : Effect env hub next l) : next.KeysExclusive := by
  unfold Hub.KeysExclusive committedKeys
  cases effect_lineage ledger effect with
  | kept _ snapshots _ unsent =>
    rw [snapshots]
    rcases unsent with moves | ⟨d, jobId, workerId, celeryTaskId, session, received, same⟩
    · generalize next.deliveries = after at moves
      cases moves with
      | same => exact exclusive
      | delivered => exact exclusive.push rfl
      | advanced present advance => exact advance_exclusive exclusive present advance
    · rw [same]
      exact exclusive.keep received (List.Sublist.refl [])
  | completed closing deliveries _ snapshots =>
    rw [snapshots, deliveries, List.map_append]
    exact Pool.Exclusive.commit exclusive closing rfl

theorem reachable_exclusive (reached : Hub.Reachable env hub) : hub.KeysExclusive := by
  obtain ⟨start, begins, run⟩ := reached
  refine run.invariant_reachable ?_ (.start begins) ?_
  · intro s l t reached exclusive _ step
    exact effect_exclusive (reachable_ledger reached) exclusive (step_effect step)
  · unfold Hub.KeysExclusive committedKeys
    rw [begins.deliveries, begins.snapshots]
    exact .nil _

/-! ### The log of position writes -/

/-- The import-made writes, in commit order, are those of the committed snapshots. -/
def Hub.LogMatches (hub : Hub) : Prop :=
  hub.positionLog.filterMap PositionWrite.origin = committedKeys hub.db

theorem filterMap_none {writes : List PositionWrite} (none : ∀ w ∈ writes, w.origin = none) :
    writes.filterMap PositionWrite.origin = [] :=
  List.filterMap_eq_nil_iff.mpr none

theorem filterMap_paired {writes : List PositionWrite} {snapshots : List InventorySnapshot}
    (paired : writes.map (·.origin) = snapshots.map fun s => some s.sourceKey) :
    writes.filterMap PositionWrite.origin = snapshots.map InventorySnapshot.sourceKey := by
  calc writes.filterMap PositionWrite.origin
      = (writes.map (·.origin)).filterMap id := by rw [List.filterMap_map]; rfl
    _ = (snapshots.map fun s => some s.sourceKey).filterMap id := by rw [paired]
    _ = snapshots.map InventorySnapshot.sourceKey := by
      rw [List.filterMap_map, ← List.filterMap_eq_map]
      rfl

theorem effect_log (ledger : Ledger hub.db) (matching : hub.LogMatches) (effect : Effect env hub next l) :
    next.LogMatches := by
  unfold Hub.LogMatches committedKeys at *
  cases effect_lineage ledger effect with
  | kept _ snapshots log =>
    obtain ⟨writes, origins, log⟩ := log
    rw [log, snapshots, List.filterMap_append, filterMap_none origins, List.append_nil]
    exact matching
  | @completed d now a rejected closing _ _ snapshots log =>
    rw [log, snapshots, List.filterMap_append, List.map_append, matching, filterMap_paired a.paired]

theorem reachable_log (reached : Hub.Reachable env hub) : hub.LogMatches := by
  obtain ⟨start, begins, run⟩ := reached
  refine run.invariant_reachable ?_ (.start begins) ?_
  · intro s l t reached matching _ step
    exact effect_log (reachable_ledger reached) matching (step_effect step)
  · unfold Hub.LogMatches committedKeys
    rw [begins.positionLog, begins.snapshots]
    rfl

theorem run_positions {start : Hub} (begins : Hub.Initial start)
    (run : Hub.Run env Machine.unguarded start hub) :
    hub.db.positions = applyWrites start.db.positions hub.positionLog := by
  refine run.invariant_reachable
    (P := fun hub => hub.db.positions = applyWrites start.db.positions hub.positionLog) ?_ (.start begins) ?_
  · intro s l t reached same _ step
    obtain ⟨positions, log⟩ := effect_positions (reachable_ledger reached) (step_effect step)
    rw [positions, log, same, applyWrites, applyWrites, applyWrites, List.foldl_append]
  · rw [begins.positionLog]
    rfl

/-! ### Applied at most once -/

def snapshotsFor (db : Database) (key : SourceKey) : List InventorySnapshot :=
  db.snapshots.filter fun s => s.sourceKey = key

def Hub.writesFor (hub : Hub) (key : SourceKey) : List PositionWrite :=
  hub.positionLog.filter fun w => w.origin = some key

theorem snapshotsFor_count (db : Database) (key : SourceKey) :
    (snapshotsFor db key).length = (committedKeys db).count key := by
  rw [snapshotsFor, committedKeys, ← List.countP_eq_length_filter, List.count, List.countP_map]
  refine List.countP_congr fun s _ => ?_
  simp

theorem writesFor_count (hub : Hub) (key : SourceKey) :
    (hub.writesFor key).length = (hub.positionLog.filterMap PositionWrite.origin).count key := by
  rw [Hub.writesFor, ← List.countP_eq_length_filter]
  induction hub.positionLog with
  | nil => rfl
  | cons w rest ih =>
    rw [List.countP_cons, ih, List.filterMap_cons]
    cases origin : w.origin with
    | none => simp
    | some other => simp [List.count_cons]

/-- Whatever is retried, recovered, resubmitted or replayed: every source record has at most one
committed snapshot, and as many committed position writes as snapshots. The positions are the initial
ones with the logged writes applied in turn. -/
theorem source_record_applied_once {start : Hub} (begins : Hub.Initial start)
    (run : Hub.Run env Machine.unguarded start hub) :
    (∀ key, (snapshotsFor hub.db key).length ≤ 1 ∧
      (hub.writesFor key).length = (snapshotsFor hub.db key).length) ∧
    hub.db.positions = applyWrites start.db.positions hub.positionLog := by
  have reached : Hub.Reachable env hub := ⟨start, begins, run⟩
  refine ⟨fun key => ⟨?_, ?_⟩, run_positions begins run⟩
  · rw [snapshotsFor_count]
    exact List.nodup_iff_count_le_one.mp (reachable_exclusive reached).distinct key
  · rw [writesFor_count, snapshotsFor_count, reachable_log reached]

end

/-- The one line of a completed file, delivered twice, is one snapshot and one position write. -/
theorem source_record_applied_once_redelivered : ∃ hub, Hub.Reachable Small.env hub ∧
    (snapshotsFor hub.db (recordKey 1 Small.line)).length = 1 ∧
    (hub.writesFor (recordKey 1 Small.line)).length = 1 := by
  obtain ⟨hub, steps, reached, shown⟩ := Small.reaches
    (Small.submitted ++ Small.claimed 0 (Small.moment 1) ++ Small.applied 0 (Small.moment 1) ++
      Small.completed 0 (Small.moment 2) ++ Small.claimed 1 (Small.moment 3))
    (fun hub => (snapshotsFor hub.db (recordKey 1 Small.line)).length = 1)
    (by decide +kernel)
  have run : Hub.Run Small.env Machine.unguarded Small.hub hub := Machine.exec_run (fun _ _ _ => trivial) steps
  have once := (source_record_applied_once Small.initial run).1 (recordKey 1 Small.line)
  have single := of_decide_eq_true shown
  exact ⟨hub, reached, single, once.2.trans single⟩

end SupplyChainHub
