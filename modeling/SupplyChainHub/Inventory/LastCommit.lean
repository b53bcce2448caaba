import SupplyChainHub.Imports.Sources
import SupplyChainHub.Inventory.Positions

/-!
Which of several snapshots of one product and warehouse the position ends with. Nothing compares the
times they were observed at: the one committed last wins.
-/

namespace SupplyChainHub

def InventoryPosition.quantities (p : InventoryPosition) : Numeric183 × Numeric183 :=
  (p.onHandQuantity, p.reservedQuantity)

def quantitiesAt (place : Id × Id) (positions : List InventoryPosition) : Option (Numeric183 × Numeric183) :=
  (positionAt place positions).map InventoryPosition.quantities

def InventorySnapshot.place (s : InventorySnapshot) : Id × Id := (s.warehouseId, s.productId)

def InventorySnapshot.quantities (s : InventorySnapshot) : Numeric183 × Numeric183 :=
  (s.onHandQuantity, s.reservedQuantity)

/-- The committed snapshots of a position, in commit order. -/
def snapshotsAt (place : Id × Id) (db : Database) : List InventorySnapshot :=
  db.snapshots.filter fun s => s.place = place

/-- The last of the writes to the place was computed from the row it finds. -/
def LastCurrent (place : Id × Id) : List InventoryPosition → List PositionWrite → Prop
  | _, [] => True
  | positions, w :: rest =>
    (w.key = place → writesAt place rest = [] → w.loaded = positionAt place positions) ∧
      LastCurrent place (w.apply positions) rest

instance decidableLastCurrent (place : Id × Id) : (positions : List InventoryPosition) →
    (writes : List PositionWrite) → Decidable (LastCurrent place positions writes)
  | _, [] => .isTrue trivial
  | positions, w :: rest =>
    have := decidableLastCurrent place (w.apply positions) rest
    inferInstanceAs (Decidable (_ ∧ _))

/-! ### Writes -/

section
variable {place : Id × Id} {positions : List InventoryPosition} {w : PositionWrite} {writes : List PositionWrite}

theorem quantities_other (other : w.key ≠ place) :
    quantitiesAt place (w.apply positions) = quantitiesAt place positions := by
  rw [quantitiesAt, quantitiesAt, apply_other other]

theorem quantities_current (mine : w.key = place) (current : w.loaded = positionAt place positions) :
    quantitiesAt place (w.apply positions) = some w.pair := by
  cases present : positionAt place positions with
  | none =>
    have inserts : w.loaded = none := current.trans present
    have inserted : InventoryPosition.key ⟨w.warehouseId, w.productId, w.storedOnHand, w.storedReserved, 1⟩ =
      place := mine
    unfold quantitiesAt PositionWrite.apply
    simp only [inserts]
    rw [positionAt, Table.lookup_append_absent present, Table.lookup_cons, if_pos inserted]
    rfl
  | some row =>
    rw [quantitiesAt, apply_self mine (current.trans present) present]
    exact congrArg some (congrArg Register.value update_fresh)

theorem quantities_last (current : LastCurrent place positions writes) :
    quantitiesAt place (applyWrites positions writes) =
      ((writesAt place writes).map PositionWrite.pair).getLast?.or (quantitiesAt place positions) := by
  induction writes generalizing positions with
  | nil => rfl
  | cons w rest ih =>
    obtain ⟨read, later⟩ := current
    have step := ih later
    rw [writesAt_cons]
    by_cases mine : w.key = place
    · rw [if_pos mine, List.map_cons, List.getLast?_cons]
      cases more : writesAt place rest with
      | nil =>
        -- this is the last write to the place
        rw [more] at step
        exact step.trans (quantities_current mine (read mine more))
      | cons x xs =>
        rw [more] at step
        refine step.trans ?_
        simp [List.getLast?_cons]
    · rw [quantities_other mine] at step
      rw [if_neg mine]
      exact step

end

/-! ### Snapshots and their writes -/

def PositionWrite.mirror? (w : PositionWrite) : Option (SourceKey × (Id × Id) × (Numeric183 × Numeric183)) :=
  w.origin.map fun key => (key, w.key, w.pair)

def InventorySnapshot.mirror (s : InventorySnapshot) : SourceKey × (Id × Id) × (Numeric183 × Numeric183) :=
  (s.sourceKey, s.place, s.quantities)

/-- The imports' writes are those of the snapshots: same source record, same place, same quantities. -/
def Mirrors (writes : List PositionWrite) (snapshots : List InventorySnapshot) : Prop :=
  writes.filterMap PositionWrite.mirror? = snapshots.map InventorySnapshot.mirror

structure Hub.Mirrored (hub : Hub) : Prop where
  committed : Mirrors hub.positionLog hub.db.snapshots
  pending : ∀ (d : Nat) (x : Delivery) (a : Applying), hub.deliveries[d]? = some x → x.transaction? = some a →
    Mirrors a.writes a.snapshots

section
variable {writes more : List PositionWrite} {snapshots added : List InventorySnapshot}

theorem Mirrors.append (first : Mirrors writes snapshots) (second : Mirrors more added) :
    Mirrors (writes ++ more) (snapshots ++ added) := by
  unfold Mirrors at *
  rw [List.filterMap_append, List.map_append, first, second]

theorem Mirrors.manual (none : ∀ w ∈ writes, w.origin = none) : Mirrors writes [] := by
  refine List.filterMap_eq_nil_iff.mpr fun w member => ?_
  rw [PositionWrite.mirror?, none w member]
  rfl

/-- At a place that only imports wrote, writes and snapshots carry the same quantities in the same order. -/
theorem Mirrors.at_place {place : Id × Id} (mirrors : Mirrors writes snapshots)
    (imports : ∀ w ∈ writes, w.key = place → w.origin.isSome) :
    (writesAt place writes).map PositionWrite.pair =
      (snapshots.filter fun s => s.place = place).map InventorySnapshot.quantities := by
  have written : ((writes.filterMap PositionWrite.mirror?).filter fun m => m.2.1 = place).map (·.2.2) =
      (writesAt place writes).map PositionWrite.pair := by
    clear mirrors
    induction writes with
    | nil => rfl
    | cons w rest ih =>
      have step := ih fun w member => imports w (List.mem_cons_of_mem _ member)
      rw [writesAt_cons, List.filterMap_cons]
      by_cases mine : w.key = place
      · obtain ⟨key, origin⟩ := Option.isSome_iff_exists.mp (imports w List.mem_cons_self mine)
        simp only [PositionWrite.mirror?, origin, Option.map_some, mine, List.filter_cons_of_pos, decide_true,
          List.map_cons, if_true]
        exact congrArg _ step
      · cases origin : w.origin with
        | none =>
          simp only [PositionWrite.mirror?, origin, Option.map_none, if_neg mine]
          exact step
        | some key =>
          simp only [PositionWrite.mirror?, origin, Option.map_some, if_neg mine]
          rw [List.filter_cons_of_neg (by simpa using mine)]
          exact step
  rw [← written, mirrors, List.filter_map, List.map_map]
  rfl

end

/-! ### Runs -/

section
variable {env : Env} {hub next start : Hub} {l : Label} {db : Database} {locks : Locks} {a b : Applying}
    {record : CanonicalInventoryRecord} {rest : List CanonicalInventoryRecord}

theorem RecordProgress.mirrors (progress : RecordProgress db locks a record rest b)
    (mirrors : Mirrors a.writes a.snapshots) : Mirrors b.writes b.snapshots := by
  cases progress with
  | rejected | unseen | product | warehouse | position => exact mirrors
  | flushed _ _ _ _ _ _ _ write writes snapshots place _ _ origin =>
    rw [snapshots, writes]
    apply mirrors.append
    rw [Mirrors, List.filterMap_cons, PositionWrite.mirror?, origin, place]
    rfl

theorem effect_mirrored (ledger : Ledger hub.db) (mirrored : hub.Mirrored) (effect : Effect env hub next l) :
    next.Mirrored := by
  constructor
  · cases effect_lineage ledger effect with
    | kept _ snapshots log =>
      obtain ⟨writes, manual, log⟩ := log
      have both := mirrored.committed.append (Mirrors.manual manual)
      rw [List.append_nil] at both
      rw [log, snapshots]
      exact both
    | completed closing _ _ snapshots log =>
      rw [log, snapshots]
      exact mirrored.committed.append (mirrored.pending _ _ _ closing rfl)
  · intro d y b found opened
    cases effect_delivery effect found with
    | kept present => exact mirrored.pending d y b present opened
    | delivered | claimed | committed | reported => contradiction
    | advanced present advance =>
      cases advance with
      | adapted | raised | done => contradiction
      | started session result events =>
        cases opened
        obtain ⟨-, -, snapshots, writes⟩ := start_work hub.db session result events
        rw [snapshots, writes]
        rfl
      | recorded records applied =>
        cases opened
        exact (record_progress applied).mirrors (mirrored.pending d _ _ present rfl)
      | summarised =>
        cases opened
        have before := mirrored.pending d (.applying _) _ present rfl
        exact before

theorem reachable_mirrored (reached : Hub.Reachable env hub) : hub.Mirrored := by
  obtain ⟨start, begins, run⟩ := reached
  refine run.invariant_reachable (P := Hub.Mirrored) ?_ (.start begins) ?_
  · intro s l t reached mirrored _ step
    exact effect_mirrored (reachable_ledger reached) mirrored (step_effect step)
  · constructor
    · rw [begins.positionLog, begins.snapshots]
      rfl
    · intro d x a found
      rw [begins.deliveries] at found
      contradiction

/-- However retries, backoff and recovery order the commits of any number of imports: a position that only
imports wrote ends with the quantities of the snapshot committed last, whenever it was observed, provided
that the last write was computed from the row it replaced. -/
theorem last_commit_wins {warehouseId productId : Id} {s : InventorySnapshot} (begins : Hub.Initial start)
    (run : Hub.Run env Machine.unguarded start hub)
    (imports : ∀ w ∈ hub.positionLog, w.key = (warehouseId, productId) → w.origin.isSome)
    (current : LastCurrent (warehouseId, productId) start.db.positions hub.positionLog)
    (last : (snapshotsAt (warehouseId, productId) hub.db).getLast? = some s) :
    ∃ row, hub.db.position warehouseId productId = some row ∧ row.quantities = s.quantities := by
  have mirrored := reachable_mirrored ⟨start, begins, run⟩
  have pairs := mirrored.committed.at_place imports
  have quantities : quantitiesAt (warehouseId, productId) hub.db.positions = some s.quantities := by
    rw [run_positions begins run, quantities_last current, pairs, List.getLast?_map]
    show (Option.map _ (snapshotsAt (warehouseId, productId) hub.db).getLast?).or _ = _
    rw [last]
    rfl
  obtain ⟨row, present, same⟩ := Option.map_eq_some_iff.mp quantities
  exact ⟨row, present, same⟩

end

namespace Small

/-- The next hour's file. -/
def laterFile : ByteArray :=
  ("snapshot_ref,as_of,partner_sku,depot,case_count,units_per_case\n" ++
    "SNAP-2,2026-07-29T16:00:00Z,B-1,EAST,15,12\n").toUTF8

def laterDigest : String := "c3c0c71b875417a7fc0079c1ea24d6f04e6c479957004e3103749cf49624a4de"

def laterLine : CanonicalInventoryRecord :=
  { line with sourceReference := "SNAP-2", observedAt := seconds 1785340800, onHandQuantity := 15 }

def hourlyEnv : Env where
  settings := env.settings
  sha256 content := if content.size = file.size then digest else laterDigest
  adapter _ content := .ok { records := [if content.size = file.size then line else laterLine] }

def laterSubmitted (now : Timestamp) : List Label :=
  [.submit { request with content := laterFile, contentSha256 := laterDigest, idempotencyKey := "key-2" },
    .lookup 1, .put 1 .stored now, .insert 1 2 now]

def laterImported (d : Nat) (now : Timestamp) : List Label :=
  laterSubmitted now ++ [.deliver 2 "worker" none, .claim d now] ++ applied d now ++ completed d now

theorem case_fits : (12000 : ℤ).natAbs < 10 ^ 18 := by decide

def snapshot : InventorySnapshot where
  importJobId := 1
  supplierId := 1
  productId := 10
  warehouseId := 20
  sourceReference := "SNAP-1"
  externalSku := "B-1"
  externalLocation := "EAST"
  observedAt := seconds 1785337200
  onHandQuantity := numeric 36000
  reservedQuantity := numeric 0
  sourceUnit := .case
  unitsPerSourceUnit := numeric 12000 case_fits
  productMappingVersion := 1
  warehouseMappingVersion := 1
  sourceRow := 2

def laterSnapshot : InventorySnapshot :=
  { snapshot with
    importJobId := 2
    sourceReference := "SNAP-2"
    observedAt := seconds 1785340800
    onHandQuantity := numeric 180000 }

end Small

/-- The two files imported one after the other. -/
theorem last_commit_wins_in_turn : ∃ hub row, Hub.Reachable Small.hourlyEnv hub ∧
    (snapshotsAt (20, 10) hub.db).getLast? = some Small.laterSnapshot ∧ hub.db.position 20 10 = some row ∧
    row.quantities = Small.laterSnapshot.quantities := by
  have shown : (Machine.exec (Hub.step Small.hourlyEnv) Small.hub
      (Small.submitted ++ Small.claimed 0 (Small.moment 1) ++ Small.applied 0 (Small.moment 1) ++
        Small.completed 0 (Small.moment 2) ++ Small.laterImported 1 (Small.moment 3))).any
      (fun hub => (hub.positionLog.all fun w => w.origin.isSome) &&
        decide (LastCurrent (20, 10) Small.hub.db.positions hub.positionLog) &&
        (snapshotsAt (20, 10) hub.db).getLast? = some Small.laterSnapshot) = true := by
    decide +kernel
  simp only [Option.any_eq_true, Bool.and_eq_true, decide_eq_true_eq, List.all_eq_true] at shown
  obtain ⟨hub, steps, ⟨imports, current⟩, last⟩ := shown
  have run : Hub.Run Small.hourlyEnv Machine.unguarded Small.hub hub := Machine.exec_run (fun _ _ _ => trivial) steps
  obtain ⟨row, present, quantities⟩ :=
    last_commit_wins Small.initial run (fun w member _ => imports w member) current last
  exact ⟨hub, row, ⟨Small.hub, Small.initial, run⟩, last, present, quantities⟩

/-- The 15:00 file loses its connection and is retried after the 16:00 file is in: of the same two
snapshots, the older one is left. Imported in turn, the newer one is. -/
theorem late_snapshot_rolls_back : ∃ hub inTurn,
    Hub.Reachable Small.hourlyEnv hub ∧ Hub.Reachable Small.hourlyEnv inTurn ∧
    Small.snapshot.observedAt < Small.laterSnapshot.observedAt ∧
    (∀ w ∈ hub.positionLog, w.origin.isSome) ∧
    snapshotsAt (20, 10) hub.db = [Small.laterSnapshot, Small.snapshot] ∧
    quantitiesAt (20, 10) hub.db.positions = some Small.snapshot.quantities ∧
    snapshotsAt (20, 10) inTurn.db = [Small.snapshot, Small.laterSnapshot] ∧
    quantitiesAt (20, 10) inTurn.db.positions = some Small.laterSnapshot.quantities ∧
    Small.snapshot.quantities ≠ Small.laterSnapshot.quantities := by
  have late : (Machine.exec (Hub.step Small.hourlyEnv) Small.hub
      (Small.submitted ++ Small.claimed 0 (Small.moment 1) ++ Small.failed 0 (Small.moment 2) ++
        Small.laterImported 1 (Small.moment 3) ++ Small.claimed 2 (Small.moment 100) ++
        Small.applied 2 (Small.moment 100) ++ Small.completed 2 (Small.moment 101))).any
      (fun hub => (hub.positionLog.all fun w => w.origin.isSome) &&
        snapshotsAt (20, 10) hub.db = [Small.laterSnapshot, Small.snapshot] &&
        quantitiesAt (20, 10) hub.db.positions = some Small.snapshot.quantities) = true := by
    decide +kernel
  have prompt : (Machine.exec (Hub.step Small.hourlyEnv) Small.hub
      (Small.submitted ++ Small.claimed 0 (Small.moment 1) ++ Small.applied 0 (Small.moment 1) ++
        Small.completed 0 (Small.moment 2) ++ Small.laterImported 1 (Small.moment 3))).any
      (fun hub => snapshotsAt (20, 10) hub.db = [Small.snapshot, Small.laterSnapshot] &&
        quantitiesAt (20, 10) hub.db.positions = some Small.laterSnapshot.quantities) = true := by
    decide +kernel
  have reached {labels : List Label} {hub : Hub}
      (steps : Machine.exec (Hub.step Small.hourlyEnv) Small.hub labels = some hub) :
      Hub.Reachable Small.hourlyEnv hub :=
    ⟨Small.hub, Small.initial, Machine.exec_run (fun _ _ _ => trivial) steps⟩
  simp only [Option.any_eq_true, Bool.and_eq_true, decide_eq_true_eq, List.all_eq_true] at late prompt
  obtain ⟨hub, steps, ⟨imports, kept⟩, left⟩ := late
  obtain ⟨inTurn, steps', kept', left'⟩ := prompt
  exact ⟨hub, inTurn, reached steps, reached steps', by decide, imports, kept, left, kept', left', by decide⟩

end SupplyChainHub
