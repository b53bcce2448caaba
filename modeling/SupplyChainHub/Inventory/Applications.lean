import SupplyChainHub.Imports.Duplicates
import SupplyChainHub.Inventory.LastCommit

/-!
What applying a result leaves behind: the positions its accepted records reach, each with the quantities of the last
of them and a version for every one, and the snapshots that say what the records were converted with.
-/

namespace SupplyChainHub

/-- Where a record's mappings lead, when it passes their checks. -/
def placeFor (db : Database) (supplierId : Id) (record : CanonicalInventoryRecord) : Option (Id × Id) :=
  (mappingsFor db supplierId record).map fun mappings => (mappings.2.warehouseId, mappings.1.productId)

def acceptedRecords (verdicts : List RecordVerdict) : List CanonicalInventoryRecord :=
  (verdicts.filter fun v => v.error.isNone).map (·.record)

/-- The snapshot of a record, with what the active mappings say. -/
structure Converted (db : Database) (job : ImportJob) (record : CanonicalInventoryRecord) (s : InventorySnapshot)
    (m : SupplierProductMapping) (w : SupplierWarehouseMapping) : Prop where
  productMapping : productMappingFor db job.supplierId record = some m
  warehouseMapping : warehouseMappingFor db job.supplierId record = some w
  key : s.sourceKey = recordKey job.supplierId record
  product : s.productId = m.productId
  warehouse : s.warehouseId = w.warehouseId
  factor : s.unitsPerSourceUnit = m.unitsPerSourceUnit
  productVersion : s.productMappingVersion = m.version
  warehouseVersion : s.warehouseMappingVersion = w.version
  onHand : Numeric183.store? (record.onHandQuantity * m.unitsPerSourceUnit.value) = some s.onHandQuantity
  reserved : Numeric183.store? (record.reservedQuantity * m.unitsPerSourceUnit.value) = some s.reservedQuantity
  positive : 0 < m.unitsPerSourceUnit.thousandths

/-- The accepted records that reach a place, each with its snapshot, in file order. -/
def reachedBy (db : Database) (supplierId : Id) (accepted : List CanonicalInventoryRecord)
    (snapshots : List InventorySnapshot) (place : Id × Id) : List (CanonicalInventoryRecord × InventorySnapshot) :=
  (accepted.zip snapshots).filter fun entry => placeFor db supplierId entry.1 = some place

structure AppliedResult (db : Database) (job : ImportJob) (accepted : List CanonicalInventoryRecord) (a : Applying) :
    Prop where
  converted : List.Forall₂ (fun record s => ∃ m w, Converted db job record s m w) accepted a.snapshots
  snapshots : (a.database db).snapshots = db.snapshots ++ a.snapshots
  productMappings : (a.database db).productMappings = db.productMappings
  warehouseMappings : (a.database db).warehouseMappings = db.warehouseMappings
  others : ∀ place, reachedBy db job.supplierId accepted a.snapshots place = [] →
    positionAt place (a.database db).positions = positionAt place db.positions
  reached : ∀ place record s,
    (reachedBy db job.supplierId accepted a.snapshots place).getLast? = some (record, s) →
      ∃ p, positionAt place (a.database db).positions = some p ∧ p.onHandQuantity = s.onHandQuantity ∧
        p.reservedQuantity = s.reservedQuantity ∧
        p.version = (positionAt place db.positions).elim 0 InventoryPosition.version +
          (reachedBy db job.supplierId accepted a.snapshots place).length

section
variable {db : Database} {a b final : Applying} {done : List CanonicalInventoryRecord} {job : ImportJob}
    {record : CanonicalInventoryRecord} {s : InventorySnapshot} {m : SupplierProductMapping}
    {w : SupplierWarehouseMapping} {verdicts : List RecordVerdict} {verdict : Option ImportJobError}
    {place : Id × Id} {positions : List InventoryPosition} {write : PositionWrite} {importJobId supplierId : Id}
    {entries : List PlanEntry} {snapshots : List InventorySnapshot} {writes : List PositionWrite}

/-! ### What is booked at a place -/

theorem Booked.bookings (booked : Booked db importJobId supplierId entries snapshots writes) (place : Id × Id) :
    bookings place entries = (snapshots.filter fun s => s.place = place).length := by
  induction booked with
  | nil => rfl
  | snoc before e write key onHand reserved origin loaded ih =>
    rw [bookings_snoc, ih, List.filter_append, List.length_append]
    by_cases mine : e.place = place
    · have here : (recordSnapshot importJobId supplierId e.1 e.2.1 e.2.2 write.storedOnHand
        write.storedReserved).place = place := mine
      simp [mine, here]
    · have elsewhere : (recordSnapshot importJobId supplierId e.1 e.2.1 e.2.2 write.storedOnHand
        write.storedReserved).place ≠ place := mine
      simp [mine, elsewhere]

theorem Booked.quantities (booked : Booked db importJobId supplierId entries snapshots writes) (place : Id × Id) :
    quantitiesAt place (applyWrites db.positions writes) =
      ((snapshots.filter fun s => s.place = place).getLast?.map InventorySnapshot.quantities).or
        (quantitiesAt place db.positions) := by
  induction booked with
  | nil => rfl
  | snoc before e write key onHand reserved origin loaded ih =>
    rw [applyWrites_snoc, List.filter_append]
    by_cases mine : e.place = place
    · subst mine
      have here : (recordSnapshot importJobId supplierId e.1 e.2.1 e.2.2 write.storedOnHand
        write.storedReserved).place = e.place := rfl
      rw [quantities_current key loaded]
      simp only [here, List.filter_cons, decide_true, if_true, List.filter_nil, List.getLast?_append]
      rfl
    · have elsewhere : (recordSnapshot importJobId supplierId e.1 e.2.1 e.2.2 write.storedOnHand
        write.storedReserved).place ≠ place := mine
      rw [quantities_other (fun same => mine (key.symm.trans same)), ih]
      simp [elsewhere]

theorem Booked.places (booked : Booked db importJobId supplierId entries snapshots writes) :
    writes.map PositionWrite.key = snapshots.map InventorySnapshot.place := by
  induction booked with
  | nil => rfl
  | snoc before e write key _ _ _ _ ih =>
    rw [List.map_append, List.map_append, ih, List.map_singleton, List.map_singleton, key]
    rfl

theorem Booked.elsewhere (booked : Booked db importJobId supplierId entries snapshots writes)
    (none : (snapshots.filter fun s => s.place = place) = []) :
    positionAt place (applyWrites db.positions writes) = positionAt place db.positions := by
  apply applyWrites_other
  intro w member same
  have reached : place ∈ snapshots.map InventorySnapshot.place := by
    rw [← booked.places, ← same]
    exact List.mem_map_of_mem member
  obtain ⟨s, present, here⟩ := List.mem_map.mp reached
  exact List.filter_eq_nil_iff.mp none s present (decide_eq_true here)

/-! ### Records and their snapshots -/

theorem mappingsFor_found (h : mappingsFor db supplierId record = some (m, w)) :
    productMappingFor db supplierId record = some m ∧ warehouseMappingFor db supplierId record = some w := by
  unfold mappingsFor at h
  cases product : productMappingFor db supplierId record with
  | none =>
    rw [product] at h
    contradiction
  | some m' =>
    cases warehouse : warehouseMappingFor db supplierId record with
    | none =>
      rw [product, warehouse] at h
      contradiction
    | some w' =>
      simp only [product, warehouse] at h
      split at h
      · cases h
        exact ⟨rfl, rfl⟩
      · contradiction

theorem RecordOutcome.converted (outcome : RecordOutcome db done a record b none) :
    ∃ s m w, b.snapshots = a.snapshots ++ [s] ∧ Converted db a.job record s m w ∧
      placeFor db a.job.supplierId record = some s.place := by
  cases outcome with
  | @accepted m w _ _ mappings unknown onHand reserved nonnegative positive snapshots errors =>
    obtain ⟨product, warehouse⟩ := mappingsFor_found mappings
    refine ⟨_, m, w, snapshots, ⟨product, warehouse, rfl, rfl, rfl, rfl, rfl, rfl, onHand, reserved, positive⟩, ?_⟩
    rw [placeFor, mappings]
    rfl

theorem RecordOutcome.kept {e : ImportJobError} (outcome : RecordOutcome db done a record b (some e)) :
    b.snapshots = a.snapshots := by
  cases outcome with
  | rejected snapshots => exact snapshots

/-- Every accepted record adds its snapshot, and nothing else does. -/
theorem Verdicts.converted (all : Verdicts db done a verdicts final) :
    final.job = a.job ∧ ∃ added, final.snapshots = a.snapshots ++ added ∧
      List.Forall₂ (fun record s => (∃ m w, Converted db a.job record s m w) ∧
        placeFor db a.job.supplierId record = some s.place) (acceptedRecords verdicts) added := by
  induction all with
  | nil => exact ⟨rfl, [], (List.append_nil _).symm, .nil⟩
  | @cons done rest a b final record error verdicts past tail ih =>
    obtain ⟨job, added, snapshots, pairs⟩ := ih
    rw [past.job] at job pairs
    refine ⟨job, ?_⟩
    have outcome := past.outcome
    cases error with
    | none =>
      obtain ⟨s, m, w, own, converted, place⟩ := outcome.converted
      refine ⟨s :: added, ?_, .cons ⟨⟨m, w, converted⟩, place⟩ pairs⟩
      rw [snapshots, own, List.append_assoc, List.singleton_append]
    | some e =>
      exact ⟨added, by rw [snapshots, outcome.kept], pairs⟩

theorem reachedBy_snapshots (place : Id × Id) {accepted : List CanonicalInventoryRecord}
    (pairs : List.Forall₂ (fun record (s : InventorySnapshot) => (∃ m w, Converted db job record s m w) ∧
      placeFor db job.supplierId record = some s.place) accepted snapshots) :
    (reachedBy db job.supplierId accepted snapshots place).map Prod.snd =
      snapshots.filter fun s => s.place = place := by
  unfold reachedBy
  induction pairs with
  | nil => rfl
  | @cons record s accepted snapshots both pairs ih =>
    rw [List.zip_cons_cons, List.filter_cons, List.filter_cons]
    by_cases here : s.place = place
    · simp only [both.2, here, decide_true, if_true, List.map_cons, ih]
    · have elsewhere : placeFor db job.supplierId record ≠ some place := by
        rw [both.2]
        exact fun same => here (Option.some.inj same)
      simp only [elsewhere, here, decide_false, Bool.false_eq_true, if_false, ih]

theorem applied_converted {session : WorkerSession} {result : InventoryAdapterResult} {events : List OperationEvent}
    (applied : applyInventoryResult db session result events = .next (a, verdicts)) :
    List.Forall₂ (fun record s => (∃ m w, Converted db session.job record s m w) ∧
      placeFor db session.job.supplierId record = some s.place) (acceptedRecords verdicts) a.snapshots := by
  obtain ⟨-, all⟩ := applyInventoryResult_verdicts applied
  obtain ⟨started, -, none, -⟩ := start_work db session result events
  have opened : (Applying.start db session result events).job = session.job := congrArg WorkerSession.job started
  obtain ⟨-, added, own, pairs⟩ := all.converted
  rw [opened] at pairs
  rw [none, List.nil_append] at own
  rwa [own]

end

/-- Applied with nobody else writing, a result changes just the positions that its accepted records reach. -/
theorem result_changes_reached_positions {db : Database} {session : WorkerSession} {result : InventoryAdapterResult}
    {events : List OperationEvent} {a : Applying} {verdicts : List RecordVerdict}
    (applied : applyInventoryResult db session result events = .next (a, verdicts)) :
    AppliedResult db session.job (acceptedRecords verdicts) a := by
  have pairs := applied_converted applied
  have booked := (applyInventoryResult_verdicts applied).1.booked
  constructor
  · exact pairs.imp fun record s both => both.1
  · rfl
  · rfl
  · rfl
  · intro place unreached
    have absent := reachedBy_snapshots place pairs
    rw [unreached] at absent
    exact booked.elsewhere absent.symm
  · intro place record s last
    have here := reachedBy_snapshots place pairs
    have final := congrArg List.getLast? here
    rw [List.getLast?_map, last] at final
    have quantities := booked.quantities place
    rw [← final] at quantities
    obtain ⟨p, present, same⟩ := Option.map_eq_some_iff.mp quantities
    obtain ⟨onHand, reserved⟩ := Prod.mk.inj same
    have version : versionAt place (applyWrites db.positions a.writes) = versionAt place db.positions + _ :=
      booked.version
    rw [booked.bookings, ← here, List.length_map, versionAt, present] at version
    exact ⟨p, present, onHand, reserved, version⟩

theorem result_changes_reached_positions_twice : ∃ a verdicts,
    applyInventoryResult Small.hub.db Small.session { records := [Small.line, Small.laterLine] } [] =
        .next (a, verdicts) ∧
      AppliedResult Small.hub.db Small.session.job (acceptedRecords verdicts) a ∧
      (positionAt (20, 10) (a.database Small.hub.db).positions).map InventoryPosition.version = some 3 := by
  have shown : (applyInventoryResult Small.hub.db Small.session { records := [Small.line, Small.laterLine] }
      []).result?.any (fun p => (positionAt (20, 10) (p.1.database Small.hub.db).positions).map
        InventoryPosition.version = some 3) = true := by decide +kernel
  obtain ⟨⟨a, verdicts⟩, applied, version⟩ := (Option.any_eq_true _ _).mp shown
  have completes := Outcome.result?_eq applied
  exact ⟨a, verdicts, completes, result_changes_reached_positions completes, of_decide_eq_true version⟩

end SupplyChainHub
