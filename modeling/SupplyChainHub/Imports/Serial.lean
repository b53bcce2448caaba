import SupplyChainHub.Imports.Workers

/-!
Jobs executed side by side, and the same jobs executed one after another. While every flush still finds what
was looked up for it, the jobs committed so far come to the same as executing them in the order of their
commits.
-/

namespace SupplyChainHub

/-! ### One after another -/

/-- What a job reports, and the rows its errors name. -/
structure ImportOutcome where
  status : ImportStatus
  totalRecords : Nat
  acceptedRecords : Nat
  rejectedRecords : Nat
  errorRows : List (Option Nat)
  deriving DecidableEq

def Database.outcome (db : Database) (id : Id) : Option ImportOutcome :=
  (db.job id).map fun job => {
    status := job.status
    totalRecords := job.totalRecords
    acceptedRecords := job.acceptedRecords
    rejectedRecords := job.rejectedRecords
    errorRows := (db.errorsOf id).map (·.sourceRow) }

def importOutcome (accepted : Nat) (errorRows : List (Option Nat)) : ImportOutcome where
  status := if errorRows.toFinset.card = 0 then .completed else .completedWithErrors
  totalRecords := accepted + errorRows.toFinset.card
  acceptedRecords := accepted
  rejectedRecords := errorRows.toFinset.card
  errorRows

/-- The rows of a job's errors once a file is imported: those it had, the adapter's, those turned away. -/
def importErrorRows (db : Database) (jobId supplierId : Id) (result : InventoryAdapterResult) : List (Option Nat) :=
  (db.errorsOf jobId).map (·.sourceRow) ++ (result.errors.map (·.sourceRow) ++
    (turnedAway db supplierId result.records).map fun r => some r.sourceRow)

/-- What the retained payload of a job adapts to. -/
structure Hub.Adapts (env : Env) (start : Hub) (id : Id) (job : ImportJob) (result : InventoryAdapterResult) :
    Prop where
  found : start.db.job id = some job
  adapted : adaptRetainedPayload env start.objects true job = .ok result

/-- Every record can be sent, and every record on the plan stored, as one version more of its position. -/
structure Storable (db : Database) (supplierId : Id) (result : InventoryAdapterResult) : Prop where
  sendable : ∀ r ∈ result.records, r.sendable = true
  entries : ∀ e ∈ plan db supplierId result.records, e.Storable
  versions : VersionsFit db.positions (plan db supplierId result.records)

/-- The snapshots and positions after importing jobs of `start`, one after another. -/
inductive Serial (env : Env) (start : Hub) :
    List (Id × ImportOutcome) → List InventorySnapshot → List InventoryPosition → Prop where
  | nil : Serial env start [] start.db.snapshots start.db.positions
  | snoc {order : List (Id × ImportOutcome)} {snapshots added : List InventorySnapshot}
      {positions : List InventoryPosition} {id : Id} {job : ImportJob} {result : InventoryAdapterResult}
      {writes : List PositionWrite} (before : Serial env start order snapshots positions)
      (adapts : start.Adapts env id job result)
      (storable : Storable { start.db with snapshots, positions } job.supplierId result)
      (booked : Booked { start.db with snapshots, positions } id job.supplierId
        (plan { start.db with snapshots, positions } job.supplierId result.records) added writes) :
      Serial env start
        (order ++ [(id, importOutcome added.length
          (importErrorRows { start.db with snapshots, positions } id job.supplierId result))])
        (snapshots ++ added) (applyWrites positions writes)

section
variable {env : Env} {start hub next : Hub} {id : Id} {job other : ImportJob} {db after : Database}
    {result result' : InventoryAdapterResult} {supplierId : Id} {records : List CanonicalInventoryRecord}
    {order order' : List (Id × ImportOutcome)} {snapshots snapshots' : List InventorySnapshot}
    {positions positions' : List InventoryPosition}

theorem Hub.Adapts.unique (adapts : start.Adapts env id job result) (again : start.Adapts env id other result') :
    other = job ∧ result' = result := by
  obtain rfl := Option.some.inj (again.found.symm.trans adapts.found)
  exact ⟨rfl, Except.ok.inj (again.adapted.symm.trans adapts.adapted)⟩

theorem plan_congr (products : after.productMappings = db.productMappings)
    (warehouses : after.warehouseMappings = db.warehouseMappings) (snapshots : after.snapshots = db.snapshots) :
    plan after supplierId records = plan db supplierId records ∧
      turnedAway after supplierId records = turnedAway db supplierId records := by
  rw [plan, turnedAway, planned_congr products warehouses snapshots]
  exact ⟨rfl, rfl⟩

/-- What other imports add can only take entries off a plan. -/
theorem plan_shrinks {added : List InventorySnapshot} {e : PlanEntry}
    (products : after.productMappings = db.productMappings)
    (warehouses : after.warehouseMappings = db.warehouseMappings)
    (snapshots : after.snapshots = db.snapshots ++ added) (member : e ∈ plan after supplierId records) :
    e ∈ plan db supplierId records := by
  obtain ⟨r, m, w⟩ := e
  refine Firsts.picks_judge ?_ member
  obtain ⟨fresh, mappings⟩ := planned_some (Firsts.mem_picks member).2.2
  have before : db.imported (recordKey supplierId r) = false := by
    rw [Database.imported, snapshots, List.any_append, Bool.or_eq_false_iff] at fresh
    exact fresh.1
  rw [planned_fresh before, ← mappings]
  exact (mappingsFor_congr products warehouses).symm

theorem Serial.grown (serial : Serial env start order snapshots positions) :
    ∃ added, snapshots = start.db.snapshots ++ added := by
  induction serial with
  | nil => exact ⟨[], (List.append_nil _).symm⟩
  | snoc _ _ _ _ ih =>
    obtain ⟨earlier, rfl⟩ := ih
    exact ⟨_, List.append_assoc _ _ _⟩

/-- The last of the jobs, and those before it. -/
theorem Serial.of_snoc {entry : Id × ImportOutcome} (serial : Serial env start (order ++ [entry]) snapshots positions) :
    ∃ earlier stock job result added writes, Serial env start order earlier stock ∧
      start.Adapts env entry.1 job result ∧
      Storable { start.db with snapshots := earlier, positions := stock } job.supplierId result ∧
      Booked { start.db with snapshots := earlier, positions := stock } entry.1 job.supplierId
        (plan { start.db with snapshots := earlier, positions := stock } job.supplierId result.records) added writes ∧
      snapshots = earlier ++ added ∧ positions = applyWrites stock writes ∧
      entry.2 = importOutcome added.length
        (importErrorRows { start.db with snapshots := earlier, positions := stock } entry.1 job.supplierId result) := by
  generalize whole : order ++ [entry] = all at serial
  cases serial with
  | nil => exact absurd whole (List.append_ne_nil_of_right_ne_nil _ (List.cons_ne_nil _ _))
  | snoc before adapts storable booked =>
    obtain ⟨rfl, last⟩ := List.append_inj' whole rfl
    obtain rfl := (List.cons.inj last).1
    exact ⟨_, _, _, _, _, _, before, adapts, storable, booked, rfl, rfl, rfl⟩

/-- The jobs and their order say all. -/
theorem Serial.unique (serial : Serial env start order snapshots positions)
    (again : Serial env start order' snapshots' positions') (same : order'.map Prod.fst = order.map Prod.fst) :
    order' = order ∧ snapshots' = snapshots ∧ positions' = positions := by
  induction serial generalizing order' snapshots' positions' with
  | nil =>
    cases again with
    | nil => exact ⟨rfl, rfl, rfl⟩
    | snoc => simp at same
  | snoc _ adapts _ booked ih =>
    cases again with
    | nil => simp at same
    | snoc before' adapts' _ booked' =>
      rw [List.map_append, List.map_append] at same
      obtain ⟨earlier, last⟩ := List.append_inj' same rfl
      obtain ⟨rfl, rfl, rfl⟩ := ih before' earlier
      obtain rfl := (List.cons.inj last).1
      obtain ⟨rfl, rfl⟩ := adapts.unique adapts'
      obtain ⟨rfl, rfl⟩ := booked.unique booked'
      exact ⟨rfl, rfl, rfl⟩

end

end SupplyChainHub
