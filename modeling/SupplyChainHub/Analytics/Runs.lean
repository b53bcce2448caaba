import SupplyChainHub.Analytics.Synthetic
import SupplyChainHub.Database.Schema
import SupplyChainHub.Imports.Uploads
import SupplyChainHub.Library.Paging

/-!
`application/analytics_services.py`: runs over synthetic inputs, their rows, and the listings of them.
-/

namespace SupplyChainHub

inductive AnalyticsEngine where
  | pandas | polars | numpy
  deriving DecidableEq

def AnalyticsEngine.value : AnalyticsEngine → String
  | .pandas => "pandas"
  | .polars => "polars"
  | .numpy => "numpy"

inductive AnalyticsRunType where
  | inventoryReconciliation | stockoutRisk
  deriving DecidableEq

def AnalyticsRunType.value : AnalyticsRunType → String
  | .inventoryReconciliation => "inventory_reconciliation"
  | .stockoutRisk => "stockout_risk"

def RiskSeverity.value : RiskSeverity → String
  | .none => "none"
  | .low => "low"
  | .medium => "medium"
  | .high => "high"

/-! ### Rows -/

inductive RunSummary where
  | reconciliation (matchCount : Int) (mismatchCount : Nat) (mismatchRate : ℚ) (dataframeBytes : Nat)
  | stockoutRisk (severityCounts : List (RiskSeverity × Nat)) (thresholds : RiskThresholds)
      (forecastMetrics : ForecastMetrics)

/-- `durationMs` is in thousandths. -/
structure AnalyticsRun where
  id : Id
  runType : AnalyticsRunType
  engine : AnalyticsEngine
  datasetSeed : Nat
  inputRows : Nat
  durationMs : Int
  summary : RunSummary

def AnalyticsRun.row (run : AnalyticsRun) : Storage.Row := [
  ("id", .other),
  ("run_type", .text run.runType.value),
  ("engine", .text run.engine.value),
  ("dataset_seed", .natural run.datasetSeed),
  ("input_rows", .natural run.inputRows),
  ("duration_ms", .decimal run.durationMs 3),
  ("summary", .other)]

structure InventoryReconciliation extends ReconciliationResult where
  runId : Id
  deriving DecidableEq

def InventoryReconciliation.row (r : InventoryReconciliation) : Storage.Row := [
  ("run_id", .other),
  ("record_index", .natural r.recordIndex.toNat),
  ("supplier_code", .text r.supplierCode),
  ("product_sku", .text r.productSku),
  ("warehouse_code", .text r.warehouseCode),
  ("reported_quantity", .decimal r.reportedQuantity 0),
  ("hub_quantity", .decimal r.hubQuantity 0),
  ("difference_quantity", .decimal r.differenceQuantity 0),
  ("matches", .other)]

/-- The quantities are in thousandths, the ratio in millionths. -/
structure StockoutRisk where
  runId : Id
  recordIndex : Int
  productSku : String
  warehouseCode : String
  onHandQuantity : Int
  reservedQuantity : Int
  inboundQuantity : Int
  forecastQuantity : Int
  actualDemandQuantity : Int
  availableQuantity : Int
  projectedEndingQuantity : Int
  projectedShortageQuantity : Int
  shortageRatio : Int
  severity : RiskSeverity
  deriving DecidableEq

def StockoutRisk.row (r : StockoutRisk) : Storage.Row := [
  ("run_id", .other),
  ("record_index", .natural r.recordIndex.toNat),
  ("product_sku", .text r.productSku),
  ("warehouse_code", .text r.warehouseCode),
  ("on_hand_quantity", .decimal r.onHandQuantity 3),
  ("reserved_quantity", .decimal r.reservedQuantity 3),
  ("inbound_quantity", .decimal r.inboundQuantity 3),
  ("forecast_quantity", .decimal r.forecastQuantity 3),
  ("actual_demand_quantity", .decimal r.actualDemandQuantity 3),
  ("available_quantity", .decimal r.availableQuantity 3),
  ("projected_ending_quantity", .decimal r.projectedEndingQuantity 3),
  ("projected_shortage_quantity", .decimal r.projectedShortageQuantity 3),
  ("shortage_ratio", .decimal r.shortageRatio 6),
  ("severity", .text r.severity.value)]

structure AnalyticsDatabase where
  runs : List AnalyticsRun := []
  reconciliations : List InventoryReconciliation := []
  stockoutRisks : List StockoutRisk := []

/-! ### The runs -/

/-- What the runs use besides the database. -/
structure Lab where
  pandas : Frames
  polars : Frames
  reconciliationDraws : ReconciliationDraws
  riskDraws : RiskDraws
  sqrt : ℚ → ℚ
  percentile : List ℚ → ℚ → ℚ

/-- A percentile is interpolated linearly, as is the default of `np.percentile`. -/
structure Lab.Documented (lab : Lab) : Prop where
  pandas : lab.pandas.Documented
  polars : lab.polars.Documented
  reconciliationDraws : lab.reconciliationDraws.Documented
  riskDraws : lab.riskDraws.Documented
  percentile : ∀ xs q, xs ≠ [] → 0 ≤ q → q ≤ 100 → lab.percentile xs q = Quantiles.quantile (q / 100) xs

/-- What is measured of an execution: nanoseconds of the clock, and the bytes that an engine says its frames take up.
The engines count them differently. -/
structure Measure where
  elapsed : Nat
  dataframeBytes : Nat

structure ReconciliationExecution where
  results : List ReconciliationResult
  dataframeBytes : Nat

/-- `_decimal`: half up, which for `decimal` is away from zero. More than 28 digits are an invalid operation. -/
def quantize (places : Nat) (value : ℚ) : Except Raised Int :=
  let rounded := roundHalfAway (value * 10 ^ places)
  if rounded.natAbs < 10 ^ 28 then .ok rounded else .error ⟨[], "InvalidOperation"⟩

/-- Nanoseconds as milliseconds. -/
def durationMs (elapsed : Nat) : Except Raised Int := quantize 3 (elapsed / 1000000)

def AnalyticsRun.statement (run : AnalyticsRun) : Storage.Statement where
  table := Schema.analyticsRuns
  row := run.row
  violates := decide (run.inputRows = 0) || decide (run.durationMs < 0)

def reconciliationStatements (run : AnalyticsRun) (rows : List InventoryReconciliation) : List Storage.Statement :=
  run.statement :: rows.map fun r => {
    table := Schema.inventoryReconciliations
    row := r.row
    violates := 1 < rows.countP fun other => other.recordIndex = r.recordIndex }

/-- The checks of the table. -/
def StockoutRisk.Nonnegative (r : StockoutRisk) : Prop := 0 ≤ r.projectedShortageQuantity ∧ 0 ≤ r.shortageRatio

instance (r : StockoutRisk) : Decidable r.Nonnegative := inferInstanceAs (Decidable (_ ∧ _))

def riskStatements (run : AnalyticsRun) (rows : List StockoutRisk) : List Storage.Statement :=
  run.statement :: rows.map fun r => {
    table := Schema.stockoutRisks
    row := r.row
    violates := !decide r.Nonnegative || decide (1 < rows.countP fun other => other.recordIndex = r.recordIndex) }

section
variable (lab : Lab) (db : AnalyticsDatabase)

/-- The inputs of a seed, reconciled by the engine. -/
def executeReconciliation (engine : AnalyticsEngine) (rowCount seed dataframeBytes : Nat) :
    Except Raised ReconciliationExecution :=
  match generateReconciliationInputs lab.reconciliationDraws rowCount seed with
  | .error e => .error e
  | .ok (supplierRows, hubRows) =>
    let results :=
      if engine = .pandas then reconcileWithPandas lab.pandas supplierRows hubRows
      else reconcileWithPolars lab.polars supplierRows hubRows
    results.map (ReconciliationExecution.mk · dataframeBytes)

/-- The run that a reconciliation adds. -/
def reconciliationRun (engine : AnalyticsEngine) (rowCount seed : Nat) (durationMs : Int) (id : Id)
    (execution : ReconciliationExecution) : AnalyticsRun :=
  let mismatchCount := execution.results.countP fun result => !result.isMatch
  { id, engine, durationMs
    runType := .inventoryReconciliation
    datasetSeed := seed
    inputRows := rowCount
    summary := .reconciliation ((rowCount : Int) - mismatchCount) mismatchCount (mismatchCount / rowCount)
      execution.dataframeBytes }

def runReconciliation (engine : AnalyticsEngine) (rowCount seed : Nat) (measure : Measure) (id : Id) :
    CallOutcome AnalyticsDatabase :=
  if engine = .numpy then
    ⟨db, some (.domain (.resourceConflict "Inventory reconciliation supports only pandas or polars."))⟩
  else
    match executeReconciliation lab engine rowCount seed measure.dataframeBytes, durationMs measure.elapsed with
    | .error e, _ | .ok _, .error e => ⟨db, some (.unmapped e)⟩
    | .ok execution, .ok durationMs =>
      let run := reconciliationRun engine rowCount seed durationMs id execution
      let rows := execution.results.map (InventoryReconciliation.mk · id)
      commit db { db with runs := db.runs ++ [run], reconciliations := db.reconciliations ++ rows }
        (reconciliationStatements run rows) "The reconciliation run could not be persisted."

def stockoutRow (id : Id) (result : StockoutRiskResult) : Except Raised StockoutRisk := do
  return {
    runId := id
    recordIndex := result.recordIndex
    productSku := result.productSku
    warehouseCode := result.warehouseCode
    onHandQuantity := ← quantize 3 result.onHandQuantity
    reservedQuantity := ← quantize 3 result.reservedQuantity
    inboundQuantity := ← quantize 3 result.inboundQuantity
    forecastQuantity := ← quantize 3 result.forecastQuantity
    actualDemandQuantity := ← quantize 3 result.actualDemandQuantity
    availableQuantity := ← quantize 3 result.availableQuantity
    projectedEndingQuantity := ← quantize 3 result.projectedEndingQuantity
    projectedShortageQuantity := ← quantize 3 result.projectedShortageQuantity
    shortageRatio := ← quantize 6 result.shortageRatio
    severity := result.severity }

def stockoutRows (id : Id) : List StockoutRiskResult → Except Raised (List StockoutRisk)
  | [] => .ok []
  | result :: rest =>
    match stockoutRow id result, stockoutRows id rest with
    | .ok row, .ok rows => .ok (row :: rows)
    | .error e, _ | .ok _, .error e => .error e

/-- `for severity in RiskSeverity` -/
def severities : List RiskSeverity := [.none, .low, .medium, .high]

def executeStockoutRisk (rowCount seed : Nat) : Except Raised RiskExecution :=
  match generateRiskInputs lab.riskDraws rowCount seed with
  | .error e => .error e
  | .ok inputs => calculateStockoutRisks lab.sqrt inputs

def runStockoutRisk (rowCount seed elapsed : Nat) (id : Id) : CallOutcome AnalyticsDatabase :=
  match executeStockoutRisk lab rowCount seed, durationMs elapsed with
  | .error e, _ | .ok _, .error e => ⟨db, some (.unmapped e)⟩
  | .ok execution, .ok durationMs =>
    match stockoutRows id execution.results with
    | .error e => ⟨db, some (.unmapped e)⟩
    | .ok rows =>
      let severityCounts := severities.map fun severity =>
        (severity, execution.results.countP fun result => result.severity = severity)
      let run : AnalyticsRun := {
        id, durationMs
        runType := .stockoutRisk
        engine := .numpy
        datasetSeed := seed
        inputRows := rowCount
        summary := .stockoutRisk severityCounts execution.thresholds execution.forecastMetrics }
      commit db { db with runs := db.runs ++ [run], stockoutRisks := db.stockoutRisks ++ rows }
        (riskStatements run rows) "The stockout-risk run could not be persisted."

end

/-! ### The listings -/

def getAnalyticsRun (db : AnalyticsDatabase) (runId : Id) : Except DomainError AnalyticsRun :=
  match db.runs.find? fun run => run.id = runId with
  | none => .error (.resourceNotFound ("Analytics run '" ++ runId.repr ++ "' was not found."))
  | some run => .ok run

def listReconciliations (db : AnalyticsDatabase) (runId : Id) (onlyMismatches : Bool) (offset limit : Nat) :
    Except DomainError (List InventoryReconciliation) := do
  let run ← getAnalyticsRun db runId
  if run.runType ≠ .inventoryReconciliation then
    throw (.resourceConflict ("Analytics run '" ++ runId.repr ++ "' is not a reconciliation run."))
  let rows := db.reconciliations.filter fun r => r.runId = runId
  let rows := if onlyMismatches then rows.filter fun r => !r.isMatch else rows
  return Paging.page (Paging.ordered (· ≤ ·) (fun r => r.recordIndex) rows) offset limit

def listStockoutRisks (db : AnalyticsDatabase) (runId : Id) (severity : Option RiskSeverity) (offset limit : Nat) :
    Except DomainError (List StockoutRisk) := do
  let run ← getAnalyticsRun db runId
  if run.runType ≠ .stockoutRisk then
    throw (.resourceConflict ("Analytics run '" ++ runId.repr ++ "' is not a stockout-risk run."))
  let rows := db.stockoutRisks.filter fun r => r.runId = runId
  let rows := match severity with
    | none => rows
    | some severity => rows.filter fun r => r.severity = severity
  return Paging.page (Paging.ordered (· ≤ ·) (fun r => r.recordIndex) rows) offset limit

/-! ### The machine -/

inductive AnalyticsLabel where
  | reconcile (engine : AnalyticsEngine) (rowCount seed : Nat) (measure : Measure) (id : Id)
  | assess (rowCount seed elapsed : Nat) (id : Id)

namespace AnalyticsDatabase

/-- The id of a new run is fresh. -/
def step (lab : Lab) (db : AnalyticsDatabase) : AnalyticsLabel → Option AnalyticsDatabase
  | .reconcile engine rowCount seed measure id =>
    if db.runs.any fun run => run.id = id then none
    else some (runReconciliation lab db engine rowCount seed measure id).db
  | .assess rowCount seed elapsed id =>
    if db.runs.any fun run => run.id = id then none
    else some (runStockoutRisk lab db rowCount seed elapsed id).db

abbrev Run (lab : Lab) : AnalyticsDatabase → AnalyticsDatabase → Prop := Machine.Run (step lab) Machine.unguarded

end AnalyticsDatabase

/-! ### What a run leaves -/

/-- One row for each index, in their order, and the counts of the summary are those of the rows. -/
structure AnalyticsRun.Reconciled (run : AnalyticsRun) (rows : List InventoryReconciliation) : Prop where
  indexes : rows.map (fun r => r.recordIndex) = (List.range run.inputRows).map Int.ofNat
  differences : ∀ r ∈ rows, r.differenceQuantity = r.reportedQuantity - r.hubQuantity ∧
    (r.isMatch = true ↔ r.reportedQuantity = r.hubQuantity)
  summary : ∃ dataframeBytes, run.summary = .reconciliation (rows.countP fun r => r.isMatch)
    (rows.countP fun r => !r.isMatch) ((rows.countP fun r => !r.isMatch) / run.inputRows) dataframeBytes

structure AnalyticsRun.Assessed (run : AnalyticsRun) (rows : List StockoutRisk) : Prop where
  indexes : rows.map (fun r => r.recordIndex) = (List.range run.inputRows).map Int.ofNat
  nonnegative : ∀ r ∈ rows, r.Nonnegative
  shortages : ∀ r ∈ rows, r.severity = .none ↔ r.projectedShortageQuantity = 0
  summary : ∃ thresholds forecastMetrics, run.summary =
    .stockoutRisk (severities.map fun severity => (severity, rows.countP fun r => r.severity = severity)) thresholds
      forecastMetrics

namespace AnalyticsDatabase

def reconciliationsOf (db : AnalyticsDatabase) (id : Id) : List InventoryReconciliation :=
  db.reconciliations.filter fun r => r.runId = id

def stockoutRisksOf (db : AnalyticsDatabase) (id : Id) : List StockoutRisk :=
  db.stockoutRisks.filter fun r => r.runId = id

/-- Nothing, or a run with all of its rows. -/
inductive Grown (db : AnalyticsDatabase) (id : Id) : AnalyticsDatabase → Prop where
  | same : Grown db id db
  | reconciled (run : AnalyticsRun) (rows : List InventoryReconciliation) (new : run.id = id)
      (type : run.runType = .inventoryReconciliation) (owned : ∀ r ∈ rows, r.runId = id) (sound : run.Reconciled rows) :
      Grown db id { db with runs := db.runs ++ [run], reconciliations := db.reconciliations ++ rows }
  | assessed (run : AnalyticsRun) (rows : List StockoutRisk) (new : run.id = id) (type : run.runType = .stockoutRisk)
      (owned : ∀ r ∈ rows, r.runId = id) (sound : run.Assessed rows) :
      Grown db id { db with runs := db.runs ++ [run], stockoutRisks := db.stockoutRisks ++ rows }

end AnalyticsDatabase

section
variable {lab : Lab} {db next : AnalyticsDatabase} {id : Id} {rowCount seed elapsed : Nat} {engine : AnalyticsEngine}
  {measure : Measure}

theorem countP_matches (results : List ReconciliationResult) :
    (results.length : Int) - (results.countP fun r => !r.isMatch) = results.countP fun r => r.isMatch := by
  have total := List.length_eq_countP_add_countP (fun r : ReconciliationResult => r.isMatch) (l := results)
  have others : (results.countP fun r => decide ¬r.isMatch = true) = results.countP fun r => !r.isMatch :=
    List.countP_congr fun r _ => by simp
  omega

theorem reconciled_difference (pair : SupplierInventoryRow × HubInventoryRow) :
    (reconciled pair).differenceQuantity = (reconciled pair).reportedQuantity - (reconciled pair).hubQuantity ∧
      ((reconciled pair).isMatch = true ↔ (reconciled pair).reportedQuantity = (reconciled pair).hubQuantity) :=
  ⟨rfl, decide_eq_true_iff⟩

theorem executeReconciliation_ok (documented : lab.Documented) (positive : 0 < rowCount)
    (engine : AnalyticsEngine) (dataframeBytes : Nat) : executeReconciliation lab engine rowCount seed dataframeBytes =
      .ok ⟨(List.range rowCount).map (syntheticResult lab.reconciliationDraws rowCount seed), dataframeBytes⟩ := by
  have drawn := documented.reconciliationDraws
  rw [executeReconciliation, generateReconciliationInputs, if_neg (by omega)]
  dsimp only
  split
  · rw [(reconcile_synthetic documented.pandas drawn).1]
    rfl
  · rw [(reconcile_synthetic documented.polars drawn).2]
    rfl

theorem executeReconciliation_positive {dataframeBytes : Nat} {execution : ReconciliationExecution}
    (executed : executeReconciliation lab engine rowCount seed dataframeBytes = .ok execution) : 0 < rowCount := by
  rw [executeReconciliation, generateReconciliationInputs] at executed
  by_contra none
  rw [if_pos (by omega)] at executed
  cases executed

theorem runReconciliation_grown (documented : lab.Documented) :
    db.Grown id (runReconciliation lab db engine rowCount seed measure id).db := by
  unfold runReconciliation
  split
  · exact .same
  · split
    · exact .same
    · exact .same
    · rename_i execution durationMs executed _
      have positive := executeReconciliation_positive executed
      rw [executeReconciliation_ok documented positive] at executed
      obtain rfl := Except.ok.inj executed
      refine commit_either (P := db.Grown id) .same fun _ => ?_
      refine .reconciled _ _ rfl rfl ?_ ⟨?_, ?_, ?_⟩
      · intro r member
        obtain ⟨result, -, rfl⟩ := List.mem_map.mp member
        rfl
      · rw [List.map_map, List.map_map]
        rfl
      · intro r member
        obtain ⟨result, produced, rfl⟩ := List.mem_map.mp member
        obtain ⟨index, -, rfl⟩ := List.mem_map.mp produced
        exact reconciled_difference _
      · have matched := countP_matches
          ((List.range rowCount).map (syntheticResult lab.reconciliationDraws rowCount seed))
        rw [List.length_map, List.length_range] at matched
        refine ⟨measure.dataframeBytes, ?_⟩
        dsimp only [reconciliationRun]
        rw [matched]
        simp only [List.countP_map, Function.comp_def]

theorem stockoutRow_kept {result : StockoutRiskResult} {r : StockoutRisk} (made : stockoutRow id result = .ok r) :
    r.runId = id ∧ r.recordIndex = result.recordIndex ∧ r.severity = result.severity ∧
      quantize 3 result.projectedShortageQuantity = .ok r.projectedShortageQuantity := by
  unfold stockoutRow at made
  simp only [bind, Except.bind, pure, Except.pure] at made
  repeat' split at made
  all_goals first | contradiction | (obtain rfl := Except.ok.inj made; exact ⟨rfl, rfl, rfl, by assumption⟩)

/-- Whole pieces are kept as they are. -/
theorem quantize_pieces {pieces thousandths : Int} (kept : quantize 3 (pieces : ℚ) = .ok thousandths) :
    thousandths = pieces * 1000 := by
  have scaled : (pieces : ℚ) * 10 ^ 3 = ((pieces * 1000 : Int) : ℚ) := by
    push_cast
    norm_num
  unfold quantize at kept
  rw [scaled, roundHalfAway_int] at kept
  dsimp only at kept
  split at kept
  · exact (Except.ok.inj kept).symm
  · cases kept

/-- The rows are those of the results, in their order. -/
theorem stockoutRows_kept {results : List StockoutRiskResult} {rows : List StockoutRisk}
    (made : stockoutRows id results = .ok rows) :
    (∀ r ∈ rows, ∃ result ∈ results, stockoutRow id result = .ok r) ∧
      rows.map (fun r => r.recordIndex) = results.map (fun r => r.recordIndex) ∧
      rows.map (fun r => r.severity) = results.map fun r => r.severity := by
  induction results generalizing rows with
  | nil =>
    obtain rfl := Except.ok.inj made
    exact ⟨List.forall_mem_nil _, rfl, rfl⟩
  | cons result rest ih =>
    rw [stockoutRows] at made
    split at made
    · rename_i row others first later
      obtain rfl := Except.ok.inj made
      obtain ⟨-, index, severity, -⟩ := stockoutRow_kept first
      obtain ⟨origins, indexes, severities⟩ := ih later
      refine ⟨List.forall_mem_cons.mpr ⟨⟨result, List.mem_cons_self, first⟩, fun r member => ?_⟩, ?_, ?_⟩
      · obtain ⟨origin, present, row⟩ := origins r member
        exact ⟨origin, List.mem_cons_of_mem _ present, row⟩
      · rw [List.map_cons, List.map_cons, index, indexes]
      · rw [List.map_cons, List.map_cons, severity, severities]
    · cases made
    · cases made

theorem countP_severity {results : List StockoutRiskResult} {rows : List StockoutRisk}
    (same : rows.map (fun r => r.severity) = results.map fun r => r.severity) (severity : RiskSeverity) :
    (results.countP fun r => r.severity = severity) = rows.countP fun r => r.severity = severity := by
  have counted := congrArg (List.countP fun s => decide (s = severity)) same
  rw [List.countP_map, List.countP_map] at counted
  exact counted.symm

theorem executeStockoutRisk_results {execution : RiskExecution}
    (executed : executeStockoutRisk lab rowCount seed = .ok execution) : ∃ thresholds, execution.results =
      (List.range rowCount).map fun index => (syntheticRisk lab.riskDraws rowCount seed index).result thresholds := by
  rw [executeStockoutRisk, generateRiskInputs] at executed
  by_cases none : rowCount < 1
  · rw [if_pos none] at executed
    cases executed
  · rw [if_neg none] at executed
    have nonempty : (List.range rowCount).map (syntheticRisk lab.riskDraws rowCount seed) ≠ [] := by
      simp
      omega
    obtain ⟨metrics, calculated⟩ := calculateStockoutRisks_ok lab.sqrt nonempty
    obtain rfl := Except.ok.inj (executed.symm.trans calculated)
    exact ⟨_, List.map_map⟩

/-- A row is without severity exactly if nothing is short. -/
theorem stockoutRow_shortage {thresholds : RiskThresholds} {index : Nat} {r : StockoutRisk}
    (documented : lab.Documented) (inside : index < rowCount)
    (made : stockoutRow id ((syntheticRisk lab.riskDraws rowCount seed index).result thresholds) = .ok r) :
    r.severity = .none ↔ r.projectedShortageQuantity = 0 := by
  obtain ⟨-, -, severity, kept⟩ := stockoutRow_kept made
  obtain ⟨pieces, whole⟩ := syntheticRisk_shortage lab.riskDraws rowCount seed index
  have shortage : r.projectedShortageQuantity = pieces * 1000 := quantize_pieces (whole ▸ kept)
  have classified : r.severity = .none ↔ (syntheticRisk lab.riskDraws rowCount seed index).shortage = 0 := by
    rw [severity, ← shortageRatio_zero (syntheticRisk_nonnegative documented.riskDraws inside)]
    exact severityAt_none
  rw [classified, whole, Int.cast_eq_zero, shortage]
  omega

theorem runStockoutRisk_grown (documented : lab.Documented) :
    db.Grown id (runStockoutRisk lab db rowCount seed elapsed id).db := by
  unfold runStockoutRisk
  split
  · exact .same
  · exact .same
  · rename_i execution durationMs executed _
    split
    · exact .same
    · rename_i rows made
      obtain ⟨origins, indexes, severity⟩ := stockoutRows_kept made
      obtain ⟨thresholds, results⟩ := executeStockoutRisk_results executed
      have owned : ∀ r ∈ rows, r.runId = id := by
        intro r member
        obtain ⟨result, -, row⟩ := origins r member
        exact (stockoutRow_kept row).1
      refine commit_either (P := db.Grown id) .same fun passed => ?_
      refine .assessed _ rows rfl rfl owned ⟨?_, ?_, ?_, ?_⟩
      · rw [indexes, results, List.map_map]
        rfl
      · intro r member
        have free := (passed _ (List.mem_cons_of_mem _ (List.mem_map_of_mem member))).2
        simp only [Bool.or_eq_false_iff, Bool.not_eq_false', decide_eq_true_eq] at free
        exact free.1
      · intro r member
        obtain ⟨result, listed, row⟩ := origins r member
        rw [results] at listed
        obtain ⟨index, inside, rfl⟩ := List.mem_map.mp listed
        exact stockoutRow_shortage documented (List.mem_range.mp inside) row
      · exact ⟨_, _, by simp only [countP_severity severity]; rfl⟩

end

/-! ### Every run of the service -/

namespace AnalyticsDatabase

/-- Every run has its rows, and no row is without its run. -/
structure Sound (db : AnalyticsDatabase) : Prop where
  ids : (db.runs.map AnalyticsRun.id).Nodup
  reconciled : ∀ run ∈ db.runs, run.runType = .inventoryReconciliation → run.Reconciled (db.reconciliationsOf run.id)
  assessed : ∀ run ∈ db.runs, run.runType = .stockoutRisk → run.Assessed (db.stockoutRisksOf run.id)
  reconciliations : ∀ r ∈ db.reconciliations, r.runId ∈ db.runs.map AnalyticsRun.id
  stockoutRisks : ∀ r ∈ db.stockoutRisks, r.runId ∈ db.runs.map AnalyticsRun.id

/-- What is there of a run stays as it is. -/
structure Keeps (db next : AnalyticsDatabase) : Prop where
  runs : db.runs ⊆ next.runs
  reconciliations : ∀ run ∈ db.runs, next.reconciliationsOf run.id = db.reconciliationsOf run.id
  stockoutRisks : ∀ run ∈ db.runs, next.stockoutRisksOf run.id = db.stockoutRisksOf run.id

section
variable {lab : Lab} {db next after : AnalyticsDatabase} {id other : Id}

theorem filter_owned {α : Type} {owner : α → Id} {rows : List α} (owned : ∀ r ∈ rows, owner r = id) :
    rows.filter (fun r => owner r = id) = rows :=
  List.filter_eq_self.mpr fun r member => decide_eq_true (owned r member)

theorem filter_foreign {α : Type} {owner : α → Id} {rows : List α} (owned : ∀ r ∈ rows, owner r = id)
    (different : other ≠ id) : rows.filter (fun r => owner r = other) = [] :=
  List.filter_eq_nil_iff.mpr fun r member same =>
    different ((of_decide_eq_true same).symm.trans (owned r member))

theorem Grown.keeps (grown : db.Grown id next) (fresh : id ∉ db.runs.map AnalyticsRun.id) : db.Keeps next := by
  have others {run : AnalyticsRun} (present : run ∈ db.runs) : run.id ≠ id := fun same =>
    fresh (same ▸ List.mem_map_of_mem present)
  cases grown with
  | same => exact ⟨List.Subset.refl _, fun _ _ => rfl, fun _ _ => rfl⟩
  | reconciled run rows new type owned sound =>
    refine ⟨List.subset_append_left _ _, fun run present => ?_, fun _ _ => rfl⟩
    rw [reconciliationsOf, List.filter_append, filter_foreign owned (others present), List.append_nil]
    rfl
  | assessed run rows new type owned sound =>
    refine ⟨List.subset_append_left _ _, fun _ _ => rfl, fun run present => ?_⟩
    rw [stockoutRisksOf, List.filter_append, filter_foreign owned (others present), List.append_nil]
    rfl

theorem Grown.sound (grown : db.Grown id next) (fresh : id ∉ db.runs.map AnalyticsRun.id) (sound : db.Sound) :
    next.Sound := by
  have keeps := grown.keeps fresh
  cases grown with
  | same => exact sound
  | reconciled run rows new type owned made =>
    have none : db.reconciliations.filter (fun r => r.runId = run.id) = [] :=
      List.filter_eq_nil_iff.mpr fun r member same =>
        fresh (new ▸ of_decide_eq_true same ▸ sound.reconciliations r member)
    have mine : ({ db with
        runs := db.runs ++ [run]
        reconciliations := db.reconciliations ++ rows } : AnalyticsDatabase).reconciliationsOf run.id = rows := by
      rw [reconciliationsOf, List.filter_append, none, List.nil_append]
      exact filter_owned (new ▸ owned)
    constructor
    · exact Table.keys_push sound.ids fun x member same =>
        fresh (new ▸ same ▸ List.mem_map_of_mem member)
    · refine Table.forall_push (fun old present kind => ?_) (fun _ => mine.symm ▸ made)
      exact keeps.reconciliations old present ▸ sound.reconciled old present kind
    · refine Table.forall_push (fun old present kind => sound.assessed old present kind) fun kind => ?_
      rw [type] at kind
      cases kind
    · rw [List.map_append]
      refine List.forall_mem_append.mpr ⟨fun r member => List.mem_append_left _ (sound.reconciliations r member), ?_⟩
      exact fun r member => List.mem_append_right _ (by simp [owned r member, new])
    · rw [List.map_append]
      exact fun r member => List.mem_append_left _ (sound.stockoutRisks r member)
  | assessed run rows new type owned made =>
    have none : db.stockoutRisks.filter (fun r => r.runId = run.id) = [] :=
      List.filter_eq_nil_iff.mpr fun r member same =>
        fresh (new ▸ of_decide_eq_true same ▸ sound.stockoutRisks r member)
    have mine : ({ db with
        runs := db.runs ++ [run]
        stockoutRisks := db.stockoutRisks ++ rows } : AnalyticsDatabase).stockoutRisksOf run.id = rows := by
      rw [stockoutRisksOf, List.filter_append, none, List.nil_append]
      exact filter_owned (new ▸ owned)
    constructor
    · exact Table.keys_push sound.ids fun x member same =>
        fresh (new ▸ same ▸ List.mem_map_of_mem member)
    · refine Table.forall_push (fun old present kind => sound.reconciled old present kind) fun kind => ?_
      rw [type] at kind
      cases kind
    · refine Table.forall_push (fun old present kind => ?_) (fun _ => mine.symm ▸ made)
      exact keeps.stockoutRisks old present ▸ sound.assessed old present kind
    · rw [List.map_append]
      exact fun r member => List.mem_append_left _ (sound.reconciliations r member)
    · rw [List.map_append]
      refine List.forall_mem_append.mpr ⟨fun r member => List.mem_append_left _ (sound.stockoutRisks r member), ?_⟩
      exact fun r member => List.mem_append_right _ (by simp [owned r member, new])

theorem step_grown (documented : lab.Documented) {l : AnalyticsLabel} (h : step lab db l = some next) :
    ∃ id, id ∉ db.runs.map AnalyticsRun.id ∧ db.Grown id next := by
  have new {id : Id} (free : ¬ (db.runs.any fun run => run.id = id) = true) : id ∉ db.runs.map AnalyticsRun.id := by
    intro member
    obtain ⟨run, present, same⟩ := List.mem_map.mp member
    exact free (List.any_eq_true.mpr ⟨run, present, decide_eq_true same⟩)
  cases l with
  | reconcile engine rowCount seed elapsed id =>
    rw [step] at h
    split at h
    · cases h
    · rename_i free
      obtain rfl := Option.some.inj h
      exact ⟨id, new free, runReconciliation_grown documented⟩
  | assess rowCount seed elapsed id =>
    rw [step] at h
    split at h
    · cases h
    · rename_i free
      obtain rfl := Option.some.inj h
      exact ⟨id, new free, runStockoutRisk_grown documented⟩

theorem empty_sound : ({} : AnalyticsDatabase).Sound :=
  ⟨List.nodup_nil, List.forall_mem_nil _, List.forall_mem_nil _, List.forall_mem_nil _, List.forall_mem_nil _⟩

theorem run_sound (documented : lab.Documented) (run : Run lab {} db) : db.Sound := by
  refine run.invariant (P := Sound) (fun _ _ _ sound _ step => ?_) empty_sound
  obtain ⟨id, fresh, grown⟩ := step_grown documented step
  exact grown.sound fresh sound

theorem run_keeps (documented : lab.Documented) (run : Run lab db after) : db.Keeps after := by
  refine run.invariant (P := db.Keeps) (fun s _ t kept _ step => ?_)
    ⟨List.Subset.refl _, fun _ _ => rfl, fun _ _ => rfl⟩
  obtain ⟨id, fresh, grown⟩ := step_grown documented step
  have later := grown.keeps fresh
  constructor
  · exact fun _ member => later.runs (kept.runs member)
  · exact fun run present => (later.reconciliations run (kept.runs present)).trans (kept.reconciliations run present)
  · exact fun run present => (later.stockoutRisks run (kept.runs present)).trans (kept.stockoutRisks run present)

end

end AnalyticsDatabase

/-! ### The listings of a run -/

section
variable {lab : Lab} {db after : AnalyticsDatabase} {run : AnalyticsRun}

theorem getAnalyticsRun_present (sound : db.Sound) (present : run ∈ db.runs) :
    getAnalyticsRun db run.id = .ok run := by
  have found : db.runs.find? (fun r => r.id = run.id) = some run := Table.lookup_of_mem sound.ids present
  rw [getAnalyticsRun, found]

/-- Rows that stand in the order of their indexes are listed as they stand, and so is any selection of them. -/
theorem ordered_indexes {α : Type} {rows : List α} {index : α → Int} {n : Nat} {selection : List α}
    (indexes : rows.map index = (List.range n).map Int.ofNat) (selects : selection.Sublist rows) :
    Paging.ordered (· ≤ ·) index selection = selection := by
  have sorted : (rows.map index).Pairwise (· ≤ ·) := by
    rw [indexes, List.pairwise_map]
    exact List.pairwise_lt_range.imp fun earlier => Int.ofNat_le.mpr (Nat.le_of_lt earlier)
  exact Paging.ordered_of_sorted (sorted.sublist (selects.map index))

/-- Once a run is there, its listing never changes, whatever runs come after. A reconciliation has one row for each
of its inputs, and as many mismatches as its summary says; an assessment as many rows of each severity, and severe ones
exactly where something is short. Neither is listed as the other. -/
theorem runs_listed_in_full (documented : lab.Documented) (reached : AnalyticsDatabase.Run lab {} db)
    (present : run ∈ db.runs) (later : AnalyticsDatabase.Run lab db after) :
    (run.runType = .inventoryReconciliation →
      run.Reconciled (db.reconciliationsOf run.id) ∧
        (∀ offset limit, listReconciliations after run.id false offset limit =
          .ok (Paging.page (db.reconciliationsOf run.id) offset limit)) ∧
        (∀ offset limit, listReconciliations after run.id true offset limit =
          .ok (Paging.page ((db.reconciliationsOf run.id).filter fun r => !r.isMatch) offset limit)) ∧
        ∀ severity offset limit, listStockoutRisks after run.id severity offset limit =
          .error (.resourceConflict ("Analytics run '" ++ run.id.repr ++ "' is not a stockout-risk run."))) ∧
    (run.runType = .stockoutRisk →
      run.Assessed (db.stockoutRisksOf run.id) ∧
        (∀ offset limit, listStockoutRisks after run.id none offset limit =
          .ok (Paging.page (db.stockoutRisksOf run.id) offset limit)) ∧
        (∀ severity offset limit, listStockoutRisks after run.id (some severity) offset limit =
          .ok (Paging.page ((db.stockoutRisksOf run.id).filter fun r => r.severity = severity) offset limit)) ∧
        ∀ onlyMismatches offset limit, listReconciliations after run.id onlyMismatches offset limit =
          .error (.resourceConflict ("Analytics run '" ++ run.id.repr ++ "' is not a reconciliation run."))) := by
  have sound := AnalyticsDatabase.run_sound documented reached
  have keeps := AnalyticsDatabase.run_keeps documented later
  have found : getAnalyticsRun after run.id = .ok run :=
    getAnalyticsRun_present (AnalyticsDatabase.run_sound documented (reached.trans later)) (keeps.runs present)
  have reconciliations : after.reconciliations.filter (fun r => r.runId = run.id) = db.reconciliationsOf run.id :=
    keeps.reconciliations run present
  have stockoutRisks : after.stockoutRisks.filter (fun r => r.runId = run.id) = db.stockoutRisksOf run.id :=
    keeps.stockoutRisks run present
  constructor
  · intro kind
    have reconciled := sound.reconciled run present kind
    refine ⟨reconciled, fun offset limit => ?_, fun offset limit => ?_, fun severity offset limit => ?_⟩
    · simp only [listReconciliations, found, reconciliations, bind, Except.bind, kind]
      rw [if_neg (by simp), if_neg (by simp)]
      exact congrArg (fun rows => Except.ok (Paging.page rows offset limit))
        (ordered_indexes reconciled.indexes (List.Sublist.refl _))
    · simp only [listReconciliations, found, reconciliations, bind, Except.bind, kind]
      rw [if_neg (by simp), if_pos trivial]
      exact congrArg (fun rows => Except.ok (Paging.page rows offset limit))
        (ordered_indexes reconciled.indexes List.filter_sublist)
    · simp only [listStockoutRisks, found, bind, Except.bind, kind]
      rw [if_pos (by simp)]
      rfl
  · intro kind
    have assessed := sound.assessed run present kind
    refine ⟨assessed, fun offset limit => ?_, fun severity offset limit => ?_, fun onlyMismatches offset limit => ?_⟩
    · simp only [listStockoutRisks, found, stockoutRisks, bind, Except.bind, kind]
      rw [if_neg (by simp)]
      exact congrArg (fun rows => Except.ok (Paging.page rows offset limit))
        (ordered_indexes assessed.indexes (List.Sublist.refl _))
    · simp only [listStockoutRisks, found, stockoutRisks, bind, Except.bind, kind]
      rw [if_neg (by simp)]
      exact congrArg (fun rows => Except.ok (Paging.page rows offset limit))
        (ordered_indexes assessed.indexes List.filter_sublist)
    · simp only [listReconciliations, found, bind, Except.bind, kind]
      rw [if_pos (by simp)]
      rfl

end

namespace Small

/-- Every third row differs by three. No forecast is wrong. -/
def lab : Lab where
  pandas := frames
  polars := frames
  reconciliationDraws := {
    hubQuantities := fun _ _ _ => 40
    deltas := fun _ _ index => if index % 3 = 2 then -3 else 0 }
  riskDraws := {
    onHand := fun _ _ _ => 100
    reservedShares := fun _ _ _ => 1 / 5
    inbound := fun _ _ _ => 10
    demandFactors := fun _ _ index => if index % 2 = 0 then 4 / 5 else 6 / 5
    actualFactors := fun _ _ _ => 1
    rint }
  sqrt := id
  percentile xs q := Quantiles.quantile (q / 100) xs

theorem lab_documented : lab.Documented where
  pandas := frames_documented
  polars := frames_documented
  reconciliationDraws := {
    hubQuantities := fun _ _ _ _ => (by decide : 0 ≤ (40 : Int64).toInt ∧ (40 : Int64).toInt < 500)
    deltas := fun _ _ index _ => by
      show (if index % 3 = 2 then (-3 : Int64) else 0) ∈ deltaChoices
      split <;> decide }
  riskDraws := {
    onHand := fun _ _ _ _ => (by decide : 20 ≤ 100 ∧ 100 < 500)
    reservedShares := fun _ _ _ _ => by norm_num [lab]
    inbound := fun _ _ _ _ => (by decide : 10 < 180)
    demandFactors := fun _ _ index _ => by
      show 13 / 20 ≤ (if index % 2 = 0 then (4 / 5 : ℚ) else 6 / 5) ∧ (if index % 2 = 0 then (4 / 5 : ℚ) else 6 / 5) ≤ _
      split <;> norm_num }
  percentile _ _ _ _ _ := rfl

end Small

theorem runs_listed_in_full_both : ∃ db after run, AnalyticsDatabase.Run Small.lab db after ∧ after.runs.length = 2 ∧
    run ∈ db.runs ∧ (db.reconciliationsOf run.id).map (fun r => r.differenceQuantity) = [0, 0, -3, 0] ∧
    listReconciliations after run.id true 0 100 =
      .ok (Paging.page ((db.reconciliationsOf run.id).filter fun r => !r.isMatch) 0 100) := by
  have shown : ((AnalyticsDatabase.step Small.lab {} (.reconcile .polars 4 7 ⟨1500000, 512⟩ 1)).map fun db =>
      (db.runs.map fun run => (run.id, run.runType), (db.reconciliationsOf 1).map fun r => r.differenceQuantity)) =
    some ([(1, .inventoryReconciliation)], [0, 0, -3, 0]) := by
    decide +kernel
  obtain ⟨db, first, seen⟩ := Option.map_eq_some_iff.mp shown
  obtain ⟨runs, differences⟩ := Prod.mk.inj seen
  obtain ⟨run, alone, same⟩ := List.map_eq_singleton_iff.mp runs
  obtain ⟨one, kind⟩ := Prod.mk.inj same
  rw [← one] at differences
  have assessed : (((AnalyticsDatabase.step Small.lab {} (.reconcile .polars 4 7 ⟨1500000, 512⟩ 1)).bind fun db =>
      AnalyticsDatabase.step Small.lab db (.assess 3 7 2500000 2)).map fun db => db.runs.length) = some 2 := by
    decide +kernel
  obtain ⟨after, reached, two⟩ := Option.map_eq_some_iff.mp assessed
  rw [first, Option.bind_some] at reached
  have present : run ∈ db.runs := by simp [alone]
  have listed := ((runs_listed_in_full Small.lab_documented (.single trivial first) present
    (.single trivial reached)).1 kind).2.2.1
  exact ⟨db, after, run, .single trivial reached, two, present, differences, listed 0 100⟩

end SupplyChainHub
