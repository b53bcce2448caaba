import SupplyChainHub.Analytics.Runs

/-!
`analytics/benchmark.py`: what the comparison of the two engines reports, and why only measures depend on the engine.
What is measured of each execution is a parameter, and so is `np.percentile`.
-/

namespace SupplyChainHub

structure EngineStatistics where
  durationsMs : List ℚ
  minimumMs : ℚ
  medianMs : ℚ
  maximumMs : ℚ
  p95Ms : ℚ
  dataframeBytes : Nat

structure BenchmarkReport where
  rowCount : Nat
  seed : Nat
  repeats : Int
  outputsEqual : Bool
  mismatchCount : Nat
  matchCount : Int
  pandas : EngineStatistics
  polars : EngineStatistics

abbrev ReconciliationFunction :=
  List SupplierInventoryRow → List HubInventoryRow → Except Raised (List ReconciliationResult)

section
variable (function : ReconciliationFunction) (supplierRows : List SupplierInventoryRow) (hubRows : List HubInventoryRow)
  (measures : Nat → Measure) (percentile : List ℚ → ℚ → ℚ)

/-- The body of the loop, for the executions that are left. -/
def benchmarkRepeats (durationsMs : List ℚ) (finalExecution : Option ReconciliationExecution) :
    List Nat → Except Raised (List ℚ × Option ReconciliationExecution)
  | [] => .ok (durationsMs, finalExecution)
  | k :: rest =>
    match function supplierRows hubRows with
    | .error e => .error e
    | .ok results =>
      benchmarkRepeats (durationsMs ++ [((measures k).elapsed : ℚ) / 1000000])
        (some ⟨results, (measures k).dataframeBytes⟩) rest

def engineStatistics (durationsMs : List ℚ) (dataframeBytes : Nat) : Except Raised EngineStatistics :=
  match durationsMs.min?, durationsMs.max? with
  | some minimumMs, some maximumMs => .ok {
      durationsMs, minimumMs, maximumMs, dataframeBytes
      medianMs := Quantiles.median durationsMs
      p95Ms := percentile durationsMs 95 }
  | _, _ => .error ⟨[], "min() iterable argument is empty"⟩

/-- `_benchmark_engine`, with an execution ahead that is not counted. -/
def benchmarkEngine (repeats : Int) : Except Raised (EngineStatistics × List ReconciliationResult) := do
  let _ ← function supplierRows hubRows
  let (durationsMs, finalExecution) ←
    benchmarkRepeats function supplierRows hubRows measures [] none (List.range repeats.toNat)
  match finalExecution with
  | none => throw ⟨[], "The benchmark did not execute."⟩
  | some execution =>
    return (← engineStatistics percentile durationsMs execution.dataframeBytes, execution.results)

end

def benchmarkReconciliation (lab : Lab) (pandasMeasures polarsMeasures : Nat → Measure) (rowCount seed : Nat)
    (repeats : Int) : Except Raised BenchmarkReport := do
  if repeats < 2 then throw ⟨[], "At least two benchmark repetitions are required."⟩
  let (supplierRows, hubRows) ← generateReconciliationInputs lab.reconciliationDraws rowCount seed
  let (pandas, pandasResults) ←
    benchmarkEngine (reconcileWithPandas lab.pandas) supplierRows hubRows pandasMeasures lab.percentile repeats
  let (polars, polarsResults) ←
    benchmarkEngine (reconcileWithPolars lab.polars) supplierRows hubRows polarsMeasures lab.percentile repeats
  if pandasResults ≠ polarsResults then throw ⟨[], "Pandas and Polars produced different results."⟩
  let mismatchCount := pandasResults.countP fun result => !result.isMatch
  return {
    rowCount, seed, repeats, mismatchCount, pandas, polars
    outputsEqual := true
    matchCount := (rowCount : Int) - mismatchCount }

/-- The statistics are of the durations, and stand in their order; the bytes are those of the last execution. -/
structure EngineStatistics.Sound (statistics : EngineStatistics) (measures : List Measure) : Prop where
  durations : statistics.durationsMs = measures.map fun measure => (measure.elapsed : ℚ) / 1000000
  minimum : statistics.minimumMs ∈ statistics.durationsMs
  maximum : statistics.maximumMs ∈ statistics.durationsMs
  bounds : ∀ d ∈ statistics.durationsMs, statistics.minimumMs ≤ d ∧ d ≤ statistics.maximumMs
  dataframeBytes : measures.getLast?.map Measure.dataframeBytes = some statistics.dataframeBytes
  minimum_le_median : statistics.minimumMs ≤ statistics.medianMs
  median_le_p95 : statistics.medianMs ≤ statistics.p95Ms
  p95_le_maximum : statistics.p95Ms ≤ statistics.maximumMs

section
variable {function : ReconciliationFunction} {supplierRows : List SupplierInventoryRow} {hubRows : List HubInventoryRow}
  {lab : Lab} {measures : Nat → Measure} {results : List ReconciliationResult}

theorem engineStatistics_sound (documented : lab.Documented) {before : List Measure} {last : Measure} :
    ∃ statistics, engineStatistics lab.percentile
        ((before ++ [last]).map fun measure => (measure.elapsed : ℚ) / 1000000) last.dataframeBytes = .ok statistics ∧
      statistics.Sound (before ++ [last]) := by
  generalize measured : (before ++ [last]).map (fun measure => (measure.elapsed : ℚ) / 1000000) = durationsMs
  have nonempty : durationsMs ≠ [] := by
    rw [← measured]
    simp
  have p95 := documented.percentile durationsMs 95 nonempty (by norm_num) (by norm_num)
  obtain ⟨minimum, least⟩ := Option.isSome_iff_exists.mp (List.isSome_min?_of_ne_nil nonempty)
  obtain ⟨maximum, greatest⟩ := Option.isSome_iff_exists.mp (List.isSome_max?_of_ne_nil nonempty)
  obtain ⟨least_mem, least_le⟩ := List.min?_eq_some_iff.mp least
  obtain ⟨greatest_mem, le_greatest⟩ := List.max?_eq_some_iff.mp greatest
  refine ⟨⟨durationsMs, minimum, Quantiles.median durationsMs, maximum, lab.percentile durationsMs 95,
    last.dataframeBytes⟩, ?_, measured.symm, least_mem, greatest_mem,
    fun d member => ⟨least_le d member, le_greatest d member⟩, by simp, ?_, ?_, ?_⟩
  · rw [engineStatistics, least, greatest]
  · show minimum ≤ Quantiles.median durationsMs
    rw [Quantiles.median_eq_quantile nonempty]
    exact (Quantiles.quantile_between nonempty (by norm_num) (by norm_num) least_le le_greatest).1
  · show Quantiles.median durationsMs ≤ lab.percentile durationsMs 95
    rw [Quantiles.median_eq_quantile nonempty, p95]
    exact Quantiles.quantile_mono nonempty (by norm_num) (by norm_num) (by norm_num)
  · show lab.percentile durationsMs 95 ≤ maximum
    rw [p95]
    exact (Quantiles.quantile_between nonempty (by norm_num) (by norm_num) least_le le_greatest).2

theorem benchmarkRepeats_ok (measures : Nat → Measure) (answers : function supplierRows hubRows = .ok results)
    (executions : List Nat) (last : Nat) (durationsMs : List ℚ) (finalExecution : Option ReconciliationExecution) :
    benchmarkRepeats function supplierRows hubRows measures durationsMs finalExecution (executions ++ [last]) =
      .ok (durationsMs ++ (executions ++ [last]).map fun k => ((measures k).elapsed : ℚ) / 1000000,
        some ⟨results, (measures last).dataframeBytes⟩) := by
  induction executions generalizing durationsMs finalExecution with
  | nil =>
    rw [List.nil_append, benchmarkRepeats, answers]
    rfl
  | cons k rest ih =>
    rw [List.cons_append, benchmarkRepeats, answers]
    dsimp only
    rw [ih, List.map_cons, List.append_assoc, List.singleton_append]

theorem benchmarkEngine_ok {repeats : Int} (documented : lab.Documented) (measures : Nat → Measure)
    (answers : function supplierRows hubRows = .ok results) (enough : 2 ≤ repeats) : ∃ statistics,
      benchmarkEngine function supplierRows hubRows measures lab.percentile repeats = .ok (statistics, results) ∧
      statistics.Sound ((List.range repeats.toNat).map measures) := by
  obtain ⟨before, again⟩ : ∃ before, repeats.toNat = before + 1 := ⟨repeats.toNat - 1, by omega⟩
  have executions : (List.range repeats.toNat).map measures =
      (List.range before).map measures ++ [measures before] := by
    rw [again, List.range_succ, List.map_append, List.map_singleton]
  obtain ⟨statistics, computed, sound⟩ :=
    @engineStatistics_sound lab documented ((List.range before).map measures) (measures before)
  rw [← executions, List.map_map, Function.comp_def] at computed
  refine ⟨statistics, ?_, executions ▸ sound⟩
  have repeated := benchmarkRepeats_ok measures answers (List.range before) before [] none
  rw [← List.range_succ, ← Nat.add_one, ← again, List.nil_append] at repeated
  unfold benchmarkEngine
  simp only [answers, repeated, computed, bind, Except.bind]
  rfl

end

/-! ### What is stored -/

section
variable {lab : Lab} {rowCount seed index elapsed : Nat} {measure : Measure}

theorem durationMs_ok (bounded : elapsed < 2 ^ 63) : ∃ duration, durationMs elapsed = .ok duration ∧
    0 ≤ duration ∧ duration.natAbs < 10 ^ 18 := by
  have scaled : 0 ≤ (elapsed : ℚ) / 1000000 * 10 ^ 3 := by positivity
  have rounded : roundHalfAway ((elapsed : ℚ) / 1000000 * 10 ^ 3) = ⌊(elapsed : ℚ) / 1000000 * 10 ^ 3 + 1 / 2⌋ := by
    rw [roundHalfAway, if_pos scaled]
  have nonnegative : 0 ≤ ⌊(elapsed : ℚ) / 1000000 * 10 ^ 3 + 1 / 2⌋ := Int.floor_nonneg.mpr (by linarith)
  have small : ⌊(elapsed : ℚ) / 1000000 * 10 ^ 3 + 1 / 2⌋ < 10 ^ 17 := by
    rw [Int.floor_lt]
    have ticks : (elapsed : ℚ) < 2 ^ 63 := by exact_mod_cast bounded
    push_cast
    linarith
  refine ⟨_, ?_, nonnegative, by omega⟩
  unfold durationMs quantize
  dsimp only
  rw [rounded, if_pos (by omega)]

theorem InventoryReconciliation.row_holds {r : InventoryReconciliation} (recordIndex : r.recordIndex.toNat < 2 ^ 31)
    (supplierCode : Storage.Fits 100 r.supplierCode) (productSku : Storage.Fits 100 r.productSku)
    (warehouseCode : Storage.Fits 100 r.warehouseCode) (reported : r.reportedQuantity.natAbs < 10 ^ 15)
    (hub : r.hubQuantity.natAbs < 10 ^ 15) (difference : r.differenceQuantity.natAbs < 10 ^ 15) :
    Schema.inventoryReconciliations.holds r.row = true := by
  have quantity {z : Int} (small : z.natAbs < 10 ^ 15) :
      (Storage.ColumnType.numeric 18 3).holds (.decimal z 0) = true := by
    simp only [Storage.ColumnType.holds, Bool.and_eq_true, decide_eq_true_eq]
    omega
  have code {s : String} (fits : Storage.Fits 100 s) : s.length ≤ 100 ∧ hasNul s = false := fits
  have position : r.recordIndex.toNat < 2147483648 := recordIndex
  simp [InventoryReconciliation.row, Schema.inventoryReconciliations, position, code supplierCode, code productSku,
    code warehouseCode, quantity reported, quantity hub, quantity difference]

theorem syntheticResult_holds (drawn : lab.reconciliationDraws.Documented) (inside : index < rowCount)
    (bounded : rowCount ≤ 10000) (id : Id) : Schema.inventoryReconciliations.holds
      (InventoryReconciliation.mk (syntheticResult lab.reconciliationDraws rowCount seed index) id).row = true := by
  have digit : ∀ k < 4, Storage.Fits 1 k.repr := by decide
  have number : Storage.Fits 7 (padded 7 index) := padded_fits 7 (by decide) (by decide) (by omega)
  have place : Storage.Fits 2 (padded 2 (index % 25)) := padded_fits 2 (by decide) (by decide) (by omega)
  have supplierPrefix : Storage.Fits 13 "SYN-SUPPLIER-" := by decide
  have skuPrefix : Storage.Fits 8 "SYN-SKU-" := by decide
  have warehousePrefix : Storage.Fits 7 "SYN-WH-" := by decide
  have reported : _ ∧ _ := @reportedQuantities_range lab.reconciliationDraws rowCount seed index drawn inside
  have hub := drawn.hubQuantities seed rowCount index inside
  apply InventoryReconciliation.row_holds
  · show (index : Int).toNat < 2 ^ 31
    omega
  · exact (supplierPrefix.append (digit (index % 4) (by omega))).mono (by decide)
  · exact (skuPrefix.append number).mono (by decide)
  · exact (warehousePrefix.append place).mono (by decide)
  · show (lab.reconciliationDraws.reportedQuantities seed rowCount index).toInt.natAbs < 10 ^ 15
    omega
  · show (lab.reconciliationDraws.hubQuantities seed rowCount index).toInt.natAbs < 10 ^ 15
    omega
  · show ((lab.reconciliationDraws.reportedQuantities seed rowCount index).toInt -
      (lab.reconciliationDraws.hubQuantities seed rowCount index).toInt).natAbs < 10 ^ 15
    omega

theorem AnalyticsRun.row_holds {run : AnalyticsRun} (seed : run.datasetSeed < 2 ^ 63) (rows : run.inputRows < 2 ^ 31)
    (duration : run.durationMs.natAbs < 10 ^ 18) : Schema.analyticsRuns.holds run.row = true := by
  have type : run.runType.value.length ≤ 40 ∧ hasNul run.runType.value = false := by
    cases run.runType <;> decide
  have engine : run.engine.value.length ≤ 20 ∧ hasNul run.engine.value = false := by
    cases run.engine <;> decide
  have milliseconds : (Storage.ColumnType.numeric 18 3).holds (.decimal run.durationMs 3) = true := by
    simp only [Storage.ColumnType.holds, Bool.and_eq_true, decide_eq_true_eq]
    omega
  have bigint : run.datasetSeed < 9223372036854775808 := seed
  have int : run.inputRows < 2147483648 := rows
  simp [AnalyticsRun.row, Schema.analyticsRuns, type, engine, milliseconds, bigint, int]

theorem statements_held (run : AnalyticsRun) {rows : List InventoryReconciliation}
    (fits : ∀ r ∈ rows, Schema.inventoryReconciliations.holds r.row = true)
    (distinct : (rows.map fun r => r.recordIndex).Nodup) : ∀ s ∈ (reconciliationStatements run rows).tail,
      s.table.holds s.row = true ∧ s.violates = false := by
  intro s member
  obtain ⟨r, present, rfl⟩ := List.mem_map.mp member
  have counted := List.nodup_iff_count_le_one.mp distinct r.recordIndex
  rw [List.count, List.countP_map] at counted
  exact ⟨fits r present, decide_eq_false (Nat.not_lt.mpr counted)⟩

/-- What either engine stores for a request. -/
theorem runReconciliation_ok {engine : AnalyticsEngine} (documented : lab.Documented) (positive : 0 < rowCount)
    (bounded : rowCount ≤ 10000) (seeds : seed < 2 ^ 32) (ticks : measure.elapsed < 2 ^ 63) (known : engine ≠ .numpy)
    (db : AnalyticsDatabase) (id : Id) {results : List ReconciliationResult}
    (same : results = (List.range rowCount).map (syntheticResult lab.reconciliationDraws rowCount seed)) :
    ∃ duration, durationMs measure.elapsed = .ok duration ∧
      runReconciliation lab db engine rowCount seed measure id = ⟨{ db with
      runs := db.runs ++ [reconciliationRun engine rowCount seed duration id ⟨results, measure.dataframeBytes⟩]
      reconciliations := db.reconciliations ++ results.map (InventoryReconciliation.mk · id) }, none⟩ := by
  obtain ⟨duration, timed, nonnegative, small⟩ := durationMs_ok ticks
  refine ⟨duration, timed, ?_⟩
  unfold runReconciliation
  rw [if_neg known, executeReconciliation_ok documented positive, timed, ← same]
  dsimp only
  have distinct : ((results.map (InventoryReconciliation.mk · id)).map fun r => r.recordIndex).Nodup := by
    rw [same, List.map_map, List.map_map]
    exact List.nodup_range.map Int.ofNat_injective
  have fits : ∀ r ∈ results.map (InventoryReconciliation.mk · id),
      Schema.inventoryReconciliations.holds r.row = true := by
    intro r member
    obtain ⟨result, produced, rfl⟩ := List.mem_map.mp member
    rw [same] at produced
    obtain ⟨index, inside, rfl⟩ := List.mem_map.mp produced
    exact syntheticResult_holds documented.reconciliationDraws (List.mem_range.mp inside) bounded id
  let run := reconciliationRun engine rowCount seed duration id ⟨results, measure.dataframeBytes⟩
  have free : ¬ run.statement.violates = true := by
    simp [run, AnalyticsRun.statement, reconciliationRun, Nat.ne_of_gt positive, nonnegative]
  have held : Schema.analyticsRuns.holds run.row = true :=
    AnalyticsRun.row_holds (Nat.lt_of_lt_of_le seeds (by decide)) (Nat.lt_of_le_of_lt bounded (by decide)) small
  exact (commit_held held (statements_held run fits distinct)).trans (if_neg free)

theorem benchmarkReconciliation_ok {pandasMeasures polarsMeasures : Nat → Measure} {repeats : Int}
    (documented : lab.Documented) (positive : 0 < rowCount) (enough : 2 ≤ repeats)
    {results : List ReconciliationResult}
    (same : results = (List.range rowCount).map (syntheticResult lab.reconciliationDraws rowCount seed)) :
    ∃ pandas polars : EngineStatistics,
      benchmarkReconciliation lab pandasMeasures polarsMeasures rowCount seed repeats = .ok {
        rowCount, seed, repeats, pandas, polars
        outputsEqual := true
        mismatchCount := results.countP fun r => !r.isMatch
        matchCount := (rowCount : Int) - results.countP fun r => !r.isMatch } ∧
      pandas.Sound ((List.range repeats.toNat).map pandasMeasures) ∧
      polars.Sound ((List.range repeats.toNat).map polarsMeasures) := by
  have drawn := documented.reconciliationDraws
  have byPandas := (@reconcile_synthetic _ rowCount seed _ documented.pandas drawn).1
  have byPolars := (@reconcile_synthetic _ rowCount seed _ documented.polars drawn).2
  rw [← same] at byPandas byPolars
  obtain ⟨pandas, first, pandasSound⟩ := benchmarkEngine_ok documented pandasMeasures byPandas enough
  obtain ⟨polars, second, polarsSound⟩ := benchmarkEngine_ok documented polarsMeasures byPolars enough
  refine ⟨pandas, polars, ?_, pandasSound, polarsSound⟩
  unfold benchmarkReconciliation generateReconciliationInputs
  rw [if_neg (by omega), if_neg (by omega)]
  simp only [pure, Except.pure, bind, Except.bind, first, second]
  exact if_neg fun differ => differ rfl

/-- Whatever engine is asked for, a request within the bounds of the API is stored, with the same rows and the same
counts; only the engine, the time and the bytes differ. A comparison of the engines is never refused as different,
reports these counts too, and its statistics stand in their order. -/
theorem engines_interchangeable (documented : lab.Documented) (positive : 1 ≤ rowCount) (bounded : rowCount ≤ 10000)
    (seeds : seed < 2 ^ 32) : ∃ results : List ReconciliationResult,
    results.map (fun r => r.recordIndex) = (List.range rowCount).map Int.ofNat ∧
    (∀ db engine measure id, engine ≠ .numpy → measure.elapsed < 2 ^ 63 →
      ∃ duration, durationMs measure.elapsed = .ok duration ∧
        runReconciliation lab db engine rowCount seed measure id = ⟨{ db with
          runs := db.runs ++ [reconciliationRun engine rowCount seed duration id ⟨results, measure.dataframeBytes⟩]
          reconciliations := db.reconciliations ++ results.map (InventoryReconciliation.mk · id) }, none⟩) ∧
    (∀ db measure id, runReconciliation lab db .numpy rowCount seed measure id =
      ⟨db, some (.domain (.resourceConflict "Inventory reconciliation supports only pandas or polars."))⟩) ∧
    ∀ pandasMeasures polarsMeasures (repeats : Int),
      (repeats < 2 → benchmarkReconciliation lab pandasMeasures polarsMeasures rowCount seed repeats =
        .error ⟨[], "At least two benchmark repetitions are required."⟩) ∧
      (2 ≤ repeats → ∃ pandas polars : EngineStatistics,
        benchmarkReconciliation lab pandasMeasures polarsMeasures rowCount seed repeats = .ok {
          rowCount, seed, repeats, pandas, polars
          outputsEqual := true
          mismatchCount := results.countP fun r => !r.isMatch
          matchCount := results.countP fun r => r.isMatch } ∧
        pandas.Sound ((List.range repeats.toNat).map pandasMeasures) ∧
        polars.Sound ((List.range repeats.toNat).map polarsMeasures)) := by
  let results := (List.range rowCount).map (syntheticResult lab.reconciliationDraws rowCount seed)
  refine ⟨results, ?_, ?_, fun _ _ _ => if_pos rfl, fun pandasMeasures polarsMeasures repeats => ⟨?_, ?_⟩⟩
  · rw [List.map_map]
    rfl
  · intro db engine measure id known ticks
    exact runReconciliation_ok documented positive bounded seeds ticks known db id rfl
  · intro few
    unfold benchmarkReconciliation
    rw [if_pos few]
    rfl
  · intro enough
    have matched := countP_matches results
    rw [List.length_map, List.length_range] at matched
    rw [← matched]
    exact benchmarkReconciliation_ok documented positive enough rfl

end

theorem engines_interchangeable_four : ∃ results : List ReconciliationResult,
    (∃ duration, runReconciliation Small.lab {} .polars 4 7 ⟨1500000, 512⟩ 1 = ⟨{
      runs := [reconciliationRun .polars 4 7 duration 1 ⟨results, 512⟩]
      reconciliations := results.map (InventoryReconciliation.mk · 1) }, none⟩) ∧
    (∃ duration, runReconciliation Small.lab {} .pandas 4 7 ⟨2500000, 2048⟩ 1 = ⟨{
      runs := [reconciliationRun .pandas 4 7 duration 1 ⟨results, 2048⟩]
      reconciliations := results.map (InventoryReconciliation.mk · 1) }, none⟩) ∧
    ∃ report, benchmarkReconciliation Small.lab (fun k => ⟨10 - k, 2048⟩) (fun k => ⟨k, 512⟩) 4 7 3 = .ok report ∧
      report.pandas.minimumMs ≤ report.pandas.p95Ms := by
  obtain ⟨results, -, stored, -, compared⟩ :=
    @engines_interchangeable Small.lab 4 7 Small.lab_documented (by decide) (by decide) (by decide)
  obtain ⟨short, -, polars⟩ := stored {} .polars ⟨1500000, 512⟩ 1 (by decide) (by decide)
  obtain ⟨long, -, pandas⟩ := stored {} .pandas ⟨2500000, 2048⟩ 1 (by decide) (by decide)
  obtain ⟨_, _, reported, sound, -⟩ := (compared (fun k => ⟨10 - k, 2048⟩) (fun k => ⟨k, 512⟩) 3).2 (by decide)
  exact ⟨results, ⟨short, polars⟩, ⟨long, pandas⟩, _, reported, sound.minimum_le_median.trans sound.median_le_p95⟩

end SupplyChainHub
