import SupplyChainHub.Imports.Failures
import SupplyChainHub.Library.Quantiles
import Mathlib.Algebra.Order.Floor.Semifield
import Mathlib.Data.Rat.Floor
import Mathlib.Tactic.Linarith

/-!
`analytics/risk.py` in exact arithmetic: the arrays as lists, entry by entry. The square root of the forecast
metrics is a parameter.
-/

namespace SupplyChainHub

inductive RiskSeverity where
  | none | low | medium | high
  deriving DecidableEq

def RiskSeverity.rank : RiskSeverity → Nat
  | .none => 0
  | .low => 1
  | .medium => 2
  | .high => 3

structure RiskInput where
  recordIndex : Int
  productSku : String
  warehouseCode : String
  onHandQuantity : ℚ
  reservedQuantity : ℚ
  inboundQuantity : ℚ
  forecastQuantity : ℚ
  actualDemandQuantity : ℚ

structure StockoutRiskResult where
  recordIndex : Int
  productSku : String
  warehouseCode : String
  onHandQuantity : ℚ
  reservedQuantity : ℚ
  inboundQuantity : ℚ
  forecastQuantity : ℚ
  actualDemandQuantity : ℚ
  availableQuantity : ℚ
  projectedEndingQuantity : ℚ
  projectedShortageQuantity : ℚ
  shortageRatio : ℚ
  severity : RiskSeverity
  deriving DecidableEq

structure ForecastMetrics where
  meanAbsoluteError : ℚ
  rootMeanSquaredError : ℚ
  bias : ℚ
  weightedAbsolutePercentageError : ℚ
  deriving DecidableEq

structure RiskThresholds where
  lowToMedium : ℚ
  mediumToHigh : ℚ
  deriving DecidableEq

structure RiskExecution where
  results : List StockoutRiskResult
  forecastMetrics : ForecastMetrics
  thresholds : RiskThresholds
  deriving DecidableEq

namespace RiskInput

def available (r : RiskInput) : ℚ := max (r.onHandQuantity - r.reservedQuantity) 0

def projectedEnding (r : RiskInput) : ℚ := r.available + r.inboundQuantity - r.forecastQuantity

def shortage (r : RiskInput) : ℚ := max (-r.projectedEnding) 0

def shortageRatio (r : RiskInput) : ℚ := if 0 < r.forecastQuantity then r.shortage / r.forecastQuantity else 0

end RiskInput

/-- `np.select`, by its first condition that holds. -/
def severityAt (thresholds : RiskThresholds) (shortageRatio : ℚ) : RiskSeverity :=
  if shortageRatio = 0 then .none
  else if shortageRatio ≤ thresholds.lowToMedium then .low
  else if shortageRatio ≤ thresholds.mediumToHigh then .medium
  else .high

def RiskInput.result (thresholds : RiskThresholds) (r : RiskInput) : StockoutRiskResult where
  recordIndex := r.recordIndex
  productSku := r.productSku
  warehouseCode := r.warehouseCode
  onHandQuantity := r.onHandQuantity
  reservedQuantity := r.reservedQuantity
  inboundQuantity := r.inboundQuantity
  forecastQuantity := r.forecastQuantity
  actualDemandQuantity := r.actualDemandQuantity
  availableQuantity := r.available
  projectedEndingQuantity := r.projectedEnding
  projectedShortageQuantity := r.shortage
  shortageRatio := r.shortageRatio
  severity := severityAt thresholds r.shortageRatio

/-- `np.quantile` interpolates linearly unless it is told not to. -/
def riskThresholds (shortageRatios : List ℚ) : RiskThresholds :=
  let positiveRatios := shortageRatios.filter (0 < ·)
  if positiveRatios = [] then ⟨0, 0⟩
  else ⟨Quantiles.quantile (1 / 2) positiveRatios, Quantiles.quantile (4 / 5) positiveRatios⟩

def mean (xs : List ℚ) : ℚ := xs.sum / xs.length

def calculateForecastMetrics (sqrt : ℚ → ℚ) (forecast actual : List ℚ) : Except Raised ForecastMetrics :=
  if forecast.length ≠ actual.length || forecast.isEmpty then
    .error ⟨[], "Forecast and actual arrays must have equal nonzero shape."⟩
  else
    let errors := List.zipWith (· - ·) forecast actual
    let absoluteErrors := errors.map (|·|)
    let actualTotal := (actual.map (|·|)).sum
    .ok {
      meanAbsoluteError := mean absoluteErrors
      rootMeanSquaredError := sqrt (mean (errors.map (· ^ 2)))
      bias := mean errors
      weightedAbsolutePercentageError := if 0 < actualTotal then absoluteErrors.sum / actualTotal else 0 }

def calculateStockoutRisks (sqrt : ℚ → ℚ) (records : List RiskInput) : Except Raised RiskExecution :=
  if records.isEmpty then .error ⟨[], "At least one risk input is required."⟩
  else
    let thresholds := riskThresholds (records.map RiskInput.shortageRatio)
    match calculateForecastMetrics sqrt (records.map RiskInput.forecastQuantity)
        (records.map RiskInput.actualDemandQuantity) with
    | .error e => .error e
    | .ok forecastMetrics => .ok { results := records.map (RiskInput.result thresholds), forecastMetrics, thresholds }

structure RiskInput.NonNegative (r : RiskInput) : Prop where
  onHand : 0 ≤ r.onHandQuantity
  reserved : 0 ≤ r.reservedQuantity
  inbound : 0 ≤ r.inboundQuantity
  forecast : 0 ≤ r.forecastQuantity
  actualDemand : 0 ≤ r.actualDemandQuantity

section
variable {sqrt : ℚ → ℚ} {records other : List RiskInput} {thresholds : RiskThresholds} {r : RiskInput}

/-! ### One record -/

theorem shortage_nonnegative : 0 ≤ r.shortage := le_max_right _ _

theorem shortageRatio_nonnegative : 0 ≤ r.shortageRatio := by
  unfold RiskInput.shortageRatio
  split
  · exact div_nonneg shortage_nonnegative (by linarith)
  · exact le_rfl

/-- Without demand there is no shortage. -/
theorem shortageRatio_zero (nonnegative : r.NonNegative) : r.shortageRatio = 0 ↔ r.shortage = 0 := by
  unfold RiskInput.shortageRatio
  split
  · rename_i demand
    rw [div_eq_zero_iff]
    exact or_iff_left (by linarith)
  · rename_i noDemand
    have forecast := nonnegative.forecast
    have inbound := nonnegative.inbound
    have available : 0 ≤ r.available := le_max_right _ _
    have covered : -r.projectedEnding ≤ 0 := by
      unfold RiskInput.projectedEnding
      linarith
    exact iff_of_true rfl (max_eq_right covered)

theorem severityAt_none {ratio : ℚ} : severityAt thresholds ratio = .none ↔ ratio = 0 := by
  unfold severityAt
  split
  · simp_all
  · split
    · simp_all
    · split <;> simp_all

theorem severityAt_mono {small large : ℚ} (nonnegative : 0 ≤ small) (le : small ≤ large) :
    (severityAt thresholds small).rank ≤ (severityAt thresholds large).rank := by
  unfold severityAt
  by_cases none : small = 0
  · simp [none, RiskSeverity.rank]
  · have positive : large ≠ 0 := by
      intro zero
      exact none (le_antisymm (zero ▸ le) nonnegative)
    rw [if_neg none, if_neg positive]
    split_ifs <;> first | (simp [RiskSeverity.rank]; done) | linarith

/-! ### The thresholds -/

theorem riskThresholds_perm {xs ys : List ℚ} (perm : xs.Perm ys) : riskThresholds xs = riskThresholds ys := by
  have positive : (xs.filter (0 < ·)).Perm (ys.filter (0 < ·)) := perm.filter _
  have empty : xs.filter (0 < ·) = [] ↔ ys.filter (0 < ·) = [] := by
    constructor
    · intro none
      exact List.perm_nil.mp (none ▸ positive.symm)
    · intro none
      exact List.perm_nil.mp (none ▸ positive)
  unfold riskThresholds
  simp only [empty, Quantiles.quantile_perm positive]

theorem floor_half (n : ℕ) : ⌊(1 / 2 : ℚ) * n⌋₊ = n / 2 := by
  have same : (1 / 2 : ℚ) * n = (n : ℚ) / (2 : ℕ) := by
    push_cast
    ring
  rw [same, Nat.floor_div_eq_div]

theorem floor_four_fifths (n : ℕ) : ⌊(4 / 5 : ℚ) * n⌋₊ = 4 * n / 5 := by
  have same : (4 / 5 : ℚ) * n = ((4 * n : ℕ) : ℚ) / (5 : ℕ) := by
    push_cast
    ring
  rw [same, Nat.floor_div_eq_div]

/-! ### All records -/

theorem riskThresholds_positive {ratios : List ℚ} (some : ratios.filter (0 < ·) ≠ []) : riskThresholds ratios =
    ⟨Quantiles.quantile (1 / 2) (ratios.filter (0 < ·)), Quantiles.quantile (4 / 5) (ratios.filter (0 < ·))⟩ := by
  unfold riskThresholds
  rw [if_neg some]

/-- The positive ratios up to the middle one are low. -/
theorem low_count {ratios : List ℚ} (some : ratios.filter (0 < ·) ≠ []) :
    ((ratios.filter (0 < ·)).length - 1) / 2 + 1 ≤
      ratios.countP fun ratio => severityAt (riskThresholds ratios) ratio = .low := by
  have below := Quantiles.count_le_quantile (q := (1 / 2 : ℚ)) some (by norm_num) (by norm_num)
  rw [floor_half, List.countP_filter] at below
  apply below.trans
  apply List.countP_mono_left
  intro ratio _ both
  simp only [Bool.and_eq_true, decide_eq_true_eq] at both ⊢
  unfold severityAt
  rw [riskThresholds_positive some, if_neg both.2.ne', if_pos both.1]

/-- What is high lies above the upper threshold, which leaves a fifth of them. -/
theorem high_count {ratios : List ℚ} (some : ratios.filter (0 < ·) ≠ []) (nonnegative : ∀ ratio ∈ ratios, 0 ≤ ratio) :
    (ratios.countP fun ratio => severityAt (riskThresholds ratios) ratio = .high) ≤
      ⌈(((ratios.filter (0 < ·)).length - 1 : ℕ) : ℚ) / 5⌉₊ := by
  have above := Quantiles.count_gt_quantile (q := (4 / 5 : ℚ)) some (by norm_num) (by norm_num)
  rw [floor_four_fifths, List.countP_filter] at above
  have high : (ratios.countP fun ratio => severityAt (riskThresholds ratios) ratio = .high) ≤
      ratios.countP fun ratio => decide (Quantiles.quantile (4 / 5) (ratios.filter (0 < ·)) < ratio) &&
        decide (0 < ratio) := by
    apply List.countP_mono_left
    intro ratio member severe
    simp only [Bool.and_eq_true, decide_eq_true_eq] at severe ⊢
    rw [riskThresholds_positive some] at severe
    unfold severityAt at severe
    split_ifs at severe with zero low medium
    exact ⟨not_le.mp medium, lt_of_le_of_ne (nonnegative ratio member) (Ne.symm zero)⟩
  have ceiling := Nat.le_ceil ((((ratios.filter (0 < ·)).length - 1 : ℕ) : ℚ) / 5)
  rw [div_le_iff₀ (by norm_num)] at ceiling
  have whole : (ratios.filter (0 < ·)).length - 1 ≤
      ⌈(((ratios.filter (0 < ·)).length - 1 : ℕ) : ℚ) / 5⌉₊ * 5 := by exact_mod_cast ceiling
  omega

theorem calculateStockoutRisks_ok (sqrt : ℚ → ℚ) (nonempty : records ≠ []) :
    ∃ metrics, calculateStockoutRisks sqrt records = .ok {
      results := records.map (RiskInput.result (riskThresholds (records.map RiskInput.shortageRatio)))
      forecastMetrics := metrics
      thresholds := riskThresholds (records.map RiskInput.shortageRatio) } := by
  have some : records.isEmpty = false := by simpa using nonempty
  unfold calculateStockoutRisks calculateForecastMetrics
  simp [some]

/-- Non-empty inputs are classified by thresholds that depend on no order among them; a larger ratio is never
less severe, and of `p` positive ratios at least those up to the middle are low and at most a fifth high. -/
theorem risk_classification (nonempty : records ≠ []) (nonnegative : ∀ r ∈ records, r.NonNegative) :
    ∃ e, calculateStockoutRisks sqrt records = .ok e ∧ e.results = records.map (RiskInput.result e.thresholds) ∧
      (∀ x ∈ e.results, x.severity = .none ↔ x.projectedShortageQuantity = 0) ∧
      (∀ x ∈ e.results, ∀ y ∈ e.results, x.shortageRatio ≤ y.shortageRatio → x.severity.rank ≤ y.severity.rank) ∧
      (∀ p, (records.countP fun r => 0 < r.shortageRatio) = p → 0 < p →
        (p - 1) / 2 + 1 ≤ (e.results.countP fun x => x.severity = .low) ∧
          (e.results.countP fun x => x.severity = .high) ≤ ⌈((p - 1 : ℕ) : ℚ) / 5⌉₊) ∧
      ∀ other : List RiskInput, other.Perm records → ∃ e', calculateStockoutRisks sqrt other = .ok e' ∧
        e'.thresholds = e.thresholds ∧ e'.results = other.map (RiskInput.result e.thresholds) := by
  obtain ⟨metrics, calculated⟩ := calculateStockoutRisks_ok sqrt nonempty
  refine ⟨_, calculated, rfl, ?_, ?_, ?_, ?_⟩
  · intro x member
    obtain ⟨r, present, rfl⟩ := List.mem_map.mp member
    exact severityAt_none.trans (shortageRatio_zero (nonnegative r present))
  · intro x member y member' le
    obtain ⟨r, -, rfl⟩ := List.mem_map.mp member
    obtain ⟨s, -, rfl⟩ := List.mem_map.mp member'
    exact severityAt_mono shortageRatio_nonnegative le
  · rintro p rfl positive
    have count : (records.countP fun r => 0 < r.shortageRatio) =
        ((records.map RiskInput.shortageRatio).filter (0 < ·)).length := by
      rw [← List.countP_eq_length_filter, List.countP_map]
      rfl
    rw [count] at positive ⊢
    have some := List.ne_nil_of_length_pos positive
    have low := low_count some
    have high := high_count some (by
      intro ratio member
      obtain ⟨r, -, rfl⟩ := List.mem_map.mp member
      exact shortageRatio_nonnegative)
    rw [List.countP_map] at low high ⊢
    rw [List.countP_map]
    exact ⟨low, high⟩
  · intro other perm
    have some : other ≠ [] := by
      rintro rfl
      exact nonempty (List.nil_perm.mp perm)
    obtain ⟨metrics', calculated'⟩ := calculateStockoutRisks_ok sqrt some
    have same := riskThresholds_perm (perm.map RiskInput.shortageRatio)
    refine ⟨_, calculated', same, ?_⟩
    show other.map _ = other.map _
    rw [same]

end

namespace Small

/-- Short of 0, 10, 20, 30 and 40 of 100. -/
def riskInputs : List RiskInput := [
  ⟨0, "SKU-1", "WH-1", 80, 0, 30, 100, 110⟩,
  ⟨1, "SKU-2", "WH-1", 80, 10, 20, 100, 60⟩,
  ⟨2, "SKU-3", "WH-1", 100, 20, 0, 100, 90⟩,
  ⟨3, "SKU-4", "WH-1", 70, 0, 0, 100, 100⟩,
  ⟨4, "SKU-5", "WH-1", 60, 10, 10, 100, 100⟩]

end Small

theorem risk_classification_shortage : ∃ e, calculateStockoutRisks id Small.riskInputs = .ok e ∧
    e.results.map (fun x => (x.shortageRatio, x.severity)) =
      [(0, .none), (1 / 10, .low), (1 / 5, .low), (3 / 10, .medium), (2 / 5, .high)] ∧
    (∀ x ∈ e.results, x.severity = .none ↔ x.projectedShortageQuantity = 0) ∧
    2 ≤ (e.results.countP fun x => x.severity = .low) ∧
    (e.results.countP fun x => x.severity = .high) ≤ ⌈((4 - 1 : ℕ) : ℚ) / 5⌉₊ := by
  have shown : ((calculateStockoutRisks id Small.riskInputs).toOption.map
        fun e => e.results.map fun x => (x.shortageRatio, x.severity)) =
      some [(0, .none), (1 / 10, .low), (1 / 5, .low), (3 / 10, .medium), (2 / 5, .high)] := by
    decide +kernel
  have nonnegative : ∀ r ∈ Small.riskInputs, r.NonNegative := by
    simp only [Small.riskInputs, List.forall_mem_cons]
    refine ⟨?_, ?_, ?_, ?_, ?_, List.forall_mem_nil _⟩ <;> constructor <;> norm_num
  obtain ⟨e, calculated, -, none, -, counts, -⟩ :=
    @risk_classification id Small.riskInputs (List.cons_ne_nil _ _) nonnegative
  obtain ⟨low, high⟩ := counts 4 (by decide +kernel) (by decide)
  rw [calculated] at shown
  exact ⟨e, calculated, Option.some.inj shown, none, low, high⟩

end SupplyChainHub
