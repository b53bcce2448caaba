import SupplyChainHub.Analytics.Reconciliation
import SupplyChainHub.Analytics.Risk
import SupplyChainHub.Domain.Values

/-!
`analytics/synthetic.py`. What NumPy's generator draws for a seed is a parameter, entry by entry of its arrays, and so
is its rounding; what is computed from the draws as floats is computed exactly.
-/

namespace SupplyChainHub

/-! ### Reconciliation inputs -/

/-- What `np.random.default_rng` of a seed draws for arrays of a size. -/
structure ReconciliationDraws where
  hubQuantities : (seed size index : Nat) → Int64
  deltas : (seed size index : Nat) → Int64

def deltaChoices : List Int64 := [-20, -8, -3, 0, 0, 0, 0, 4, 9, 25]

structure ReconciliationDraws.Documented (draws : ReconciliationDraws) : Prop where
  hubQuantities : ∀ seed size index, index < size →
    0 ≤ (draws.hubQuantities seed size index).toInt ∧ (draws.hubQuantities seed size index).toInt < 500
  deltas : ∀ seed size index, index < size → draws.deltas seed size index ∈ deltaChoices

/-- `np.maximum(hub_quantities + deltas, 0)` -/
def ReconciliationDraws.reportedQuantities (draws : ReconciliationDraws) (seed size index : Nat) : Int64 :=
  let reported := draws.hubQuantities seed size index + draws.deltas seed size index
  if reported < 0 then 0 else reported

def rowCountError : Raised := ⟨[], "row_count must be positive."⟩

section
variable (draws : ReconciliationDraws) (rowCount seed index : Nat)

def syntheticSku : String := "SYN-SKU-" ++ padded 7 index

def syntheticWarehouse : String := "SYN-WH-" ++ padded 2 (index % 25)

def syntheticSupplierRow : SupplierInventoryRow where
  recordIndex := index
  supplierCode := "SYN-SUPPLIER-" ++ (index % 4).repr
  productSku := syntheticSku index
  warehouseCode := syntheticWarehouse index
  reportedQuantity := draws.reportedQuantities seed rowCount index

def syntheticHubRow : HubInventoryRow where
  recordIndex := index
  productSku := syntheticSku index
  warehouseCode := syntheticWarehouse index
  hubQuantity := draws.hubQuantities seed rowCount index

def generateReconciliationInputs : Except Raised (List SupplierInventoryRow × List HubInventoryRow) :=
  if rowCount < 1 then .error rowCountError
  else .ok ((List.range rowCount).map (syntheticSupplierRow draws rowCount seed),
    (List.range rowCount).map (syntheticHubRow draws rowCount seed))

/-- What row `index` of the two sides reconciles to. -/
def syntheticResult : ReconciliationResult :=
  reconciled (syntheticSupplierRow draws rowCount seed index, syntheticHubRow draws rowCount seed index)

end

section
variable {draws : ReconciliationDraws} {rowCount seed index : Nat} {frames : Frames}

theorem reportedQuantities_range (documented : draws.Documented) (inside : index < rowCount) :
    0 ≤ (draws.reportedQuantities seed rowCount index).toInt ∧
      (draws.reportedQuantities seed rowCount index).toInt < 525 := by
  have hub := documented.hubQuantities seed rowCount index inside
  have delta : -20 ≤ (draws.deltas seed rowCount index).toInt ∧ (draws.deltas seed rowCount index).toInt ≤ 25 := by
    have each : deltaChoices.all (fun d => decide (-20 ≤ d.toInt ∧ d.toInt ≤ 25)) = true := by decide
    exact of_decide_eq_true (List.all_eq_true.mp each _ (documented.deltas seed rowCount index inside))
  have sum : (draws.hubQuantities seed rowCount index + draws.deltas seed rowCount index).toInt =
      (draws.hubQuantities seed rowCount index).toInt + (draws.deltas seed rowCount index).toInt := by
    rw [Int64.toInt_add]
    apply Int.bmod_eq_of_le <;> omega
  unfold ReconciliationDraws.reportedQuantities
  dsimp only
  split
  · exact ⟨by decide, by decide⟩
  · rename_i positive
    rw [Int64.lt_iff_toInt_lt, sum, Int64.toInt_zero] at positive
    rw [sum]
    omega

theorem synthetic_indexes : (((List.range rowCount).map (syntheticSupplierRow draws rowCount seed)).map
      (·.recordIndex)).Nodup ∧
    (((List.range rowCount).map (syntheticHubRow draws rowCount seed)).map (·.recordIndex)).Nodup := by
  have indexes : ((List.range rowCount).map Int.ofNat).Nodup := List.nodup_range.map Int.ofNat_injective
  constructor <;> rw [List.map_map] <;> exact indexes

theorem synthetic_keys : (((List.range rowCount).map (syntheticSupplierRow draws rowCount seed)).map
      SupplierInventoryRow.key).Nodup ∧
    (((List.range rowCount).map (syntheticHubRow draws rowCount seed)).map HubInventoryRow.key).Nodup :=
  ⟨keys_nodup (fun _ => rfl) synthetic_indexes.1, keys_nodup (fun _ => rfl) synthetic_indexes.2⟩

theorem inner_synthetic : Joins.inner SupplierInventoryRow.key HubInventoryRow.key
      ((List.range rowCount).map (syntheticSupplierRow draws rowCount seed))
      ((List.range rowCount).map (syntheticHubRow draws rowCount seed)) =
    (List.range rowCount).map fun index =>
      (syntheticSupplierRow draws rowCount seed index, syntheticHubRow draws rowCount seed index) := by
  have aligned (index : Nat) : (syntheticHubRow draws rowCount seed index).key =
      (syntheticSupplierRow draws rowCount seed index).key := rfl
  exact Joins.inner_aligned aligned synthetic_keys.2

theorem pairedOff_synthetic : pairedOff ((List.range rowCount).map (syntheticSupplierRow draws rowCount seed))
      ((List.range rowCount).map (syntheticHubRow draws rowCount seed)) =
    (List.range rowCount).map fun index =>
      (syntheticSupplierRow draws rowCount seed index, syntheticHubRow draws rowCount seed index) := by
  rw [pairedOff, inner_synthetic]
  apply List.Pairwise.insertionSort_eq
  rw [List.pairwise_map]
  exact List.pairwise_lt_range.imp fun earlier => Int.ofNat_le.mpr (Nat.le_of_lt earlier)

theorem synthetic_fits (drawn : draws.Documented) (inside : index < rowCount) :
    InRange64 ((syntheticSupplierRow draws rowCount seed index).reportedQuantity.toInt -
      (syntheticHubRow draws rowCount seed index).hubQuantity.toInt) := by
  have reported : 0 ≤ (draws.reportedQuantities seed rowCount index).toInt ∧
      (draws.reportedQuantities seed rowCount index).toInt < 525 := reportedQuantities_range drawn inside
  have hub := drawn.hubQuantities seed rowCount index inside
  unfold InRange64
  dsimp only [syntheticSupplierRow, syntheticHubRow]
  omega

/-- Either engine gives one entry for each index, in their order. -/
theorem reconcile_synthetic (documented : frames.Documented) (drawn : draws.Documented) :
    reconcileWithPandas frames ((List.range rowCount).map (syntheticSupplierRow draws rowCount seed))
        ((List.range rowCount).map (syntheticHubRow draws rowCount seed)) =
      .ok ((List.range rowCount).map (syntheticResult draws rowCount seed)) ∧
    reconcileWithPolars frames ((List.range rowCount).map (syntheticSupplierRow draws rowCount seed))
        ((List.range rowCount).map (syntheticHubRow draws rowCount seed)) =
      .ok ((List.range rowCount).map (syntheticResult draws rowCount seed)) := by
  have keys := @synthetic_keys draws rowCount seed
  obtain ⟨joined, joins, perm⟩ := documented.join _ _ keys.1 keys.2
  have height : joined.length = rowCount := by
    rw [perm.length_eq, inner_synthetic, List.length_map, List.length_range]
  have results : (frames.sort (joined.map JoinedRow.of)).map JoinedRow.result =
      (List.range rowCount).map (syntheticResult draws rowCount seed) := by
    rw [sort_joined documented synthetic_indexes.1 keys.2 perm, pairedOff_synthetic, List.map_map, List.map_map]
    exact List.map_congr_left fun index inside => result_of (synthetic_fits drawn (List.mem_range.mp inside))
  have sorted := (documented.permutes (joined.map JoinedRow.of)).length_eq
  unfold reconcileWithPandas reconcileWithPolars
  rw [joins]
  simp [height, sorted, results]

end

/-! ### Risk inputs -/

/-- What `np.random.default_rng` of a seed draws for arrays of a size, and `np.rint`. -/
structure RiskDraws where
  onHand : (seed size index : Nat) → Nat
  reservedShares : (seed size index : Nat) → ℚ
  inbound : (seed size index : Nat) → Nat
  demandFactors : (seed size index : Nat) → ℚ
  /-- The draws of `rng.normal`. -/
  actualFactors : (seed size index : Nat) → ℚ
  rint : ℚ → Int

structure RiskDraws.Documented (draws : RiskDraws) : Prop where
  onHand : ∀ seed size index, index < size → 20 ≤ draws.onHand seed size index ∧ draws.onHand seed size index < 500
  reservedShares : ∀ seed size index, index < size →
    0 ≤ draws.reservedShares seed size index ∧ draws.reservedShares seed size index ≤ 9 / 20
  inbound : ∀ seed size index, index < size → draws.inbound seed size index < 180
  demandFactors : ∀ seed size index, index < size →
    13 / 20 ≤ draws.demandFactors seed size index ∧ draws.demandFactors seed size index ≤ 29 / 20

section
variable (draws : RiskDraws) (rowCount seed index : Nat)

def syntheticRisk : RiskInput :=
  let onHand : ℚ := draws.onHand seed rowCount index
  let reserved : ℚ := ⌊onHand * draws.reservedShares seed rowCount index⌋
  let inbound : ℚ := draws.inbound seed rowCount index
  let forecast : ℚ := max 1 (draws.rint ((onHand - reserved + inbound) * draws.demandFactors seed rowCount index))
  { recordIndex := index
    productSku := "SYN-RISK-SKU-" ++ padded 7 index
    warehouseCode := "SYN-WH-" ++ padded 2 (index % 25)
    onHandQuantity := onHand
    reservedQuantity := reserved
    inboundQuantity := inbound
    forecastQuantity := forecast
    actualDemandQuantity := max 0 (draws.rint (forecast * draws.actualFactors seed rowCount index)) }

def generateRiskInputs : Except Raised (List RiskInput) :=
  if rowCount < 1 then .error rowCountError else .ok ((List.range rowCount).map (syntheticRisk draws rowCount seed))

end

/-- What is drawn is never negative, nor is what is computed from it. -/
theorem syntheticRisk_nonnegative {draws : RiskDraws} {rowCount seed index : Nat} (documented : draws.Documented)
    (inside : index < rowCount) : (syntheticRisk draws rowCount seed index).NonNegative where
  onHand := Nat.cast_nonneg _
  reserved := by
    have share := (documented.reservedShares seed rowCount index inside).1
    have product : (0 : ℚ) ≤ draws.onHand seed rowCount index * draws.reservedShares seed rowCount index :=
      mul_nonneg (Nat.cast_nonneg _) share
    exact Int.cast_nonneg (Int.floor_nonneg.mpr product)
  inbound := Nat.cast_nonneg _
  forecast := le_trans zero_le_one (le_max_left _ _)
  actualDemand := le_max_left _ _

/-- Nothing is in fractions of a piece. -/
theorem syntheticRisk_shortage (draws : RiskDraws) (rowCount seed index : Nat) :
    ∃ pieces : Int, (syntheticRisk draws rowCount seed index).shortage = pieces := by
  let onHand : Int := draws.onHand seed rowCount index
  let reserved : Int := ⌊(onHand : ℚ) * draws.reservedShares seed rowCount index⌋
  let inbound : Int := draws.inbound seed rowCount index
  let forecast : Int :=
    max 1 (draws.rint (((onHand : ℚ) - reserved + inbound) * draws.demandFactors seed rowCount index))
  refine ⟨max (-(max (onHand - reserved) 0 + inbound - forecast)) 0, ?_⟩
  unfold RiskInput.shortage RiskInput.projectedEnding RiskInput.available syntheticRisk
  simp only [onHand, reserved, inbound, forecast]
  push_cast
  rfl

namespace Small

/-- A tie goes to the even neighbour. -/
def rint (q : ℚ) : Int :=
  let below := ⌊q⌋
  if q - below < 1 / 2 then below
  else if 1 / 2 < q - below then below + 1
  else if below % 2 = 0 then below
  else below + 1

theorem rint_near (q : ℚ) : |(rint q : ℚ) - q| ≤ 1 / 2 := by
  have least := Int.floor_le q
  have most := Int.lt_floor_add_one q
  unfold rint
  dsimp only
  rw [abs_le]
  split_ifs <;> push_cast <;> constructor <;> linarith

end Small

end SupplyChainHub
