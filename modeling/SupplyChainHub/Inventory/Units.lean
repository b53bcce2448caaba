import SupplyChainHub.Inventory.Applications
import SupplyChainHub.Library.Significant

/-!
The supplier's quantities, read back from a snapshot. A column keeps three places of a product of two numbers of
three places each, so the quotient is the number that was sent just when nothing was rounded away.
-/

namespace SupplyChainHub

/-- `LearningSnapshot` (without the names of its product and warehouse). -/
structure LearningSnapshot where
  sourceReference : String
  sourceRow : Nat
  externalSku : String
  externalLocation : String
  sourceUnit : UnitOfMeasure
  unitsPerSourceUnit : ℚ
  sourceOnHand : ℚ
  canonicalOnHand : ℚ
  sourceReserved : ℚ
  canonicalReserved : ℚ
  productMappingVersion : Nat
  warehouseMappingVersion : Nat
  observedAt : Moment

/-- Division of decimals, in the default context of 28 digits. -/
def decimalDivide (p q : ℚ) : ℚ := Significant.toDigits 28 (p / q)

def snapshotView (snapshot : InventorySnapshot) : LearningSnapshot :=
  let conversion := snapshot.unitsPerSourceUnit.value
  { sourceReference := snapshot.sourceReference
    sourceRow := snapshot.sourceRow
    externalSku := snapshot.externalSku
    externalLocation := snapshot.externalLocation
    sourceUnit := snapshot.sourceUnit
    unitsPerSourceUnit := conversion
    sourceOnHand := decimalDivide snapshot.onHandQuantity.value conversion
    canonicalOnHand := snapshot.onHandQuantity.value
    sourceReserved := decimalDivide snapshot.reservedQuantity.value conversion
    canonicalReserved := snapshot.reservedQuantity.value
    productMappingVersion := snapshot.productMappingVersion
    warehouseMappingVersion := snapshot.warehouseMappingVersion
    observedAt := snapshot.observedAt }

/-- The view gives the record's quantities back, and neither was stored as 0 unless it is 0. -/
structure Recovered (record : CanonicalInventoryRecord) (s : InventorySnapshot) : Prop where
  onHand : (snapshotView s).sourceOnHand = record.onHandQuantity
  reserved : (snapshotView s).sourceReserved = record.reservedQuantity
  onHandKept : 0 < record.onHandQuantity → s.onHandQuantity.value ≠ 0
  reservedKept : 0 < record.reservedQuantity → s.reservedQuantity.value ≠ 0

section
variable {quantity factor stored : Numeric183} {p q : ℚ}

theorem value_eq (n : Numeric183) : n.value = (n.thousandths : ℚ) / 1000 := rfl

theorem abs_thousandths (n : Numeric183) : |(n.thousandths : ℚ)| < 10 ^ 18 := by
  have fits := n.fits
  have bound : |n.thousandths| < 10 ^ 18 := abs_lt.mpr ⟨by omega, by omega⟩
  exact_mod_cast bound

/-- What is sent is divided back without rounding. -/
theorem divide_exact (same : p / q = quantity.value) : decimalDivide p q = quantity.value := by
  unfold decimalDivide
  rw [same]
  apply Significant.toDigits_exact (k := 3) (z := quantity.thousandths)
  · rw [value_eq]
    ring
  · have bound := abs_thousandths quantity
    rw [value_eq, abs_div]
    norm_num at bound ⊢
    linarith

/-- Rounding the quotient cannot make up for what the column rounded away. -/
theorem divide_inexact (positive : 0 < factor.thousandths)
    (differs : stored.thousandths * 1000 ≠ quantity.thousandths * factor.thousandths) :
    decimalDivide stored.value factor.value ≠ quantity.value := by
  intro same
  have factorPositive : (0 : ℚ) < factor.thousandths := by exact_mod_cast positive
  have denominator : (0 : ℚ) < 1000 * factor.thousandths := mul_pos (by norm_num) factorPositive
  have quotient : stored.value / factor.value = (stored.thousandths : ℚ) / factor.thousandths := by
    rw [value_eq, value_eq]
    field_simp
  have near := Significant.toDigits_relative 28 (stored.value / factor.value)
  rw [← decimalDivide, same, quotient, value_eq] at near
  -- over the common denominator the two are a whole number apart
  have gap : (1 : ℚ) ≤ |(quantity.thousandths : ℚ) * factor.thousandths - stored.thousandths * 1000| := by
    have apart : 1 ≤ |quantity.thousandths * factor.thousandths - stored.thousandths * 1000| :=
      Int.one_le_abs (sub_ne_zero.mpr (Ne.symm differs))
    exact_mod_cast apart
  have scaled : |(quantity.thousandths : ℚ) * factor.thousandths - stored.thousandths * 1000| =
      |(quantity.thousandths : ℚ) / 1000 - stored.thousandths / factor.thousandths| *
        (1000 * factor.thousandths) := by
    rw [← abs_of_pos denominator, ← abs_mul]
    congr 1
    field_simp
  have size : |(stored.thousandths : ℚ) / factor.thousandths| * factor.thousandths = |(stored.thousandths : ℚ)| := by
    rw [abs_div, abs_of_pos factorPositive]
    field_simp
  have bound := abs_thousandths stored
  have product := mul_le_mul_of_nonneg_right near denominator.le
  rw [← scaled] at product
  have total : |(stored.thousandths : ℚ) / factor.thousandths| * 10 ^ (1 - (28 : ℕ) : ℤ) / 2 *
      (1000 * factor.thousandths) = |(stored.thousandths : ℚ)| * 10 ^ (1 - (28 : ℕ) : ℤ) * 500 := by
    rw [← size]
    ring
  rw [total] at product
  norm_num at product bound
  linarith

theorem divide_recovers (positive : 0 < factor.thousandths) :
    decimalDivide stored.value factor.value = quantity.value ↔
      stored.thousandths * 1000 = quantity.thousandths * factor.thousandths := by
  constructor
  · intro same
    by_contra differs
    exact divide_inexact positive differs same
  · intro same
    apply divide_exact
    have factorPositive : (0 : ℚ) < factor.thousandths := by exact_mod_cast positive
    have cast : (stored.thousandths : ℚ) * 1000 = quantity.thousandths * factor.thousandths := by exact_mod_cast same
    rw [value_eq, value_eq, value_eq]
    field_simp
    linarith

/-- The column keeps the product whole just when it has no more than three places. -/
theorem stored_whole (stores : Numeric183.store? (quantity.value * factor.value) = some stored) :
    stored.thousandths * 1000 = quantity.thousandths * factor.thousandths ↔
      1000 ∣ quantity.thousandths * factor.thousandths := by
  constructor
  · exact fun same => ⟨stored.thousandths, by rw [← same, mul_comm]⟩
  · rintro ⟨z, whole⟩
    have product : quantity.value * factor.value = (z : ℚ) / 1000 := by
      have cast : (quantity.thousandths : ℚ) * factor.thousandths = 1000 * z := by exact_mod_cast whole
      rw [value_eq, value_eq, div_mul_div_comm, cast]
      ring
    unfold Numeric183.store? at stores
    split at stores
    · cases stores
      rw [whole]
      show roundHalfAway (quantity.value * factor.value * 1000) * 1000 = 1000 * z
      rw [product, div_mul_cancel₀ _ (by norm_num), roundHalfAway_int, mul_comm]
    · contradiction

theorem recovered_quantity (positive : 0 < factor.thousandths)
    (stores : Numeric183.store? (quantity.value * factor.value) = some stored) :
    decimalDivide stored.value factor.value = quantity.value ↔
      1000 ∣ quantity.thousandths * factor.thousandths := by
  rw [divide_recovers positive, stored_whole stores]

theorem divided_kept (same : decimalDivide stored.value factor.value = quantity.value) (some : 0 < quantity.value) :
    stored.value ≠ 0 := by
  intro none
  have zero : decimalDivide stored.value factor.value = 0 := by
    rw [decimalDivide, none, zero_div, Significant.toDigits_zero]
  rw [zero] at same
  exact some.ne same

end

/-- The supplier's numbers can be read back from the snapshot of an accepted record just when the factor took both
to whole thousandths. -/
theorem conversion_recovered_iff {db : Database} {session : WorkerSession} {result : InventoryAdapterResult}
    {events : List OperationEvent} {a : Applying} {verdicts : List RecordVerdict} {record : CanonicalInventoryRecord}
    {s : InventorySnapshot} {m : SupplierProductMapping} (onHand reserved : Numeric183)
    (applied : applyInventoryResult db session result events = .next (a, verdicts))
    (accepted : (record, s) ∈ (acceptedRecords verdicts).zip a.snapshots)
    (mapping : productMappingFor db session.job.supplierId record = some m)
    (sentOnHand : record.onHandQuantity = onHand.value) (sentReserved : record.reservedQuantity = reserved.value) :
    Recovered record s ↔ 1000 ∣ onHand.thousandths * m.unitsPerSourceUnit.thousandths ∧
      1000 ∣ reserved.thousandths * m.unitsPerSourceUnit.thousandths := by
  obtain ⟨m', w, converted⟩ := (List.forall₂_zip (applied_converted applied) accepted).1
  obtain rfl := Option.some.inj (converted.productMapping.symm.trans mapping)
  have storesOnHand := converted.onHand
  have storesReserved := converted.reserved
  rw [sentOnHand] at storesOnHand
  rw [sentReserved] at storesReserved
  have onHandBack := recovered_quantity converted.positive storesOnHand
  have reservedBack := recovered_quantity converted.positive storesReserved
  rw [← converted.factor] at onHandBack reservedBack
  rw [← converted.factor, ← onHandBack, ← reservedBack]
  constructor
  · intro recovered
    exact ⟨recovered.onHand.trans sentOnHand, recovered.reserved.trans sentReserved⟩
  · rintro ⟨onHandSame, reservedSame⟩
    refine ⟨onHandSame.trans sentOnHand.symm, reservedSame.trans sentReserved.symm, ?_, ?_⟩
    · exact fun some => divided_kept onHandSame (sentOnHand ▸ some)
    · exact fun some => divided_kept reservedSame (sentReserved ▸ some)

namespace Small

/-- A thousandth of a case. -/
def fractionLine : CanonicalInventoryRecord :=
  { line with onHandQuantity := 1 / 1000, unitsPerSourceUnit := some ⟨1 / 1000, "0.001"⟩ }

theorem thousandth_fits : (1 : ℤ).natAbs < 10 ^ 18 := by decide

/-- Cases of a thousandth of a unit. -/
def thinDatabase : Database :=
  { hub.db with
    productMappings := hub.db.productMappings.map fun m => { m with unitsPerSourceUnit := numeric 1 thousandth_fits } }

theorem cases_fit : (3000 : ℤ).natAbs < 10 ^ 18 := by decide

theorem none_fit : (0 : ℤ).natAbs < 10 ^ 18 := by decide

end Small

theorem conversion_recovered_iff_case : ∃ a verdicts s,
    applyInventoryResult Small.hub.db Small.session { records := [Small.line] } [] = .next (a, verdicts) ∧
      (Small.line, s) ∈ (acceptedRecords verdicts).zip a.snapshots ∧ Recovered Small.line s := by
  have shown : (applyInventoryResult Small.hub.db Small.session { records := [Small.line] } []).result?.any (fun p =>
      ((acceptedRecords p.2).zip p.1.snapshots).any fun entry => decide (entry.1 = Small.line)) = true := by
    decide +kernel
  obtain ⟨⟨a, verdicts⟩, applied, shown⟩ := (Option.any_eq_true _ _).mp shown
  obtain ⟨⟨record, s⟩, accepted, same⟩ := List.any_eq_true.mp shown
  obtain rfl : record = Small.line := of_decide_eq_true same
  have completes := Outcome.result?_eq applied
  have mapping : (productMappingFor Small.hub.db 1 Small.line).isSome = true := by decide +kernel
  obtain ⟨m, mapping⟩ := Option.isSome_iff_exists.mp mapping
  have factor : (productMappingFor Small.hub.db 1 Small.line).all
      (fun m => m.unitsPerSourceUnit.thousandths = 12000) = true := by decide +kernel
  rw [mapping, Option.all_some, decide_eq_true_eq] at factor
  refine ⟨a, verdicts, s, completes, accepted, (conversion_recovered_iff (Small.numeric 3000 Small.cases_fit)
    (Small.numeric 0 Small.none_fit) completes accepted mapping ?_ ?_).mpr ?_⟩
  · decide +kernel
  · decide +kernel
  · rw [factor]
    decide

/-- A thousandth of a case, of a thousandth of a unit, is accepted and stored as nothing. -/
theorem fraction_stored_as_zero : ∃ a verdicts s,
    applyInventoryResult Small.thinDatabase Small.session { records := [Small.fractionLine] } [] =
        .next (a, verdicts) ∧
      (Small.fractionLine, s) ∈ (acceptedRecords verdicts).zip a.snapshots ∧ 0 < Small.fractionLine.onHandQuantity ∧
        s.onHandQuantity.value = 0 ∧ (snapshotView s).sourceOnHand = 0 := by
  have shown : (applyInventoryResult Small.thinDatabase Small.session { records := [Small.fractionLine] }
      []).result?.any (fun p => ((acceptedRecords p.2).zip p.1.snapshots).any fun entry =>
        decide (entry.1 = Small.fractionLine) && decide (entry.2.onHandQuantity.value = 0)) = true := by decide +kernel
  obtain ⟨⟨a, verdicts⟩, applied, shown⟩ := (Option.any_eq_true _ _).mp shown
  obtain ⟨⟨record, s⟩, accepted, shown⟩ := List.any_eq_true.mp shown
  simp only [Bool.and_eq_true, decide_eq_true_eq] at shown
  obtain ⟨rfl, nothing⟩ := shown
  refine ⟨a, verdicts, s, Outcome.result?_eq applied, accepted, by decide +kernel, nothing, ?_⟩
  show decimalDivide s.onHandQuantity.value _ = 0
  rw [decimalDivide, nothing, zero_div, Significant.toDigits_zero]

end SupplyChainHub
