import Mathlib.Data.List.Dedup
import Mathlib.Data.Option.NAry
import SupplyChainHub.Analytics.Risk
import SupplyChainHub.Pipelines.Keys

/-!
The frames of `pipelines/historical_inventory.py`: `_invalid_rows`, `_duplicate_rows`, `_transform`. A cell that
does not parse is null; what `approxQuantile` returns is a parameter.
-/

namespace SupplyChainHub

/-! ### Doubles, in exact arithmetic -/

inductive Double where
  | nan
  | infinite (negative : Bool)
  | finite (q : ℚ)
  deriving DecidableEq

namespace Double

def neg : Double → Double
  | nan => nan
  | infinite negative => infinite !negative
  | finite q => finite (-q)

def add : Double → Double → Double
  | nan, _ | _, nan => nan
  | infinite negative, infinite negative' => if negative = negative' then infinite negative else nan
  | infinite negative, finite _ | finite _, infinite negative => infinite negative
  | finite p, finite q => finite (p + q)

def sub (x y : Double) : Double := x.add y.neg

def abs : Double → Double
  | nan => nan
  | infinite _ => infinite false
  | finite q => finite |q|

/-- Division by a positive number. -/
def div : Double → Double → Double
  | nan, _ | _, nan | infinite _, infinite _ => nan
  | infinite negative, finite _ => infinite negative
  | finite _, infinite _ => finite 0
  | finite p, finite q => finite (p / q)

/-- Spark's order, in which NaN comes last. -/
def lt : Double → Double → Bool
  | nan, _ => false
  | _, nan => true
  | infinite negative, infinite negative' => negative && !negative'
  | infinite negative, finite _ => negative
  | finite _, infinite negative => !negative
  | finite p, finite q => p < q

def greatest (x y : Double) : Double := if x.lt y then y else x

end Double

/-! ### Frames -/

structure RawInventoryRow where
  eventDate : Option CalendarDate
  supplierCode : Option String
  productSku : Option String
  warehouseCode : Option String
  onHandQuantity : Option Double
  reservedQuantity : Option Double
  inboundQuantity : Option Double
  forecastQuantity : Option Double
  actualDemandQuantity : Option Double
  deriving DecidableEq

structure CuratedRow extends RawInventoryRow where
  availableQuantity : Option Double
  projectedEndingQuantity : Option Double
  projectedShortageQuantity : Option Double
  shortageRatio : Option Double
  forecastError : Option Double
  absoluteForecastError : Option Double
  severity : RiskSeverity
  deriving DecidableEq

namespace RawInventoryRow

/-- `KEY_COLUMNS` -/
def key (r : RawInventoryRow) : Option CalendarDate × Option String × Option String × Option String :=
  (r.eventDate, r.supplierCode, r.productSku, r.warehouseCode)

def codes (r : RawInventoryRow) : List (Option String) := [r.supplierCode, r.productSku, r.warehouseCode]

/-- `QUANTITY_COLUMNS` -/
def quantities (r : RawInventoryRow) : List (Option Double) :=
  [r.onHandQuantity, r.reservedQuantity, r.inboundQuantity, r.forecastQuantity, r.actualDemandQuantity]

end RawInventoryRow

/-- `trim(..) == ""`: Spark trims spaces. -/
def trimsToEmpty (text : String) : Bool := text.toList.all (· = ' ')

def invalidRows (frame : List RawInventoryRow) : List RawInventoryRow :=
  frame.filter fun r => r.eventDate.isNone || r.codes.any (fun code => code.all trimsToEmpty) ||
    r.quantities.any fun quantity => quantity.all fun x => x.lt (.finite 0)

def duplicateRows (frame : List RawInventoryRow) :
    List (Option CalendarDate × Option String × Option String × Option String) :=
  (frame.map RawInventoryRow.key).dedup.filter fun key => 1 < (frame.map RawInventoryRow.key).count key

structure QualityReport where
  partitionDate : CalendarDate
  runId : String
  inputRows : Nat
  invalidRows : Nat
  duplicateKeys : Nat
  passed : Bool
  deriving DecidableEq

def qualityReport (partitionDate : CalendarDate) (runId : String) (frame : List RawInventoryRow) : QualityReport where
  partitionDate
  runId
  inputRows := frame.length
  invalidRows := (invalidRows frame).length
  duplicateKeys := (duplicateRows frame).length
  passed := (invalidRows frame).length = 0 && (duplicateRows frame).length = 0

/-! ### The transform -/

/-- `greatest(.., 0.0)`, which leaves nulls out. -/
def greatestOrZero (x : Option Double) : Option Double := some ((x.map (·.greatest (.finite 0))).getD (.finite 0))

namespace RawInventoryRow

def available (r : RawInventoryRow) : Option Double :=
  greatestOrZero (Option.map₂ Double.sub r.onHandQuantity r.reservedQuantity)

def projectedEnding (r : RawInventoryRow) : Option Double :=
  Option.map₂ Double.sub (Option.map₂ Double.add r.available r.inboundQuantity) r.forecastQuantity

def projectedShortage (r : RawInventoryRow) : Option Double := greatestOrZero (r.projectedEnding.map Double.neg)

def ratio (r : RawInventoryRow) : Option Double :=
  match r.forecastQuantity with
  | none => some (.finite 0)
  | some forecast =>
    if (Double.finite 0).lt forecast then r.projectedShortage.map (·.div forecast) else some (.finite 0)

def error (r : RawInventoryRow) : Option Double := Option.map₂ Double.sub r.forecastQuantity r.actualDemandQuantity

end RawInventoryRow

def severityOf (lowToMedium mediumToHigh : Double) : Option Double → RiskSeverity
  | none => .high
  | some ratio =>
    if ratio = .finite 0 then .none
    else if !lowToMedium.lt ratio then .low
    else if !mediumToHigh.lt ratio then .medium
    else .high

structure Transformed where
  rows : List CuratedRow
  lowToMedium : Double
  mediumToHigh : Double

def transform (approxQuantile : List Double → Option (Double × Double)) (frame : List RawInventoryRow) : Transformed :=
  let positive := frame.filterMap fun r => r.ratio.filter fun ratio => (Double.finite 0).lt ratio
  let thresholds := (approxQuantile positive).getD (.finite 0, .finite 0)
  { rows := frame.map fun r => { r with
      availableQuantity := r.available
      projectedEndingQuantity := r.projectedEnding
      projectedShortageQuantity := r.projectedShortage
      shortageRatio := r.ratio
      forecastError := r.error
      absoluteForecastError := r.error.map Double.abs
      severity := severityOf thresholds.1 thresholds.2 r.ratio }
    lowToMedium := thresholds.1
    mediumToHigh := thresholds.2 }

/-- Rows that passed the gates, transformed. -/
def curate (approxQuantile : List Double → Option (Double × Double)) (partitionDate : CalendarDate) (runId : String)
    (frame : List RawInventoryRow) : Except Raised Transformed :=
  let report := qualityReport partitionDate runId frame
  if !report.passed then
    .error ⟨[], "Data-quality gates failed: " ++ report.invalidRows.repr ++ " invalid rows and " ++
      report.duplicateKeys.repr ++ " duplicate keys."⟩
  else .ok (transform approxQuantile frame)

/-! ### What the gates let through -/

/-- Nothing but whitespace. -/
def isBlank (text : String) : Bool := text.toList.all isWhiteSpace

structure SoundRow (partitionDate : CalendarDate) (row : CuratedRow) : Prop where
  eventDate : row.eventDate = some partitionDate
  codes : ∀ code ∈ row.codes, ∃ text, code = some text ∧ isBlank text = false
  quantities : ∀ quantity ∈ row.quantities, ∃ q, quantity = some (.finite q) ∧ 0 ≤ q
  shortage : ∃ onHand reserved inbound forecast,
    row.onHandQuantity = some (.finite onHand) ∧ row.reservedQuantity = some (.finite reserved) ∧
    row.inboundQuantity = some (.finite inbound) ∧ row.forecastQuantity = some (.finite forecast) ∧
    row.projectedShortageQuantity = some (.finite (max (forecast - max (onHand - reserved) 0 - inbound) 0))
  shortageRatio : ∃ ratio, row.shortageRatio = some (.finite ratio) ∧ 0 ≤ ratio ∧ ratio ≤ 1
  severity : row.severity = .none ↔ row.projectedShortageQuantity = some (.finite 0)

/-- What the gates take for granted: they look neither for another date, nor for other whitespace than spaces, nor
for a quantity that is not a number. -/
structure Clean (partitionDate : CalendarDate) (r : RawInventoryRow) : Prop where
  eventDate : r.eventDate = some partitionDate
  codes : ∀ text, some text ∈ r.codes → isBlank text = false
  quantities : ∀ x, some x ∈ r.quantities → ∃ q, x = .finite q

section
variable {approxQuantile : List Double → Option (Double × Double)} {partitionDate : CalendarDate} {runId : String}
  {frame : List RawInventoryRow} {r : RawInventoryRow} {t : Transformed} {x : Double}

theorem curate_ok (passed : curate approxQuantile partitionDate runId frame = .ok t) :
    invalidRows frame = [] ∧ duplicateRows frame = [] ∧ t = transform approxQuantile frame := by
  unfold curate at passed
  simp only at passed
  split at passed
  · cases passed
  · rename_i gates
    simp only [qualityReport, Bool.not_and, Bool.or_eq_true, Bool.not_eq_true', decide_eq_false_iff_not, not_or,
      not_not, List.length_eq_zero_iff] at gates
    exact ⟨gates.1, gates.2, (Except.ok.inj passed).symm⟩

theorem curate_passed (gates : (qualityReport partitionDate runId frame).passed = true) :
    curate approxQuantile partitionDate runId frame = .ok (transform approxQuantile frame) := by
  simp [curate, gates]

theorem gated_keys (gate : duplicateRows frame = []) : (frame.map RawInventoryRow.key).Nodup := by
  rw [List.nodup_iff_count_le_one]
  intro key
  by_cases present : key ∈ frame.map RawInventoryRow.key
  · have single := List.filter_eq_nil_iff.mp gate key (List.mem_dedup.mpr present)
    simpa only [decide_eq_true_eq, Nat.not_lt] using single
  · rw [List.count_eq_zero_of_not_mem present]
    exact Nat.zero_le 1

theorem gated_quantity (gate : invalidRows frame = []) (member : r ∈ frame) {quantity : Option Double}
    (listed : quantity ∈ r.quantities) : ∃ x, quantity = some x ∧ x.lt (.finite 0) = false := by
  have valid := List.filter_eq_nil_iff.mp gate r member
  simp only [Bool.or_eq_true, not_or, List.any_eq_true, not_exists, not_and] at valid
  have here := valid.2 quantity listed
  cases quantity with
  | none => exact absurd rfl here
  | some x => exact ⟨x, rfl, Bool.eq_false_of_not_eq_true here⟩

theorem gated_code (gate : invalidRows frame = []) (member : r ∈ frame) {code : Option String}
    (listed : code ∈ r.codes) : ∃ text, code = some text := by
  have valid := List.filter_eq_nil_iff.mp gate r member
  simp only [Bool.or_eq_true, not_or, List.any_eq_true, not_exists, not_and] at valid
  have here := valid.1.2 code listed
  cases code with
  | none => exact absurd rfl here
  | some text => exact ⟨text, rfl⟩

theorem finite_quantity (gate : invalidRows frame = []) (member : r ∈ frame) (clean : Clean partitionDate r)
    {quantity : Option Double} (listed : quantity ∈ r.quantities) : ∃ q, quantity = some (.finite q) ∧ 0 ≤ q := by
  obtain ⟨x, rfl, least⟩ := gated_quantity gate member listed
  obtain ⟨q, rfl⟩ := clean.quantities x listed
  exact ⟨q, rfl, not_lt.mp (of_decide_eq_false least)⟩

theorem greatestOrZero_finite (q : ℚ) : greatestOrZero (some (.finite q)) = some (.finite (max q 0)) := by
  show some ((Double.finite q).greatest (.finite 0)) = _
  unfold Double.greatest Double.lt
  by_cases negative : q < 0
  · simp [negative, max_eq_right negative.le]
  · simp [negative, max_eq_left (not_lt.mp negative)]

section
variable {onHand reserved inbound forecast : ℚ} (onHandIs : r.onHandQuantity = some (.finite onHand))
  (reservedIs : r.reservedQuantity = some (.finite reserved))
  (inboundIs : r.inboundQuantity = some (.finite inbound))
  (forecastIs : r.forecastQuantity = some (.finite forecast))
include onHandIs reservedIs inboundIs forecastIs

theorem projectedShortage_finite :
    r.projectedShortage = some (.finite (max (forecast - max (onHand - reserved) 0 - inbound) 0)) := by
  have available : r.available = some (.finite (max (onHand - reserved) 0)) := by
    unfold RawInventoryRow.available
    rw [onHandIs, reservedIs]
    exact (greatestOrZero_finite (onHand + -reserved)).trans (by rw [sub_eq_add_neg])
  unfold RawInventoryRow.projectedShortage RawInventoryRow.projectedEnding
  rw [available, inboundIs, forecastIs]
  refine (greatestOrZero_finite (-(max (onHand - reserved) 0 + inbound + -forecast))).trans ?_
  congr 3
  ring

theorem ratio_finite (inboundLeast : 0 ≤ inbound) (forecastLeast : 0 ≤ forecast) :
    ∃ ratio, r.ratio = some (.finite ratio) ∧ 0 ≤ ratio ∧ ratio ≤ 1 ∧
      (ratio = 0 ↔ max (forecast - max (onHand - reserved) 0 - inbound) 0 = 0) := by
  have shortage := projectedShortage_finite onHandIs reservedIs inboundIs forecastIs
  have available : 0 ≤ max (onHand - reserved) 0 := le_max_right _ 0
  have least : 0 ≤ max (forecast - max (onHand - reserved) 0 - inbound) 0 := le_max_right _ 0
  have most : max (forecast - max (onHand - reserved) 0 - inbound) 0 ≤ forecast := by
    apply max_le
    · linarith
    · exact forecastLeast
  unfold RawInventoryRow.ratio
  rw [forecastIs]
  by_cases positive : 0 < forecast
  · refine ⟨max (forecast - max (onHand - reserved) 0 - inbound) 0 / forecast, ?_, div_nonneg least forecastLeast,
      (div_le_one positive).mpr most, ?_⟩
    · simp [Double.lt, Double.div, positive, shortage]
    · rw [div_eq_zero_iff, or_iff_left positive.ne']
  · have none : forecast = 0 := le_antisymm (not_lt.mp positive) forecastLeast
    refine ⟨0, ?_, le_rfl, zero_le_one, ?_⟩
    · simp [Double.lt, positive]
    · rw [eq_self_iff_true, true_iff]
      exact le_antisymm (none ▸ most) least

end

theorem severity_none (low high : Double) (ratio : ℚ) :
    severityOf low high (some (.finite ratio)) = .none ↔ ratio = 0 := by
  unfold severityOf
  by_cases zero : ratio = 0
  · simp [zero]
  · have some : Double.finite ratio ≠ .finite 0 := fun same => zero (Double.finite.inj same)
    simp only [some, if_false, zero, iff_false]
    split_ifs <;> simp

theorem sound_of_clean (gate : invalidRows frame = []) (member : r ∈ frame) (clean : Clean partitionDate r)
    {row : CuratedRow} (raw : row.toRawInventoryRow = r)
    (shortageIs : row.projectedShortageQuantity = r.projectedShortage) (ratioIs : row.shortageRatio = r.ratio)
    {low high : Double} (severityIs : row.severity = severityOf low high r.ratio) : SoundRow partitionDate row := by
  obtain ⟨onHand, onHandIs, -⟩ := finite_quantity gate member clean (.head _)
  obtain ⟨reserved, reservedIs, -⟩ := finite_quantity gate member clean (.tail _ (.head _))
  obtain ⟨inbound, inboundIs, inboundLeast⟩ := finite_quantity gate member clean (.tail _ (.tail _ (.head _)))
  obtain ⟨forecast, forecastIs, forecastLeast⟩ :=
    finite_quantity gate member clean (.tail _ (.tail _ (.tail _ (.head _))))
  have shortage := projectedShortage_finite onHandIs reservedIs inboundIs forecastIs
  obtain ⟨ratio, ratioAt, least, most, zero⟩ :=
    ratio_finite onHandIs reservedIs inboundIs forecastIs inboundLeast forecastLeast
  subst raw
  constructor
  · exact clean.eventDate
  · intro code listed
    obtain ⟨text, rfl⟩ := gated_code gate member listed
    exact ⟨text, rfl, clean.codes text listed⟩
  · exact fun quantity => finite_quantity gate member clean
  · exact ⟨onHand, reserved, inbound, forecast, onHandIs, reservedIs, inboundIs, forecastIs, shortageIs.trans shortage⟩
  · exact ⟨ratio, ratioIs.trans ratioAt, least, most⟩
  · rw [severityIs, ratioAt, severity_none, zero, shortageIs, shortage, Option.some_inj, Double.finite.injEq]

theorem clean_of_sound {row : CuratedRow} (sound : SoundRow partitionDate row) :
    Clean partitionDate row.toRawInventoryRow := by
  constructor
  · exact sound.eventDate
  · intro text listed
    obtain ⟨_, same, filled⟩ := sound.codes _ listed
    exact Option.some.inj same ▸ filled
  · intro x listed
    obtain ⟨q, same, -⟩ := sound.quantities _ listed
    exact ⟨q, Option.some.inj same⟩

theorem transform_raw (approxQuantile : List Double → Option (Double × Double)) (frame : List RawInventoryRow) :
    (transform approxQuantile frame).rows.map (·.toRawInventoryRow) = frame := by
  unfold transform
  rw [List.map_map]
  exact List.map_id _

end

/-- What passes the gates is sound when the frame's rows are of the partition's date, with keys that are not
whitespace and quantities that are numbers. -/
theorem published_sound_iff (approxQuantile : List Double → Option (Double × Double)) (partitionDate : CalendarDate)
    (runId : String) (frame : List RawInventoryRow) (t : Transformed)
    (passed : curate approxQuantile partitionDate runId frame = .ok t) :
    ((t.rows.map (·.key)).Nodup ∧ ∀ row ∈ t.rows, SoundRow partitionDate row) ↔
      ∀ r ∈ frame, Clean partitionDate r := by
  obtain ⟨valid, single, rfl⟩ := curate_ok passed
  constructor
  · rintro ⟨-, sound⟩ r member
    rw [← transform_raw approxQuantile frame] at member
    obtain ⟨row, published, rfl⟩ := List.mem_map.mp member
    exact clean_of_sound (sound row published)
  · intro clean
    constructor
    · have keys := gated_keys single
      rwa [← transform_raw approxQuantile frame, List.map_map] at keys
    · intro row published
      obtain ⟨r, member, rfl⟩ := List.mem_map.mp published
      exact sound_of_clean valid member (clean r member) rfl rfl rfl rfl

namespace Small

def day : CalendarDate := ⟨2026, 1, 15⟩

/-- The quantiles of at most one ratio. -/
def approxQuantile (ratios : List Double) : Option (Double × Double) := ratios.head?.map fun ratio => (ratio, ratio)

def rawRow : RawInventoryRow where
  eventDate := some day
  supplierCode := some "supplier-a"
  productSku := some "SKU-1"
  warehouseCode := some "WH-1"
  onHandQuantity := some (.finite 4)
  reservedQuantity := some (.finite 1)
  inboundQuantity := some (.finite 2)
  forecastQuantity := some (.finite 10)
  actualDemandQuantity := some (.finite 9)

/-- Of the day before, with nothing counted. -/
def misfiled : RawInventoryRow :=
  { rawRow with eventDate := some ⟨2026, 1, 14⟩, onHandQuantity := some .nan }

theorem rawRow_clean : Clean day rawRow := by
  constructor
  · rfl
  · intro text listed
    have codes : ∀ code ∈ rawRow.codes, ∀ text ∈ code, isBlank text = false := by decide +kernel
    exact codes _ listed text rfl
  · intro x listed
    simp only [RawInventoryRow.quantities, rawRow, List.mem_cons, Option.some_inj, List.not_mem_nil, or_false]
      at listed
    rcases listed with rfl | rfl | rfl | rfl | rfl <;> exact ⟨_, rfl⟩

end Small

theorem published_sound_iff_row :
    (((transform Small.approxQuantile [Small.rawRow]).rows.map (·.key)).Nodup ∧
      ∀ row ∈ (transform Small.approxQuantile [Small.rawRow]).rows, SoundRow Small.day row) ∧
      (transform Small.approxQuantile [Small.rawRow]).rows.map (·.projectedShortageQuantity) = [some (.finite 5)] := by
  have gates : (qualityReport Small.day "manual" [Small.rawRow]).passed = true := by decide +kernel
  refine ⟨(published_sound_iff Small.approxQuantile Small.day "manual" [Small.rawRow] _ (curate_passed gates)).mpr ?_,
    by decide +kernel⟩
  intro r member
  rw [List.mem_singleton.mp member]
  exact Small.rawRow_clean

/-- A row of another day, with NaN on hand, passes the gates and is published. -/
theorem misfiled_row_published :
    ∃ t, curate Small.approxQuantile Small.day "manual" [Small.misfiled] = .ok t ∧
      ∃ row ∈ t.rows, row.eventDate = some ⟨2026, 1, 14⟩ ∧ row.onHandQuantity = some .nan ∧
        ¬ SoundRow Small.day row := by
  have gates : (qualityReport Small.day "manual" [Small.misfiled]).passed = true := by decide +kernel
  refine ⟨_, curate_passed gates, _, .head _, rfl, rfl, ?_⟩
  intro sound
  have same := sound.eventDate
  exact absurd same (by decide)

end SupplyChainHub
