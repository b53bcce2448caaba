import SupplyChainHub.Analytics.Synthetic
import SupplyChainHub.Library.Delimited
import SupplyChainHub.Pipelines.Dates
import SupplyChainHub.Pipelines.Publishing

/-!
`pipelines/seed_historical_inventory.py`: a raw file for each date of a range, as `csv.DictWriter` writes it, and what
becomes of the files in the pipeline. What NumPy draws for a seed, and how it rounds, is a parameter; floats are exact.
-/

namespace SupplyChainHub

instance (d e : CalendarDate) : Decidable (d.Before e) := by
  unfold CalendarDate.Before; infer_instance

/-- `_date_range` -/
def dateRange (start last : CalendarDate) : Except Raised (List CalendarDate) :=
  if last.Before start then .error ⟨[], "The end date must not precede the start date."⟩
  else
    .ok ((List.range (last.ordinal - start.ordinal + 1)).map fun offset => Nat.iterate CalendarDate.next offset start)

/-! ### Rows -/

structure HistoryRow where
  eventDate : CalendarDate
  supplierCode : String
  productSku : String
  warehouseCode : String
  onHandQuantity : Int
  reservedQuantity : Int
  inboundQuantity : Int
  forecastQuantity : Int
  actualDemandQuantity : Int

/-- `FIELD_NAMES` -/
def fieldNames : List String :=
  ["event_date", "supplier_code", "product_sku", "warehouse_code", "on_hand_quantity", "reserved_quantity",
    "inbound_quantity", "forecast_quantity", "actual_demand_quantity"]

namespace HistoryRow

def codes (r : HistoryRow) : List String := [r.supplierCode, r.productSku, r.warehouseCode]

def quantities (r : HistoryRow) : List Int :=
  [r.onHandQuantity, r.reservedQuantity, r.inboundQuantity, r.forecastQuantity, r.actualDemandQuantity]

def cells (r : HistoryRow) : List String := r.eventDate.isoformat :: r.codes ++ r.quantities.map Int.repr

end HistoryRow

/-- A field as `QUOTE_MINIMAL` writes it. -/
def quotedField (field : List Char) : List Char :=
  if field.any fun c => c = ',' || c = '"' || c = '\r' || c = '\n' then
    '"' :: field.flatMap (fun c => if c = '"' then [c, c] else [c]) ++ ['"']
  else field

def writeRows (rows : List (List String)) : String :=
  String.ofList (Delimited.write ',' '\r' '\n' (rows.map fun row => row.map fun field => quotedField field.toList))

/-- What `np.random.default_rng` draws here stays in these bounds; 100 is far out on the normal distribution. A rounded
number is a nearest integer. -/
structure RiskDraws.Historical (draws : RiskDraws) : Prop where
  onHand : ∀ seed size index, index < size → 20 ≤ draws.onHand seed size index ∧ draws.onHand seed size index < 900
  reservedShares : ∀ seed size index, index < size →
    0 ≤ draws.reservedShares seed size index ∧ draws.reservedShares seed size index ≤ 2 / 5
  inbound : ∀ seed size index, index < size → draws.inbound seed size index < 250
  demandFactors : ∀ seed size index, index < size →
    7 / 10 ≤ draws.demandFactors seed size index ∧ draws.demandFactors seed size index ≤ 27 / 20
  actualFactors : ∀ seed size index, index < size → |draws.actualFactors seed size index| ≤ 100
  rint : ∀ q, |(draws.rint q : ℚ) - q| ≤ 1 / 2

section
variable (draws : RiskDraws) (partitionDate : CalendarDate) (rowCount : Nat)

/-- `int(partition_date.strftime("%Y%m%d"))` -/
def historySeed : Nat := partitionDate.year * 10000 + partitionDate.month * 100 + partitionDate.day

def historyRow (index : Nat) : HistoryRow :=
  let seed := historySeed partitionDate
  let onHand : Int := draws.onHand seed rowCount index
  let reserved : Int := ⌊(onHand : ℚ) * draws.reservedShares seed rowCount index⌋
  let inbound : Int := draws.inbound seed rowCount index
  let forecast : Int :=
    max 1 (draws.rint (((onHand - reserved + inbound : Int) : ℚ) * draws.demandFactors seed rowCount index))
  { eventDate := partitionDate
    supplierCode := "HISTORY-SUPPLIER-" ++ (index % 3).repr
    productSku := "HISTORY-SKU-" ++ padded 8 index
    warehouseCode := "HISTORY-WH-" ++ padded 2 (index % 20)
    onHandQuantity := onHand
    reservedQuantity := reserved
    inboundQuantity := inbound
    forecastQuantity := forecast
    actualDemandQuantity := max 0 (draws.rint ((forecast : ℚ) * draws.actualFactors seed rowCount index)) }

def brokenRow : HistoryRow where
  eventDate := partitionDate
  supplierCode := "BROKEN-SUPPLIER"
  productSku := ""
  warehouseCode := "HISTORY-WH-00"
  onHandQuantity := -1
  reservedQuantity := 0
  inboundQuantity := 0
  forecastQuantity := 10
  actualDemandQuantity := 10

def historyRows (injectInvalid : Bool) : List HistoryRow :=
  (List.range rowCount).map (historyRow draws partitionDate rowCount) ++
    if injectInvalid then [brokenRow partitionDate] else []

def generateCsv (injectInvalid : Bool) : Except Raised String :=
  if rowCount < 1 then .error rowCountError
  else .ok (writeRows (fieldNames :: (historyRows draws partitionDate rowCount injectInvalid).map HistoryRow.cells))

end

def historyKey (partitionDate : CalendarDate) : String := sourcePrefix partitionDate ++ "inventory.csv"

/-- `main` -/
def seedHistory (draws : RiskDraws) (start last : CalendarDate) (rowCount : Nat) (injectInvalid : Bool)
    (objects : PipelineObjects) : Except Raised PipelineObjects := do
  let dates ← dateRange start last
  dates.foldlM (fun objects partitionDate => do
    let content ← generateCsv draws partitionDate rowCount injectInvalid
    return objects.insert (historyKey partitionDate) (.raw content)) objects

/-! ### What Spark reads -/

def plainChar (c : Char) : Bool := c.isAlphanum || c = '-'

def readDate (cell : List Char) : Option CalendarDate :=
  match cell.splitOn '-' with
  | [year, month, day] =>
    let date : CalendarDate :=
      ⟨Nat.ofDigitChars 10 year 0, Nat.ofDigitChars 10 month 0, Nat.ofDigitChars 10 day 0⟩
    if date.Valid ∧ date.isoformat.toList = cell then some date else none
  | _ => none

/-- An empty cell is null. -/
def readCode (cell : List Char) : Option (Option String) :=
  if cell.all plainChar then some (if cell = [] then none else some (String.ofList cell)) else none

/-- Integers that a double holds. -/
def readQuantity (cell : List Char) : Option Int :=
  let quantity : Int := match cell with
    | '-' :: digits => -Nat.ofDigitChars 10 digits 0
    | digits => Nat.ofDigitChars 10 digits 0
  if quantity.natAbs ≤ 2 ^ 53 ∧ quantity.repr.toList = cell then some quantity else none

def readRecord : List (List Char) → Option RawInventoryRow
  | [date, supplier, product, warehouse, onHand, reserved, inbound, forecast, actual] => do
    return {
      eventDate := some (← readDate date)
      supplierCode := ← readCode supplier
      productSku := ← readCode product
      warehouseCode := ← readCode warehouse
      onHandQuantity := some (.finite (← readQuantity onHand))
      reservedQuantity := some (.finite (← readQuantity reserved))
      inboundQuantity := some (.finite (← readQuantity inbound))
      forecastQuantity := some (.finite (← readQuantity forecast))
      actualDemandQuantity := some (.finite (← readQuantity actual)) }
  | _ => none

/-- The frame of a plain file: no quotes, no blanks, dates and integers as they are usually written. -/
def plainFrame (text : String) : Option (List RawInventoryRow) :=
  match Delimited.read ',' '\r' '\n' text.toList with
  | some (header :: records) =>
    if header = fieldNames.map String.toList then records.mapM readRecord else none
  | _ => none

/-- How Spark reads any other file is left open. -/
def Spark.ReadsPlainFiles (spark : Spark) : Prop :=
  ∀ key text frame, plainFrame text = some frame → spark.readCsv [(key, text)] = .ok frame

/-! ### The days of a range -/

def InRange (start last d : CalendarDate) : Prop := d.Valid ∧ start.ordinal ≤ d.ordinal ∧ d.ordinal ≤ last.ordinal

section
variable {start last d e : CalendarDate}

theorem next_valid (valid : d.Valid) (later : e.Valid) (before : d.Before e) : d.next.Valid := by
  have long (leap : Bool) (month : Nat) : 1 ≤ monthLength leap month := by
    unfold monthLength
    split <;> (try split) <;> omega
  have whole := valid.day.2
  have ends := valid.month.2
  unfold CalendarDate.next
  split
  · rename_i more
    exact ⟨valid.year, valid.month, Nat.le_add_left 1 _, more⟩
  · split
    · rename_i november
      exact ⟨valid.year, ⟨Nat.le_add_left 1 _, november⟩, le_rfl, long _ _⟩
    · have year : d.year < e.year := by
        have month := later.month.2
        have day := later.day.2
        rcases before with earlier | ⟨same, earlier | ⟨sameMonth, earlier⟩⟩
        · exact earlier
        · omega
        · rw [← same, ← sameMonth] at day
          omega
      exact ⟨⟨Nat.le_add_left 1 _, Nat.le_trans year later.year.2⟩, ⟨le_rfl, Nat.le_add_left 1 11⟩, le_rfl, long _ _⟩

theorem iterate_next (starts : start.Valid) (ends : last.Valid) (offset : Nat)
    (within : start.ordinal + offset ≤ last.ordinal) :
    (Nat.iterate CalendarDate.next offset start).Valid ∧
      (Nat.iterate CalendarDate.next offset start).ordinal = start.ordinal + offset := by
  induction offset with
  | zero => exact ⟨starts, rfl⟩
  | succ offset ih =>
    obtain ⟨valid, ordinal⟩ := ih (by omega)
    rw [Function.iterate_succ_apply']
    have before := (ordinal_lt_iff valid ends).mp (by omega)
    exact ⟨next_valid valid ends before, by rw [ordinal_next valid, ordinal]; omega⟩

theorem dateRange_ok (starts : start.Valid) (ends : last.Valid) (ordered : ¬ last.Before start) :
    ∃ dates, dateRange start last = .ok dates ∧ dates.Nodup ∧ ∀ d, d ∈ dates ↔ InRange start last d := by
  have le : start.ordinal ≤ last.ordinal := by
    rw [← ordinal_lt_iff ends starts] at ordered
    omega
  have each (offset : Nat) (inside : offset < last.ordinal - start.ordinal + 1) :=
    iterate_next starts ends offset (by omega)
  refine ⟨_, if_neg ordered, ?_, fun d => ?_⟩
  · refine List.Nodup.map_on ?_ List.nodup_range
    intro x first y second same
    have ordinals := congrArg CalendarDate.ordinal same
    rw [(each x (List.mem_range.mp first)).2, (each y (List.mem_range.mp second)).2] at ordinals
    omega
  · rw [List.mem_map]
    constructor
    · rintro ⟨offset, listed, rfl⟩
      have inside := List.mem_range.mp listed
      obtain ⟨valid, ordinal⟩ := each offset inside
      exact ⟨valid, by omega, by omega⟩
    · rintro ⟨valid, after, before⟩
      refine ⟨d.ordinal - start.ordinal, List.mem_range.mpr (by omega), ?_⟩
      obtain ⟨reached, ordinal⟩ := each (d.ordinal - start.ordinal) (by omega)
      exact ordinal_inj reached valid (by omega)

theorem isoformat_inj (first : d.Valid) (second : e.Valid) (same : d.isoformat = e.isoformat) : d = e := by
  rcases before_cases d e with before | equal | after
  · have less := isoformat_lt first second before
    rw [same] at less
    exact absurd less (lt_irrefl _)
  · exact equal
  · have less := isoformat_lt second first after
    rw [same] at less
    exact absurd less (lt_irrefl _)

end

/-! ### A file, written and read -/

def codeCell (code : String) : Option String := if code = "" then none else some code

def HistoryRow.read (r : HistoryRow) : RawInventoryRow where
  eventDate := some r.eventDate
  supplierCode := codeCell r.supplierCode
  productSku := codeCell r.productSku
  warehouseCode := codeCell r.warehouseCode
  onHandQuantity := some (.finite r.onHandQuantity)
  reservedQuantity := some (.finite r.reservedQuantity)
  inboundQuantity := some (.finite r.inboundQuantity)
  forecastQuantity := some (.finite r.forecastQuantity)
  actualDemandQuantity := some (.finite r.actualDemandQuantity)

structure HistoryRow.Plain (r : HistoryRow) : Prop where
  dated : r.eventDate.Valid
  codes : ∀ code ∈ r.codes, code.toList.all plainChar = true
  quantities : ∀ quantity ∈ r.quantities, quantity.natAbs ≤ 2 ^ 53

section
variable {d : CalendarDate} {quantity : Int} {n width : Nat} {a b code : String} {r : HistoryRow}
  {rows : List HistoryRow}

theorem digit_plain {c : Char} (digit : c.isDigit = true) : plainChar c = true := by
  rw [plainChar, Char.isAlphanum, digit, Bool.or_true, Bool.true_or]

theorem isoformat_plain (valid : d.Valid) : d.isoformat.toList.all plainChar = true := by
  rw [isoformat_toList valid, List.all_eq_true]
  intro c member
  rw [List.mem_append, List.mem_cons, List.mem_append, List.mem_cons] at member
  rcases member with year | rfl | month | rfl | day
  · exact digit_plain (Numerals.digits_isDigit year)
  · rfl
  · exact digit_plain (Numerals.digits_isDigit month)
  · rfl
  · exact digit_plain (Numerals.digits_isDigit day)

theorem readDate_isoformat (valid : d.Valid) : readDate d.isoformat.toList = some d := by
  have parts : d.isoformat.toList =
      ['-'].intercalate [Numerals.digits 4 d.year, Numerals.digits 2 d.month, Numerals.digits 2 d.day] := by
    rw [isoformat_toList valid]
    simp [List.intercalate]
  have year := valid.year.2
  have month := valid.month.2
  have day := day_le valid
  have undashed : ∀ text ∈ [Numerals.digits 4 d.year, Numerals.digits 2 d.month, Numerals.digits 2 d.day],
      '-' ∉ text := by
    intro text listed inside
    simp only [List.mem_cons, List.not_mem_nil, or_false] at listed
    rcases listed with rfl | rfl | rfl <;> exact absurd (Numerals.digits_isDigit inside) (by decide)
  have split : d.isoformat.toList.splitOn '-' =
      [Numerals.digits 4 d.year, Numerals.digits 2 d.month, Numerals.digits 2 d.day] := by
    rw [parts]
    exact List.splitOn_intercalate '-' undashed (List.cons_ne_nil _ _)
  unfold readDate
  rw [split]
  dsimp only
  rw [Numerals.ofDigitChars_digits (by decide) (Nat.lt_of_le_of_lt year (by decide)),
    Numerals.ofDigitChars_digits (by decide) (Nat.lt_of_le_of_lt month (by decide)),
    Numerals.ofDigitChars_digits (by decide) (Nat.lt_of_le_of_lt day (by decide))]
  exact if_pos ⟨valid, rfl⟩

theorem repr_digits {c : Char} (member : c ∈ Nat.toDigits 10 n) : c.isDigit = true :=
  Nat.isDigit_of_mem_toDigits (by decide) (by decide) member

theorem append_plain (first : a.toList.all plainChar = true) (second : b.toList.all plainChar = true) :
    (a ++ b).toList.all plainChar = true := by
  rw [String.toList_append, List.all_append, first, second]
  rfl

theorem repr_plain : n.repr.toList.all plainChar = true := by
  rw [List.all_eq_true, Nat.toList_repr]
  exact fun c member => digit_plain (repr_digits member)

theorem padded_plain : (padded width n).toList.all plainChar = true := by
  have zeros : (String.ofList (List.replicate (width - n.repr.length) '0')).toList.all plainChar = true := by
    rw [String.toList_ofList, List.all_eq_true]
    intro c member
    rw [List.eq_of_mem_replicate member]
    rfl
  exact append_plain zeros repr_plain

theorem int_repr_plain (quantity : Int) : quantity.repr.toList.all plainChar = true := by
  cases quantity with
  | ofNat n => exact repr_plain
  | negSucc n => exact append_plain (by decide) repr_plain

theorem readQuantity_repr (held : quantity.natAbs ≤ 2 ^ 53) : readQuantity quantity.repr.toList = some quantity := by
  unfold readQuantity
  cases quantity with
  | ofNat n =>
    have text : (Int.ofNat n).repr.toList = Nat.toDigits 10 n := by rw [Int.repr, Nat.toList_repr]
    have unsigned : ∀ digits, Nat.toDigits 10 n ≠ '-' :: digits := by
      intro digits same
      exact absurd (repr_digits (same ▸ List.mem_cons_self)) (by decide)
    rw [text]
    dsimp only
    split
    · rename_i digits same
      exact absurd same (unsigned digits)
    · rw [Nat.ofDigitChars_ten_toDigits]
      exact if_pos ⟨held, text⟩
  | negSucc n =>
    have text : (Int.negSucc n).repr.toList = '-' :: Nat.toDigits 10 (n + 1) := by
      rw [Int.repr, String.toList_append, Nat.toList_repr]
      rfl
    rw [text]
    dsimp only
    split
    · rename_i digits same
      obtain ⟨-, rfl⟩ := List.cons.inj same
      rw [Nat.ofDigitChars_ten_toDigits]
      exact if_pos ⟨held, text⟩
    · rename_i unsigned
      exact absurd rfl (unsigned _)

theorem readCode_plain (plain : code.toList.all plainChar = true) : readCode code.toList = some (codeCell code) := by
  unfold readCode codeCell
  rw [if_pos plain, String.ofList_toList]
  congr 1
  by_cases empty : code = ""
  · subst empty
    rfl
  · have filled : code.toList ≠ [] := fun none => empty (String.toList_eq_nil_iff.mp none)
    rw [if_neg filled, if_neg empty]

theorem readRecord_cells (plain : r.Plain) : readRecord (r.cells.map String.toList) = some r.read := by
  obtain ⟨dated, codes, quantities⟩ := plain
  simp only [HistoryRow.codes, List.forall_mem_cons] at codes
  simp only [HistoryRow.quantities, List.forall_mem_cons] at quantities
  obtain ⟨supplier, product, warehouse, -⟩ := codes
  obtain ⟨onHand, reserved, inbound, forecast, actual, -⟩ := quantities
  simp only [HistoryRow.cells, HistoryRow.codes, HistoryRow.quantities, List.map_cons, List.map_nil, List.cons_append,
    List.nil_append, readRecord, readDate_isoformat dated, readCode_plain supplier, readCode_plain product,
    readCode_plain warehouse, readQuantity_repr onHand, readQuantity_repr reserved, readQuantity_repr inbound,
    readQuantity_repr forecast, readQuantity_repr actual]
  rfl

theorem cell_plain (plain : r.Plain) {cell : String} (member : cell ∈ r.cells) : cell.toList.all plainChar = true := by
  rw [HistoryRow.cells, List.cons_append, List.mem_cons, List.mem_append, List.mem_map] at member
  rcases member with rfl | code | ⟨quantity, -, rfl⟩
  · exact isoformat_plain plain.dated
  · exact plain.codes cell code
  · exact int_repr_plain quantity

/-- Nothing plain is quoted. -/
theorem quotedField_plain {field : List Char} (plain : field.all plainChar = true) : quotedField field = field := by
  refine if_neg fun special => ?_
  obtain ⟨c, member, which⟩ := List.any_eq_true.mp special
  have ordinary := List.all_eq_true.mp plain c member
  simp only [Bool.or_eq_true, decide_eq_true_eq] at which
  rcases which with ((rfl | rfl) | rfl) | rfl <;> exact absurd ordinary (by decide)

theorem plainFrame_written (plain : ∀ r ∈ rows, r.Plain) :
    plainFrame (writeRows (fieldNames :: rows.map HistoryRow.cells)) = some (rows.map HistoryRow.read) := by
  have header : fieldNames.map (fun field => quotedField field.toList) = fieldNames.map String.toList := by decide
  have unquoted : ∀ r ∈ rows,
      r.cells.map (fun field => quotedField field.toList) = r.cells.map String.toList :=
    fun r member => List.map_congr_left fun cell listed => quotedField_plain (cell_plain (plain r member) listed)
  have lines : (fieldNames :: rows.map HistoryRow.cells).map
      (fun row => row.map fun field => quotedField field.toList) =
      fieldNames.map String.toList :: rows.map fun r => r.cells.map String.toList := by
    rw [List.map_cons, header, List.map_map]
    exact congrArg _ (List.map_congr_left unquoted)
  have separate : ∀ cells ∈ fieldNames.map String.toList :: rows.map (fun r => r.cells.map String.toList),
      cells ≠ [] ∧ ∀ cell ∈ cells, ',' ∉ cell ∧ '\n' ∉ cell := by
    intro cells listed
    rcases List.mem_cons.mp listed with rfl | record
    · decide
    · obtain ⟨r, member, rfl⟩ := List.mem_map.mp record
      refine ⟨List.cons_ne_nil _ _, fun cell written => ?_⟩
      obtain ⟨text, here, rfl⟩ := List.mem_map.mp written
      have ordinary := List.all_eq_true.mp (cell_plain (plain r member) here)
      exact ⟨fun comma => absurd (ordinary _ comma) (by decide), fun feed => absurd (ordinary _ feed) (by decide)⟩
  unfold plainFrame writeRows
  rw [String.toList_ofList, lines, Delimited.read_write (by decide) separate]
  dsimp only
  rw [if_pos rfl]
  clear lines separate unquoted header
  induction rows with
  | nil => rfl
  | cons r rest ih =>
    obtain ⟨first, others⟩ := List.forall_mem_cons.mp plain
    rw [List.map_cons, List.mapM_cons, readRecord_cells first, ih others]
    rfl

end

/-! ### The rows of a day -/

section
variable {draws : RiskDraws} {d : CalendarDate} {rowCount index n m width : Nat} {a b runId : String} {r : HistoryRow}
  {rows : List HistoryRow} {injectInvalid : Bool}

theorem rint_le_of_le (drawn : draws.Historical) {q : ℚ} (bound : Int) (le : q ≤ bound) :
    draws.rint q ≤ bound + 1 := by
  have near := (abs_le.mp (drawn.rint q)).2
  have above : (draws.rint q : ℚ) ≤ ((bound + 1 : Int) : ℚ) := by
    push_cast
    linarith
  exact_mod_cast above

theorem historyRow_bounds (drawn : draws.Historical) (inside : index < rowCount) :
    ∀ quantity ∈ (historyRow draws d rowCount index).quantities, 0 ≤ quantity ∧ quantity ≤ 2 ^ 53 := by
  let seed := historySeed d
  obtain ⟨onHandLeast, onHandMost⟩ := drawn.onHand seed rowCount index inside
  obtain ⟨shareLeast, shareMost⟩ := drawn.reservedShares seed rowCount index inside
  have inboundMost := drawn.inbound seed rowCount index inside
  obtain ⟨factorLeast, factorMost⟩ := drawn.demandFactors seed rowCount index inside
  obtain ⟨-, actualMost⟩ := abs_le.mp (drawn.actualFactors seed rowCount index inside)
  let onHand : Int := draws.onHand seed rowCount index
  let reserved : Int := ⌊(onHand : ℚ) * draws.reservedShares seed rowCount index⌋
  let inbound : Int := draws.inbound seed rowCount index
  let forecast : Int :=
    max 1 (draws.rint (((onHand - reserved + inbound : Int) : ℚ) * draws.demandFactors seed rowCount index))
  have onHandRange : 20 ≤ onHand ∧ onHand < 900 := ⟨Int.ofNat_le.mpr onHandLeast, Int.ofNat_lt.mpr onHandMost⟩
  have inboundRange : 0 ≤ inbound ∧ inbound < 250 := ⟨Int.natCast_nonneg _, Int.ofNat_lt.mpr inboundMost⟩
  have onHandPositive : (0 : ℚ) ≤ onHand := Int.cast_nonneg (by omega)
  have reservedRange : 0 ≤ reserved ∧ reserved ≤ onHand := by
    refine ⟨Int.floor_nonneg.mpr (mul_nonneg onHandPositive shareLeast), ?_⟩
    refine Int.cast_le.mp ((Int.floor_le _).trans (mul_le_of_le_one_right onHandPositive (shareMost.trans ?_)))
    norm_num
  have forecastRange : 1 ≤ forecast ∧ forecast ≤ 1554 := by
    refine ⟨le_max_left _ _, max_le (by decide) ?_⟩
    refine (rint_le_of_le drawn 1553 ?_).trans (by decide)
    have stock : ((onHand - reserved + inbound : Int) : ℚ) ≤ 1150 := by
      have within : onHand - reserved + inbound ≤ 1150 := by omega
      exact_mod_cast within
    have least : (0 : ℚ) ≤ ((onHand - reserved + inbound : Int) : ℚ) := Int.cast_nonneg (by omega)
    calc ((onHand - reserved + inbound : Int) : ℚ) * draws.demandFactors seed rowCount index
        ≤ 1150 * (27 / 20) := mul_le_mul stock factorMost (le_trans (by norm_num) factorLeast) (by norm_num)
      _ ≤ ((1553 : Int) : ℚ) := by norm_num
  have actualRange : draws.rint ((forecast : ℚ) * draws.actualFactors seed rowCount index) ≤ 155401 := by
    refine (rint_le_of_le drawn 155400 ?_).trans (by decide)
    have positive : (0 : ℚ) ≤ forecast := Int.cast_nonneg (by omega)
    have most : (forecast : ℚ) ≤ 1554 := by exact_mod_cast forecastRange.2
    calc (forecast : ℚ) * draws.actualFactors seed rowCount index
        ≤ forecast * 100 := mul_le_mul_of_nonneg_left actualMost positive
      _ ≤ 1554 * 100 := mul_le_mul_of_nonneg_right most (by norm_num)
      _ ≤ ((155400 : Int) : ℚ) := by norm_num
  have listed : (historyRow draws d rowCount index).quantities = [onHand, reserved, inbound, forecast,
      max 0 (draws.rint ((forecast : ℚ) * draws.actualFactors seed rowCount index))] := rfl
  rw [listed]
  simp only [List.forall_mem_cons]
  have limit : (155401 : Int) ≤ 2 ^ 53 := by norm_num
  refine ⟨?_, ?_, ?_, ?_, ⟨le_max_left _ _, ?_⟩, List.forall_mem_nil _⟩ <;> omega

theorem padded_inj (same : padded width n = padded width m) : n = m := by
  have value (k : Nat) : Nat.ofDigitChars 10 (padded width k).toList 0 = k := by
    rw [padded, String.toList_append, String.toList_ofList, Nat.toList_repr, Nat.ofDigitChars_append,
      Nat.ofDigitChars_replicate_zero, Nat.mul_zero, Nat.ofDigitChars_ten_toDigits]
  rw [← value n, same, value]

theorem historyRow_plain (drawn : draws.Historical) (dated : d.Valid) (inside : index < rowCount) :
    (historyRow draws d rowCount index).Plain := by
  refine ⟨dated, ?_, fun quantity member => ?_⟩
  · simp only [HistoryRow.codes, List.forall_mem_cons]
    exact ⟨append_plain (by decide) repr_plain, append_plain (by decide) padded_plain,
      append_plain (by decide) padded_plain, List.forall_mem_nil _⟩
  · obtain ⟨least, most⟩ := historyRow_bounds drawn inside quantity member
    omega

theorem brokenRow_plain (dated : d.Valid) : (brokenRow d).Plain := by
  refine ⟨dated, ?_, ?_⟩
  · show ∀ code ∈ ["BROKEN-SUPPLIER", "", "HISTORY-WH-00"], code.toList.all plainChar = true
    decide
  · show ∀ quantity ∈ ([-1, 0, 0, 10, 10] : List Int), quantity.natAbs ≤ 2 ^ 53
    simp

theorem historyRows_plain (drawn : draws.Historical) (dated : d.Valid) :
    ∀ r ∈ historyRows draws d rowCount injectInvalid, r.Plain := by
  intro r member
  rcases List.mem_append.mp member with drawnRow | broken
  · obtain ⟨index, inside, rfl⟩ := List.mem_map.mp drawnRow
    exact historyRow_plain drawn dated (List.mem_range.mp inside)
  · cases injectInvalid with
    | false => cases broken
    | true => exact List.mem_singleton.mp broken ▸ brokenRow_plain dated

/-! ### What the gates find -/

/-- Texts that are not blank, quantities that are not negative. -/
structure HistoryRow.Good (r : HistoryRow) : Prop where
  codes : ∀ code ∈ r.codes, isBlank code = false
  quantities : ∀ quantity ∈ r.quantities, 0 ≤ quantity

theorem append_filled (filled : isBlank a = false) : isBlank (a ++ b) = false := by
  unfold isBlank at filled ⊢
  rw [String.toList_append, List.all_append, filled, Bool.false_and]

theorem trimsToEmpty_filled (filled : isBlank a = false) : trimsToEmpty a = false := by
  rw [← Bool.not_eq_true, isBlank, List.all_eq_true] at filled
  rw [← Bool.not_eq_true, trimsToEmpty, List.all_eq_true]
  intro blanks
  refine filled fun c member => ?_
  obtain rfl := of_decide_eq_true (blanks c member)
  decide

theorem historyRow_good (drawn : draws.Historical) (inside : index < rowCount) :
    (historyRow draws d rowCount index).Good := by
  refine ⟨?_, fun quantity member => (historyRow_bounds drawn inside quantity member).1⟩
  simp only [HistoryRow.codes, List.forall_mem_cons]
  exact ⟨append_filled (by decide), append_filled (by decide), append_filled (by decide), List.forall_mem_nil _⟩

theorem codeCell_filled (filled : isBlank a = false) : codeCell a = some a := by
  refine if_neg ?_
  rintro rfl
  cases filled

theorem nonnegative_double {quantity : Int} (least : 0 ≤ quantity) :
    (Double.finite quantity).lt (.finite 0) = false := by
  have cast : (0 : ℚ) ≤ quantity := Int.cast_nonneg least
  exact decide_eq_false (not_lt.mpr cast)

theorem good_valid (good : r.Good) : r.read ∉ invalidRows (rows.map HistoryRow.read) := by
  obtain ⟨codes, quantities⟩ := good
  simp only [HistoryRow.codes, List.forall_mem_cons] at codes
  simp only [HistoryRow.quantities, List.forall_mem_cons] at quantities
  obtain ⟨supplier, product, warehouse, -⟩ := codes
  obtain ⟨onHand, reserved, inbound, forecast, actual, -⟩ := quantities
  simp [invalidRows, HistoryRow.read, RawInventoryRow.codes, RawInventoryRow.quantities, codeCell_filled supplier,
    codeCell_filled product, codeCell_filled warehouse, trimsToEmpty_filled supplier, trimsToEmpty_filled product,
    trimsToEmpty_filled warehouse, nonnegative_double onHand, nonnegative_double reserved, nonnegative_double inbound,
    nonnegative_double forecast, nonnegative_double actual]

theorem invalidRows_historyRows (drawn : draws.Historical) :
    invalidRows ((historyRows draws d rowCount injectInvalid).map HistoryRow.read) =
      if injectInvalid then [(brokenRow d).read] else [] := by
  have good : invalidRows (((List.range rowCount).map (historyRow draws d rowCount)).map HistoryRow.read) = [] := by
    refine List.eq_nil_iff_forall_not_mem.mpr fun row member => ?_
    obtain ⟨r, drawnRow, rfl⟩ := List.mem_map.mp (List.mem_of_mem_filter member)
    obtain ⟨index, inside, rfl⟩ := List.mem_map.mp drawnRow
    exact good_valid (historyRow_good drawn (List.mem_range.mp inside)) member
  have broken : invalidRows [(brokenRow d).read] = [(brokenRow d).read] := by
    simp [invalidRows, brokenRow, HistoryRow.read, RawInventoryRow.codes, codeCell]
  cases injectInvalid with
  | false =>
    rw [historyRows, if_neg Bool.false_ne_true, List.append_nil, good]
    rfl
  | true =>
    rw [historyRows, if_pos rfl, List.map_append, invalidRows, List.filter_append, ← invalidRows, good]
    exact broken

theorem historyRows_keys : (((historyRows draws d rowCount injectInvalid).map HistoryRow.read).map
    RawInventoryRow.key).Nodup := by
  have sku (index : Nat) : (historyRow draws d rowCount index).read.productSku =
      some ("HISTORY-SKU-" ++ padded 8 index) := by
    have filled : isBlank ("HISTORY-SKU-" ++ padded 8 index) = false := append_filled (by decide)
    exact codeCell_filled filled
  have drawnKeys : ((((List.range rowCount).map (historyRow draws d rowCount)).map HistoryRow.read).map
      RawInventoryRow.key).Nodup := by
    rw [List.map_map, List.map_map]
    refine List.Nodup.map (fun n m same => ?_) List.nodup_range
    have skus : (historyRow draws d rowCount n).read.productSku = (historyRow draws d rowCount m).read.productSku :=
      congrArg (fun key => key.2.2.1) same
    rw [sku, sku, Option.some_inj, String.append_right_inj] at skus
    exact padded_inj skus
  unfold historyRows
  rw [List.map_append, List.map_append]
  refine List.nodup_append.mpr ⟨drawnKeys, ?_, ?_⟩
  · cases injectInvalid with
    | false => exact List.nodup_nil
    | true => exact List.nodup_singleton _
  · rintro key drawnKey other broken rfl
    obtain ⟨_, listed, rfl⟩ := List.mem_map.mp drawnKey
    obtain ⟨_, here, rfl⟩ := List.mem_map.mp listed
    obtain ⟨index, -, rfl⟩ := List.mem_map.mp here
    cases injectInvalid with
    | false => cases broken
    | true =>
      have null : some ("HISTORY-SKU-" ++ padded 8 index) = none :=
        (sku index).symm.trans (congrArg (fun key => key.2.2.1) (List.mem_singleton.mp broken))
      cases null

theorem duplicateRows_distinct {frame : List RawInventoryRow} (distinct : (frame.map RawInventoryRow.key).Nodup) :
    duplicateRows frame = [] := by
  refine List.eq_nil_iff_forall_not_mem.mpr fun key member => ?_
  have often := of_decide_eq_true (List.mem_filter.mp member).2
  have once := List.nodup_iff_count_le_one.mp distinct key
  omega

theorem qualityReport_historyRows (drawn : draws.Historical) :
    qualityReport d runId ((historyRows draws d rowCount injectInvalid).map HistoryRow.read) =
      ⟨d, runId, rowCount + injectInvalid.toNat, injectInvalid.toNat, 0, !injectInvalid⟩ := by
  unfold qualityReport
  rw [invalidRows_historyRows drawn, duplicateRows_distinct historyRows_keys]
  cases injectInvalid <;> simp [historyRows]

theorem good_clean (good : r.Good) : Clean r.eventDate r.read := by
  refine ⟨rfl, fun text listed => ?_, fun x listed => ?_⟩
  · have each : r.read.codes = r.codes.map some := by
      obtain ⟨codes, -⟩ := good
      simp only [HistoryRow.codes, List.forall_mem_cons] at codes
      obtain ⟨supplier, product, warehouse, -⟩ := codes
      simp only [RawInventoryRow.codes, HistoryRow.read, HistoryRow.codes, codeCell_filled supplier,
        codeCell_filled product, codeCell_filled warehouse, List.map_cons, List.map_nil]
    rw [each] at listed
    obtain ⟨code, member, same⟩ := List.mem_map.mp listed
    exact Option.some.inj same ▸ good.codes code member
  · have each : r.read.quantities = r.quantities.map fun quantity => some (.finite quantity) := rfl
    rw [each] at listed
    obtain ⟨quantity, -, same⟩ := List.mem_map.mp listed
    exact ⟨quantity, (Option.some.inj same).symm⟩

end

/-! ### The partition of a day -/

section
variable {draws : RiskDraws} {start last d e : CalendarDate} {rowCount : Nat} {injectInvalid : Bool}
  {objects seeded : PipelineObjects} {spark : Spark} {content : String}

theorem foldlM_puts {generate : CalendarDate → Except Raised String} {text : CalendarDate → String}
    {dates : List CalendarDate} (generated : ∀ d, generate d = .ok (text d)) :
    (dates.foldlM (fun objects d => do
      let content ← generate d
      return objects.insert (historyKey d) (.raw content)) objects : Except Raised PipelineObjects) =
      .ok (Bucket.puts objects (dates.map fun d => (historyKey d, .raw (text d)))) := by
  induction dates generalizing objects with
  | nil => rfl
  | cons d rest ih =>
    rw [List.foldlM_cons, generated]
    exact ih

theorem historyKey_day (first : d.Valid) (second : e.Valid)
    (under : (sourcePrefix d).toList <+: (historyKey e).toList) : d = e := by
  obtain ⟨rest, same⟩ := under
  unfold historyKey sourcePrefix at same
  simp only [String.toList_append, List.append_assoc, List.append_cancel_left_eq] at same
  have dates := (List.append_inj same (by rw [isoformat_length first, isoformat_length second])).1
  exact isoformat_inj first second (String.toList_inj.mp dates)

theorem historyKey_inj (first : d.Valid) (second : e.Valid) (same : historyKey d = historyKey e) : d = e := by
  refine historyKey_day first second ?_
  rw [← same, historyKey, String.toList_append]
  exact List.prefix_append _ _

/-- Where a day has only its seeded file, that is what the pipeline reads. -/
theorem receive_seeded {frame : List RawInventoryRow} (reads : spark.ReadsPlainFiles)
    (there : seeded.lookup (historyKey d) = some (.raw content)) (frames : plainFrame content = some frame)
    (alone : ∀ key ∈ seeded, (sourcePrefix d).toList <+: key.toList → key = historyKey d) :
    receive spark d seeded = .ok ([historyKey d], frame) := by
  have present : historyKey d ∈ seeded := AList.lookup_isSome.mp (there ▸ rfl)
  have begins : (sourcePrefix d).toList <+: (historyKey d).toList := by
    rw [historyKey, String.toList_append]
    exact List.prefix_append _ _
  have sorted := listKeys_sorted seeded (sourcePrefix d)
  have only : ∀ key ∈ listKeys seeded (sourcePrefix d), key = historyKey d := by
    intro key member
    obtain ⟨stored, under⟩ := mem_listKeys.mp member
    exact alone key stored under
  have some := mem_listKeys.mpr ⟨present, begins⟩
  have keys : listKeys seeded (sourcePrefix d) = [historyKey d] := by
    generalize listKeys seeded (sourcePrefix d) = keys at sorted only some
    cases keys with
    | nil => cases some
    | cons first rest =>
      obtain ⟨rfl, others⟩ := List.forall_mem_cons.mp only
      cases rest with
      | nil => rfl
      | cons second rest =>
        have less := (List.pairwise_cons.mp sorted).1 second List.mem_cons_self
        rw [others second List.mem_cons_self] at less
        exact absurd less (lt_irrefl _)
  have files : downloadPrefix seeded (sourcePrefix d) = [(historyKey d, content)] := by
    rw [downloadPrefix, keys, List.filterMap_cons, there]
    rfl
  unfold receive checkSource
  rw [keys, files]
  show (do
    let frame ← spark.readCsv [(historyKey d, content)]
    return ([historyKey d], frame)) = _
  rw [reads (historyKey d) content frame frames]
  rfl

/-- The files of days, as they are put. -/
def dayFiles (text : CalendarDate → String) (dates : List CalendarDate) : List (String × PipelineObject) :=
  dates.map fun d => (historyKey d, .raw (text d))

theorem dayFiles_keys {text : CalendarDate → String} {dates : List CalendarDate} :
    (dayFiles text dates).map Prod.fst = dates.map historyKey := by
  simp [dayFiles]

theorem lookup_dayFiles {text : CalendarDate → String} {dates : List CalendarDate} (valid : ∀ e ∈ dates, e.Valid)
    (distinct : dates.Nodup) (listed : d ∈ dates) :
    (Bucket.puts objects (dayFiles text dates)).lookup (historyKey d) = some (.raw (text d)) := by
  obtain ⟨before, later, rfl⟩ := List.append_of_mem listed
  have once : d ∉ later := (List.nodup_cons.mp (List.nodup_append.mp distinct).2.1).1
  have parts : dayFiles text (before ++ d :: later) =
      dayFiles text before ++ (historyKey d, .raw (text d)) :: dayFiles text later := by
    simp [dayFiles]
  rw [parts]
  refine Bucket.lookup_puts_last _ fun member => ?_
  rw [dayFiles_keys] at member
  obtain ⟨e, written, same⟩ := List.mem_map.mp member
  have dated : e.Valid := valid e (List.mem_append_right _ (List.mem_cons_of_mem _ written))
  exact once (historyKey_inj dated (valid d listed) same ▸ written)

theorem dayFiles_alone {text : CalendarDate → String} {dates : List CalendarDate} (valid : ∀ e ∈ dates, e.Valid)
    (dated : d.Valid) (alone : ∀ key ∈ objects, (sourcePrefix d).toList <+: key.toList → key = historyKey d) :
    ∀ key ∈ Bucket.puts objects (dayFiles text dates), (sourcePrefix d).toList <+: key.toList →
      key = historyKey d := by
  intro key stored under
  rcases Bucket.mem_puts.mp stored with old | new
  · exact alone key old under
  · rw [dayFiles_keys] at new
    obtain ⟨e, listed, rfl⟩ := List.mem_map.mp new
    rw [historyKey_day dated (valid e listed) under]

/-- The invalid row is one too many for the gates. -/
theorem curate_broken {runId : String} (drawn : draws.Historical) :
    curate spark.approxQuantile d runId ((historyRows draws d rowCount true).map HistoryRow.read) =
      .error ⟨[], "Data-quality gates failed: 1 invalid rows and 0 duplicate keys."⟩ := by
  have report : qualityReport d runId ((historyRows draws d rowCount true).map HistoryRow.read) = _ :=
    qualityReport_historyRows drawn
  have message : "Data-quality gates failed: " ++ true.toNat.repr ++ " invalid rows and " ++ Nat.repr 0 ++
      " duplicate keys." = "Data-quality gates failed: 1 invalid rows and 0 duplicate keys." := by decide
  unfold curate
  rw [report, ← message]
  rfl

theorem historyRows_sound (drawn : draws.Historical) {frame : List RawInventoryRow}
    (read : frame = (historyRows draws d rowCount false).map HistoryRow.read) :
    ∀ row ∈ (transform spark.approxQuantile frame).rows, SoundRow d row := by
  subst read
  intro row member
  obtain ⟨raw, listed, rfl⟩ := List.mem_map.mp member
  obtain ⟨r, drawnRow, rfl⟩ := List.mem_map.mp listed
  have good : r.Good ∧ r.eventDate = d := by
    rw [historyRows, if_neg Bool.false_ne_true, List.append_nil] at drawnRow
    obtain ⟨index, below, rfl⟩ := List.mem_map.mp drawnRow
    exact ⟨historyRow_good drawn (List.mem_range.mp below), rfl⟩
  have gate : invalidRows ((historyRows draws d rowCount false).map HistoryRow.read) = [] :=
    invalidRows_historyRows drawn
  exact sound_of_clean gate listed (good.2 ▸ good_clean good.1) rfl rfl rfl rfl

/-- Seeding writes the generated file of each day of the range, and nothing else. An execution of such a day that has no
other file receives its rows as they were drawn and publishes them all, soundly; with the invalid row it fails, leaves
its report and nothing else. -/
theorem seeded_days_pass_iff (reads : spark.ReadsPlainFiles) (drawn : draws.Historical) (starts : start.Valid)
    (ends : last.Valid) (ordered : ¬ last.Before start) (rows : 0 < rowCount) :
    ∃ seeded, seedHistory draws start last rowCount injectInvalid objects = .ok seeded ∧
      (∀ key, (∀ d, InRange start last d → key ≠ historyKey d) → seeded.lookup key = objects.lookup key) ∧
      ∀ d, InRange start last d →
        (∃ text, generateCsv draws d rowCount injectInvalid = .ok text ∧
          seeded.lookup (historyKey d) = some (.raw text)) ∧
        ((∀ key ∈ objects, (sourcePrefix d).toList <+: key.toList → key = historyKey d) →
          ∃ frame, frame = (historyRows draws d rowCount injectInvalid).map HistoryRow.read ∧
            receive spark d seeded = .ok ([historyKey d], frame) ∧ ∀ runId output,
            (injectInvalid = true → runPipeline spark d runId output seeded =
              ⟨[(qualityKey d runId, .quality ⟨d, runId, rowCount + 1, 1, 0, false⟩)],
                .error ⟨[], "Data-quality gates failed: 1 invalid rows and 0 duplicate keys."⟩⟩) ∧
            (injectInvalid = false → frame.length = rowCount ∧
              (runPipeline spark d runId output seeded).outcome =
                .ok (runManifest d runId output [historyKey d] frame (transform spark.approxQuantile frame)) ∧
              ∀ row ∈ (transform spark.approxQuantile frame).rows, SoundRow d row)) := by
  obtain ⟨dates, ranged, distinct, within⟩ := dateRange_ok starts ends ordered
  let text (d : CalendarDate) : String :=
    writeRows (fieldNames :: (historyRows draws d rowCount injectInvalid).map HistoryRow.cells)
  have generated (d : CalendarDate) : generateCsv draws d rowCount injectInvalid = .ok (text d) :=
    if_neg (by omega)
  have valid : ∀ e ∈ dates, e.Valid := fun e listed => ((within e).mp listed).1
  have seeds : seedHistory draws start last rowCount injectInvalid objects =
      .ok (Bucket.puts objects (dayFiles text dates)) := by
    unfold seedHistory
    rw [ranged]
    exact foldlM_puts generated
  refine ⟨_, seeds, fun key other => ?_, fun d inside => ?_⟩
  · refine Bucket.lookup_puts_other fun member => ?_
    rw [dayFiles_keys] at member
    obtain ⟨d, listed, same⟩ := List.mem_map.mp member
    exact other d ((within d).mp listed) same.symm
  · have there := @lookup_dayFiles d objects text dates valid distinct ((within d).mpr inside)
    refine ⟨⟨text d, generated d, there⟩, fun alone => ?_⟩
    have received := receive_seeded reads there (plainFrame_written (historyRows_plain drawn inside.1))
      (dayFiles_alone valid inside.1 alone)
    refine ⟨_, rfl, received, fun runId output => ?_⟩
    have report : qualityReport d runId ((historyRows draws d rowCount injectInvalid).map HistoryRow.read) = _ :=
      qualityReport_historyRows drawn
    unfold runPipeline
    rw [received]
    dsimp only
    constructor
    · rintro rfl
      rw [curate_broken drawn, report]
      rfl
    · rintro rfl
      have passed :
          (qualityReport d runId ((historyRows draws d rowCount false).map HistoryRow.read)).passed = true := by
        rw [report]
        rfl
      rw [curate_passed passed]
      refine ⟨?_, rfl, historyRows_sound drawn rfl⟩
      simp [historyRows]

end

namespace Small

/-- Spark, as far as plain files go. -/
def plainSpark : Spark where
  readCsv files := .ok (files.flatMap fun file => (plainFrame file.2).getD [])
  approxQuantile

theorem plainSpark_reads : plainSpark.ReadsPlainFiles := by
  intro key text frame plain
  show Except.ok ([(key, text)].flatMap fun file => (plainFrame file.2).getD []) = .ok frame
  rw [List.flatMap_singleton, plain, Option.getD_some]

def steadyDraws : RiskDraws where
  onHand _ _ _ := 100
  reservedShares _ _ _ := 1 / 5
  inbound _ _ _ := 30
  demandFactors _ _ _ := 1
  actualFactors _ _ _ := 11 / 10
  rint

theorem steadyDraws_historical : steadyDraws.Historical where
  onHand _ _ _ _ := ⟨show 20 ≤ 100 by decide, show 100 < 900 by decide⟩
  reservedShares _ _ _ _ := by norm_num [steadyDraws]
  inbound _ _ _ _ := show 30 < 250 by decide
  demandFactors _ _ _ _ := by norm_num [steadyDraws]
  actualFactors _ _ _ _ := by norm_num [steadyDraws, abs_le]
  rint := rint_near

end Small

theorem seeded_days_pass_iff_week : ∃ seeded,
    seedHistory Small.steadyDraws ⟨2026, 2, 26⟩ ⟨2026, 3, 4⟩ 3 false ∅ = .ok seeded ∧
      ∃ m, (runPipeline Small.plainSpark ⟨2026, 3, 1⟩ "manual" (Small.sparkOutput "a") seeded).outcome = .ok m ∧
        m.inputRows = 3 := by
  have starts : (⟨2026, 2, 26⟩ : CalendarDate).Valid := by decide
  have ends : (⟨2026, 3, 4⟩ : CalendarDate).Valid := by decide
  have inside : InRange ⟨2026, 2, 26⟩ ⟨2026, 3, 4⟩ ⟨2026, 3, 1⟩ := ⟨by decide, by decide, by decide⟩
  obtain ⟨seeded, seeds, -, days⟩ := @seeded_days_pass_iff Small.steadyDraws _ _ 3 false ∅ Small.plainSpark
    Small.plainSpark_reads Small.steadyDraws_historical starts ends (by decide) (by decide)
  obtain ⟨frame, -, -, executed⟩ := (days _ inside).2 fun _ none => absurd none (AList.notMem_empty _)
  obtain ⟨rows, outcome, -⟩ := (executed "manual" (Small.sparkOutput "a")).2 rfl
  exact ⟨seeded, seeds, _, outcome, rows⟩

end SupplyChainHub
