import Mathlib.Data.List.Nodup
import SupplyChainHub.Imports.Records

/-!
The adapters of `integrations/supplier_a.py` and `supplier_b.py`: from a validated payload, or the rows of a
CSV file, to canonical records. What pydantic makes of a row is a parameter.
-/

namespace SupplyChainHub

/-! ### Field types -/

/-- `str`, `min_length=1, max_length=100` -/
structure PartnerText where
  text : String
  bounds : 1 ≤ text.length ∧ text.length ≤ 100

/-- `Decimal`, `ge=0, max_digits=18, decimal_places=3` -/
structure NonNegativeQuantity extends Numeric183 where
  nonnegative : 0 ≤ thousandths

/-- `Decimal`, `gt=0, max_digits=18, decimal_places=3` -/
structure PositiveQuantity extends Numeric183 where
  positive : 0 < thousandths

/-- `datetime.min` and `datetime.max` as moments. -/
def datetimeMin : Moment := -62135596800 * 1000000

def datetimeMax : Moment := 253402300800 * 1000000 - 1

/-- The time on the clock and how far that clock is ahead of UTC. -/
structure AwareDatetime where
  clock : Int
  offset : Int
  years : datetimeMin ≤ clock ∧ clock ≤ datetimeMax
  day : offset.natAbs < 86400 * 1000000

/-- The time in UTC is in the years 1 to 9999 as well. -/
def AwareDatetime.Converts (t : AwareDatetime) : Prop :=
  datetimeMin ≤ t.clock - t.offset ∧ t.clock - t.offset ≤ datetimeMax

instance (t : AwareDatetime) : Decidable t.Converts := inferInstanceAs (Decidable (_ ∧ _))

/-- `.astimezone(UTC)` -/
def AwareDatetime.astimezone (t : AwareDatetime) : Except Raised Moment :=
  if t.Converts then .ok (t.clock - t.offset) else .error ⟨[], "date value out of range"⟩

/-! ### Supplier A -/

structure SupplierAInventoryItem where
  itemNumber : PartnerText
  location : PartnerText
  onHand : NonNegativeQuantity
  allocated : NonNegativeQuantity := ⟨⟨0, by decide⟩, le_rfl⟩
  unit : UnitOfMeasure

structure SupplierAInventoryPayload where
  snapshotId : PartnerText
  capturedAt : AwareDatetime
  items : List SupplierAInventoryItem
  bounds : 1 ≤ items.length ∧ items.length ≤ 10000

def SupplierAInventoryPayload.record (payload : SupplierAInventoryPayload) (observedAt : Moment)
    (item : SupplierAInventoryItem) (sourceRow : Nat) : CanonicalInventoryRecord where
  sourceReference := payload.snapshotId.text
  sourceRow
  externalSku := item.itemNumber.text
  externalLocation := item.location.text
  observedAt
  sourceUnit := item.unit
  onHandQuantity := item.onHand.value
  reservedQuantity := item.allocated.value
  unitsPerSourceUnit := none

def SupplierAInventoryPayload.adapt (payload : SupplierAInventoryPayload) : Except Raised InventoryAdapterResult :=
  match payload.capturedAt.astimezone with
  | .error e => .error e
  | .ok observedAt => .ok
      { records := (payload.items.zipIdx 1).map fun entry => payload.record observedAt entry.1 entry.2 }

/-! ### Supplier B -/

/-- A row of `csv.DictReader`: surplus cells come under no key. -/
abbrev RawRow := List (Option String × Option String)

def cleanRow (raw : RawRow) : List (String × Option String) :=
  raw.filterMap fun cell => cell.1.map (·, cell.2)

structure SupplierBInventoryRow where
  snapshotRef : PartnerText
  asOf : AwareDatetime
  partnerSku : PartnerText
  depot : PartnerText
  caseCount : NonNegativeQuantity
  unitsPerCase : PositiveQuantity
  /-- What `str` gives for it. -/
  unitsPerCaseText : String

/-- One of a `ValidationError`'s `errors()`. -/
structure ErrorDetail where
  loc : List String
  msg : String

/-- `SupplierBInventoryRow.model_validate`; a `ValidationError` has at least one error. -/
abbrev ModelValidate := List (String × Option String) → Except { details : List ErrorDetail // details ≠ [] }
  SupplierBInventoryRow

/-- A file as far as `DictReader` splits it. -/
inductive SupplierBFile where
  | undecodable
  | decoded (fieldnames : List String) (rows : List RawRow)

/-- `REQUIRED_HEADERS`, sorted. -/
def requiredHeaders : List String :=
  ["as_of", "case_count", "depot", "partner_sku", "snapshot_ref", "units_per_case"]

def missingHeaders (fieldnames : List String) : List String :=
  requiredHeaders.filter fun header => !fieldnames.contains header

def SupplierBInventoryRow.record (row : SupplierBInventoryRow) (observedAt : Moment) (sourceRow : Nat) :
    CanonicalInventoryRecord where
  sourceReference := row.snapshotRef.text
  sourceRow
  externalSku := row.partnerSku.text
  externalLocation := row.depot.text
  observedAt
  sourceUnit := .case
  onHandQuantity := row.caseCount.value
  reservedQuantity := 0
  unitsPerSourceUnit := some ⟨row.unitsPerCase.value, row.unitsPerCaseText⟩

def ErrorDetail.fieldError (sourceRow : Nat) (detail : ErrorDetail) : AdapterError where
  code := "invalid_csv_field"
  message := detail.msg
  sourceRow := some sourceRow
  fieldName := some (".".intercalate detail.loc)

/-- The loop over the rows, the next of which is `sourceRow`. -/
def adaptRows (modelValidate : ModelValidate) : Nat → List RawRow → Except Raised InventoryAdapterResult
  | _, [] => .ok {}
  | sourceRow, raw :: rest =>
    match modelValidate (cleanRow raw) with
    | .error details =>
      match adaptRows modelValidate (sourceRow + 1) rest with
      | .error e => .error e
      | .ok result => .ok { result with errors := details.1.map (·.fieldError sourceRow) ++ result.errors }
    | .ok row =>
      match row.asOf.astimezone with
      | .error e => .error e
      | .ok observedAt =>
        match adaptRows modelValidate (sourceRow + 1) rest with
        | .error e => .error e
        | .ok result => .ok { result with records := row.record observedAt sourceRow :: result.records }

def SupplierBFile.adapt (modelValidate : ModelValidate) : SupplierBFile → Except Raised InventoryAdapterResult
  | .undecodable => .ok { errors := [{
      code := "invalid_file_encoding"
      message := "Supplier B files must use UTF-8 encoding." }] }
  | .decoded fieldnames rows =>
    if missingHeaders fieldnames ≠ [] then .ok { errors := [{
      code := "missing_csv_headers"
      message := "The CSV is missing required headers: " ++ ", ".intercalate (missingHeaders fieldnames) }] }
    else adaptRows modelValidate 2 rows

/-! ### Either -/

inductive InventorySource where
  | supplierA (payload : SupplierAInventoryPayload)
  | supplierB (file : SupplierBFile)

namespace InventorySource

def adapt (modelValidate : ModelValidate) : InventorySource → Except Raised InventoryAdapterResult
  | .supplierA payload => payload.adapt
  | .supplierB file => file.adapt modelValidate

/-- The numbers of the rows the adapter looks at. -/
def rows : InventorySource → List Nat
  | .supplierA payload => List.range' 1 payload.items.length
  | .supplierB .undecodable => []
  | .supplierB (.decoded fieldnames rows) =>
    if missingHeaders fieldnames ≠ [] then [] else List.range' 2 rows.length

/-- The file is read row by row: it can be decoded, and its header is complete. -/
def Readable : InventorySource → Prop
  | .supplierA _ => True
  | .supplierB .undecodable => False
  | .supplierB (.decoded fieldnames _) => missingHeaders fieldnames = []

/-- The items of the payload, or the data rows the reader yields. -/
def size : InventorySource → Nat
  | .supplierA payload => payload.items.length
  | .supplierB .undecodable => 0
  | .supplierB (.decoded _ rows) => rows.length

/-- Every time of the file, but for those on rows that fail validation, is a time in UTC. -/
def Converts (modelValidate : ModelValidate) : InventorySource → Prop
  | .supplierA payload => payload.capturedAt.Converts
  | .supplierB .undecodable => True
  | .supplierB (.decoded fieldnames rows) => missingHeaders fieldnames = [] →
    ∀ raw ∈ rows, ∀ row, modelValidate (cleanRow raw) = .ok row → row.asOf.Converts

end InventorySource

instance : (source : InventorySource) → Decidable source.Readable
  | .supplierA _ => .isTrue trivial
  | .supplierB .undecodable => .isFalse id
  | .supplierB (.decoded fieldnames _) => inferInstanceAs (Decidable (missingHeaders fieldnames = []))

/-- What an adapter returns, by the way it goes. -/
inductive Adapted (modelValidate : ModelValidate) : InventorySource → InventoryAdapterResult → Prop where
  | payload {payload : SupplierAInventoryPayload} (observedAt : Moment) :
      Adapted modelValidate (.supplierA payload)
        { records := (payload.items.zipIdx 1).map fun entry => payload.record observedAt entry.1 entry.2 }
  | refused {source : InventorySource} {error : AdapterError} (unreadable : ¬ source.Readable)
      (unread : source.rows = []) (rowless : error.sourceRow = none) :
      Adapted modelValidate source { errors := [error] }
  | rows {fieldnames : List String} {rows : List RawRow} {result : InventoryAdapterResult}
      (complete : missingHeaders fieldnames = []) (adapted : adaptRows modelValidate 2 rows = .ok result) :
      Adapted modelValidate (.supplierB (.decoded fieldnames rows)) result

/-- Every row comes out under its number, as a record or with an error, and no number names two records. -/
structure InventoryAdapterResult.Numbered (result : InventoryAdapterResult) (rows : List Nat) : Prop where
  distinct : (result.records.map (·.sourceRow)).Nodup
  inside : ∀ r ∈ result.records, r.sourceRow ∈ rows
  covered : ∀ n ∈ rows, (∃ r ∈ result.records, r.sourceRow = n) ∨ ∃ e ∈ result.errors, e.sourceRow = some n
  nonnegative : ∀ r ∈ result.records, 0 ≤ r.onHandQuantity ∧ 0 ≤ r.reservedQuantity

/-- Every error names a row, and one that did not come out as a record. -/
structure InventoryAdapterResult.Apart (result : InventoryAdapterResult) (rows : List Nat) : Prop where
  inside : ∀ e ∈ result.errors, ∃ n ∈ rows, e.sourceRow = some n
  apart : ∀ e ∈ result.errors, ∀ r ∈ result.records, e.sourceRow ≠ some r.sourceRow

section
variable {modelValidate : ModelValidate} {result : InventoryAdapterResult} {n : Nat} {raws : List RawRow}
    {source : InventorySource}

theorem value_nonnegative {q : Numeric183} (h : 0 ≤ q.thousandths) : 0 ≤ q.value := by
  have cast : (0 : ℚ) ≤ q.thousandths := by exact_mod_cast h
  unfold Numeric183.value
  positivity

theorem adapt_adapted (h : source.adapt modelValidate = .ok result) : Adapted modelValidate source result := by
  cases source with
  | supplierA payload =>
    unfold InventorySource.adapt SupplierAInventoryPayload.adapt at h
    dsimp only at h
    split at h
    · contradiction
    · cases h
      exact .payload _
  | supplierB file =>
    cases file with
    | undecodable =>
      cases h
      exact .refused (fun readable => readable) rfl rfl
    | decoded fieldnames rows =>
      replace h : (if missingHeaders fieldnames ≠ [] then _ else adaptRows modelValidate 2 rows) = .ok result := h
      by_cases complete : missingHeaders fieldnames = []
      · rw [if_neg (not_not.mpr complete)] at h
        exact .rows complete h
      · rw [if_pos complete] at h
        cases h
        exact .refused complete (if_pos complete) rfl

theorem complete_rows {fieldnames : List String} {rows : List RawRow} (complete : missingHeaders fieldnames = []) :
    InventorySource.rows (.supplierB (.decoded fieldnames rows)) = List.range' 2 rows.length :=
  if_neg (not_not.mpr complete)

/-! ### Rows -/

theorem adaptRows_numbered (h : adaptRows modelValidate n raws = .ok result) :
    result.Numbered (List.range' n raws.length) := by
  induction raws generalizing n result with
  | nil =>
    cases h
    exact ⟨List.nodup_nil, by simp, by simp, by simp⟩
  | cons raw rest ih =>
    have later {m : Nat} (member : m ∈ List.range' (n + 1) rest.length) : m ∈ List.range' n (rest.length + 1) := by
      rw [List.range'_succ]
      exact List.mem_cons_of_mem _ member
    rw [adaptRows] at h
    split at h
    · rename_i details _
      split at h
      · contradiction
      · rename_i tail adapted
        have numbered := ih adapted
        cases h
        refine ⟨numbered.distinct, fun r member => later (numbered.inside r member), ?_, numbered.nonnegative⟩
        intro m member
        rw [List.length_cons, List.range'_succ] at member
        rcases List.mem_cons.mp member with rfl | member
        · right
          obtain ⟨detail, present⟩ := List.exists_mem_of_ne_nil _ details.2
          exact ⟨_, List.mem_append_left _ (List.mem_map_of_mem present), rfl⟩
        · exact (numbered.covered m member).imp_right fun ⟨e, present, row⟩ =>
            ⟨e, List.mem_append_right _ present, row⟩
    · rename_i row _
      split at h
      · contradiction
      · rename_i observedAt _
        split at h
        · contradiction
        · rename_i tail adapted
          have numbered := ih adapted
          cases h
          refine ⟨?_, ?_, ?_, ?_⟩
          · rw [List.map_cons, List.nodup_cons]
            refine ⟨?_, numbered.distinct⟩
            intro member
            obtain ⟨r, present, same⟩ := List.mem_map.mp member
            have after := numbered.inside r present
            rw [same, List.mem_range'_1] at after
            exact absurd after.1 (Nat.not_succ_le_self n)
          · intro r member
            rcases List.mem_cons.mp member with rfl | member
            · rw [List.length_cons, List.range'_succ]
              exact List.mem_cons_self
            · exact later (numbered.inside r member)
          · intro m member
            rw [List.length_cons, List.range'_succ] at member
            rcases List.mem_cons.mp member with rfl | member
            · exact .inl ⟨_, List.mem_cons_self, rfl⟩
            · exact (numbered.covered m member).imp_left fun ⟨r, present, row⟩ =>
                ⟨r, List.mem_cons_of_mem _ present, row⟩
          · intro r member
            rcases List.mem_cons.mp member with rfl | member
            · exact ⟨value_nonnegative row.caseCount.nonnegative, le_rfl⟩
            · exact numbered.nonnegative r member

theorem adapt_numbered (h : source.adapt modelValidate = .ok result) : result.Numbered source.rows := by
  cases adapt_adapted h with
  | @payload payload observedAt =>
    have numbers : ((payload.items.zipIdx 1).map fun entry => payload.record observedAt entry.1 entry.2).map
        (·.sourceRow) = List.range' 1 payload.items.length := by
      rw [List.map_map]
      exact List.zipIdx_map_snd 1 payload.items
    refine ⟨?_, ?_, ?_, ?_⟩
    · rw [numbers]
      exact List.nodup_range'
    · intro r member
      show r.sourceRow ∈ List.range' 1 payload.items.length
      rw [← numbers]
      exact List.mem_map_of_mem member
    · intro m member
      left
      replace member : m ∈ List.range' 1 payload.items.length := member
      rw [← numbers] at member
      exact List.mem_map.mp member
    · intro r member
      obtain ⟨entry, -, rfl⟩ := List.mem_map.mp member
      exact ⟨value_nonnegative entry.1.onHand.nonnegative, value_nonnegative entry.1.allocated.nonnegative⟩
  | refused _ unread =>
    rw [unread]
    exact ⟨List.nodup_nil, by simp, by simp, by simp⟩
  | rows complete adapted =>
    rw [complete_rows complete]
    exact adaptRows_numbered adapted

theorem rows_nodup : source.rows.Nodup := by
  cases source with
  | supplierA payload => exact List.nodup_range'
  | supplierB file =>
    cases file with
    | undecodable => exact List.nodup_nil
    | decoded fieldnames rows =>
      show (if missingHeaders fieldnames ≠ [] then [] else List.range' 2 rows.length).Nodup
      split
      · exact List.nodup_nil
      · exact List.nodup_range'

theorem rows_length (readable : source.Readable) : source.rows.length = source.size := by
  cases source with
  | supplierA payload => exact List.length_range'
  | supplierB file =>
    cases file with
    | undecodable => exact readable.elim
    | decoded fieldnames rows =>
      rw [complete_rows readable]
      exact List.length_range'

/-! ### Rows with errors -/

theorem adaptRows_apart (h : adaptRows modelValidate n raws = .ok result) :
    result.Apart (List.range' n raws.length) := by
  induction raws generalizing n result with
  | nil =>
    cases h
    exact ⟨by simp, by simp⟩
  | cons raw rest ih =>
    rw [List.length_cons, List.range'_succ]
    have after {m : Nat} (member : m ∈ List.range' (n + 1) rest.length) : n < m := (List.mem_range'_1.mp member).1
    rw [adaptRows] at h
    split at h
    · rename_i details _
      split at h
      · contradiction
      · rename_i tail adapted
        have later := ih adapted
        have numbered := adaptRows_numbered adapted
        cases h
        constructor
        · intro e member
          rcases List.mem_append.mp member with own | rest
          · obtain ⟨detail, -, rfl⟩ := List.mem_map.mp own
            exact ⟨n, List.mem_cons_self, rfl⟩
          · obtain ⟨m, inside, row⟩ := later.inside e rest
            exact ⟨m, List.mem_cons_of_mem _ inside, row⟩
        · intro e member r present same
          rcases List.mem_append.mp member with own | rest
          · obtain ⟨detail, -, rfl⟩ := List.mem_map.mp own
            have first : n = r.sourceRow := Option.some.inj same
            have := after (numbered.inside r present)
            omega
          · exact later.apart e rest r present same
    · rename_i row _
      split at h
      · contradiction
      · rename_i observedAt _
        split at h
        · contradiction
        · rename_i tail adapted
          have later := ih adapted
          cases h
          constructor
          · intro e member
            obtain ⟨m, inside, row⟩ := later.inside e member
            exact ⟨m, List.mem_cons_of_mem _ inside, row⟩
          · intro e member r present same
            rcases List.mem_cons.mp present with rfl | rest
            · obtain ⟨m, inside, row⟩ := later.inside e member
              have first : m = n := Option.some.inj (row.symm.trans same)
              have := after inside
              omega
            · exact later.apart e member r rest same

theorem adapt_apart (h : source.adapt modelValidate = .ok result) (readable : source.Readable) :
    result.Apart source.rows := by
  cases adapt_adapted h with
  | payload => exact ⟨by simp, by simp⟩
  | refused unreadable => exact absurd readable unreadable
  | rows complete adapted =>
    rw [complete_rows complete]
    exact adaptRows_apart adapted

/-- A file that is not read row by row is one error of no row. -/
theorem adapt_unreadable (h : source.adapt modelValidate = .ok result) (unreadable : ¬ source.Readable) :
    result.records = [] ∧ ∃ e, result.errors = [e] ∧ e.sourceRow = none := by
  cases adapt_adapted h with
  | payload => exact absurd trivial unreadable
  | refused _ _ rowless => exact ⟨rfl, _, rfl, rowless⟩
  | rows complete => exact absurd complete unreadable

end

end SupplyChainHub
