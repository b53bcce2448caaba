import SupplyChainHub.Database.Rows
import SupplyChainHub.Imports.Failures
import SupplyChainHub.Library.Storage

/-!
The columns of `infrastructure/db/models.py` that API calls write, by table, and `_commit`. An enumeration
is kept as text of a length of its own.
-/

namespace SupplyChainHub

open Storage (Column Row Table Value)

namespace Schema

def suppliers : Table := [
  ⟨"id", .unbounded⟩,
  ⟨"code", .varchar 50⟩,
  ⟨"name", .varchar 200⟩,
  ⟨"status", .varchar 20⟩]

def products : Table := [
  ⟨"id", .unbounded⟩,
  ⟨"sku", .varchar 100⟩,
  ⟨"name", .varchar 200⟩,
  ⟨"base_unit", .varchar 20⟩,
  ⟨"status", .varchar 20⟩]

def warehouses : Table := [
  ⟨"id", .unbounded⟩,
  ⟨"code", .varchar 50⟩,
  ⟨"name", .varchar 200⟩,
  ⟨"timezone", .varchar 100⟩,
  ⟨"status", .varchar 20⟩]

def purchaseOrders : Table := [
  ⟨"id", .unbounded⟩,
  ⟨"supplier_id", .unbounded⟩,
  ⟨"external_reference", .varchar 100⟩,
  ⟨"status", .varchar 30⟩,
  ⟨"expected_date", .unbounded⟩]

def purchaseOrderLines : Table := [
  ⟨"id", .unbounded⟩,
  ⟨"purchase_order_id", .unbounded⟩,
  ⟨"line_number", .integer 32⟩,
  ⟨"product_id", .unbounded⟩,
  ⟨"ordered_quantity", .numeric 18 3⟩,
  ⟨"received_quantity", .numeric 18 3⟩]

def shipments : Table := [
  ⟨"id", .unbounded⟩,
  ⟨"supplier_id", .unbounded⟩,
  ⟨"purchase_order_id", .unbounded⟩,
  ⟨"tracking_reference", .varchar 100⟩,
  ⟨"status", .varchar 30⟩,
  ⟨"shipped_at", .unbounded⟩,
  ⟨"delivered_at", .unbounded⟩]

def shipmentEvents : Table := [
  ⟨"id", .unbounded⟩,
  ⟨"shipment_id", .unbounded⟩,
  ⟨"external_event_id", .varchar 100⟩,
  ⟨"event_type", .varchar 30⟩,
  ⟨"occurred_at", .unbounded⟩,
  ⟨"reason_code", .varchar 100⟩]

def supplierProductMappings : Table := [
  ⟨"id", .unbounded⟩,
  ⟨"supplier_id", .unbounded⟩,
  ⟨"external_sku", .varchar 100⟩,
  ⟨"product_id", .unbounded⟩,
  ⟨"source_unit", .varchar 20⟩,
  ⟨"units_per_source_unit", .numeric 18 3⟩,
  ⟨"version", .integer 32⟩,
  ⟨"active", .unbounded⟩]

def supplierWarehouseMappings : Table := [
  ⟨"id", .unbounded⟩,
  ⟨"supplier_id", .unbounded⟩,
  ⟨"external_location", .varchar 100⟩,
  ⟨"warehouse_id", .unbounded⟩,
  ⟨"version", .integer 32⟩,
  ⟨"active", .unbounded⟩]

def importJobs : Table := [
  ⟨"id", .unbounded⟩,
  ⟨"supplier_id", .unbounded⟩,
  ⟨"source_type", .varchar 40⟩,
  ⟨"adapter_version", .varchar 100⟩,
  ⟨"original_filename", .varchar 255⟩,
  ⟨"content_sha256", .varchar 64⟩,
  ⟨"content_type", .varchar 100⟩,
  ⟨"payload", .unbounded⟩,
  ⟨"payload_object_key", .varchar 1000⟩,
  ⟨"payload_size_bytes", .integer 64⟩,
  ⟨"idempotency_key", .varchar 128⟩,
  ⟨"correlation_id", .varchar 128⟩,
  ⟨"status", .varchar 40⟩,
  ⟨"total_records", .integer 32⟩,
  ⟨"accepted_records", .integer 32⟩,
  ⟨"rejected_records", .integer 32⟩,
  ⟨"attempt_count", .integer 32⟩,
  ⟨"max_attempts", .integer 32⟩,
  ⟨"replay_of_job_id", .unbounded⟩]

def operationEvents : Table := [
  ⟨"id", .unbounded⟩,
  ⟨"import_job_id", .unbounded⟩,
  ⟨"correlation_id", .varchar 128⟩,
  ⟨"component", .varchar 50⟩,
  ⟨"stage", .varchar 100⟩,
  ⟨"status", .varchar 30⟩,
  ⟨"title", .varchar 200⟩,
  ⟨"explanation", .varchar 1000⟩,
  ⟨"evidence_reference", .varchar 1000⟩,
  ⟨"details", .unbounded⟩,
  ⟨"occurred_at", .unbounded⟩]

def analyticsRuns : Table := [
  ⟨"id", .unbounded⟩,
  ⟨"run_type", .varchar 40⟩,
  ⟨"engine", .varchar 20⟩,
  ⟨"dataset_seed", .integer 64⟩,
  ⟨"input_rows", .integer 32⟩,
  ⟨"duration_ms", .numeric 18 3⟩,
  ⟨"summary", .unbounded⟩]

def inventoryReconciliations : Table := [
  ⟨"run_id", .unbounded⟩,
  ⟨"record_index", .integer 32⟩,
  ⟨"supplier_code", .varchar 100⟩,
  ⟨"product_sku", .varchar 100⟩,
  ⟨"warehouse_code", .varchar 100⟩,
  ⟨"reported_quantity", .numeric 18 3⟩,
  ⟨"hub_quantity", .numeric 18 3⟩,
  ⟨"difference_quantity", .numeric 18 3⟩,
  ⟨"matches", .unbounded⟩]

def stockoutRisks : Table := [
  ⟨"run_id", .unbounded⟩,
  ⟨"record_index", .integer 32⟩,
  ⟨"product_sku", .varchar 100⟩,
  ⟨"warehouse_code", .varchar 100⟩,
  ⟨"on_hand_quantity", .numeric 18 3⟩,
  ⟨"reserved_quantity", .numeric 18 3⟩,
  ⟨"inbound_quantity", .numeric 18 3⟩,
  ⟨"forecast_quantity", .numeric 18 3⟩,
  ⟨"actual_demand_quantity", .numeric 18 3⟩,
  ⟨"available_quantity", .numeric 18 3⟩,
  ⟨"projected_ending_quantity", .numeric 18 3⟩,
  ⟨"projected_shortage_quantity", .numeric 18 3⟩,
  ⟨"shortage_ratio", .numeric 18 6⟩,
  ⟨"severity", .varchar 20⟩]

end Schema

def textOrNull : Option String → Value
  | none => .null
  | some text => .text text

def naturalOrNull : Option Nat → Value
  | none => .null
  | some n => .natural n

def otherOrNull {α : Type} : Option α → Value
  | none => .null
  | some _ => .other

def Numeric183.column (n : Numeric183) : Value := .decimal n.thousandths 3

@[simp] theorem text_holds {length : Nat} (text : String) :
    (Storage.ColumnType.varchar length).holds (.text text) = (text.length ≤ length && !hasNul text) := rfl

@[simp] theorem textOrNull_holds {length : Nat} (text : Option String) :
    (Storage.ColumnType.varchar length).holds (textOrNull text) =
      text.all fun s => s.length ≤ length && !hasNul s := by
  cases text <;> rfl

@[simp] theorem otherOrNull_holds {α : Type} (x : Option α) :
    Storage.ColumnType.unbounded.holds (otherOrNull x) = true := by
  cases x <;> rfl

/-- A quantity as the program keeps it fits every column of quantities. -/
@[simp] theorem Numeric183.column_holds (n : Numeric183) : (Storage.ColumnType.numeric 18 3).holds n.column = true := by
  have fits := n.fits
  unfold Numeric183.column Storage.ColumnType.holds
  simpa using fits

theorem unit_holds (unit : UnitOfMeasure) : unit.value.length ≤ 20 ∧ hasNul unit.value = false := by
  cases unit <;> decide

/-! ### `_commit` -/

/-- The flush and the commit. Of the errors of the flush only that of a constraint is caught. -/
def commit {σ : Type} (before after : σ) (statements : List Storage.Statement) (conflictMessage : String) :
    CallOutcome σ :=
  match Storage.flush statements with
  | none => ⟨after, none⟩
  | some .constraint => ⟨before, some (.domain (.resourceConflict conflictMessage))⟩
  | some .value => ⟨before, some (.unmapped valueError)⟩

/-- What does not commit writes nothing. -/
theorem commit_failed {σ : Type} {before after : σ} {statements : List Storage.Statement} {conflictMessage : String}
    (failed : (commit before after statements conflictMessage).error ≠ none) :
    (commit before after statements conflictMessage).db = before := by
  unfold commit at *
  cases stopped : Storage.flush statements with
  | none =>
    rw [stopped] at failed
    exact absurd rfl failed
  | some refusal => cases refusal <;> rfl

theorem commit_db {σ : Type} (before after : σ) (statements : List Storage.Statement) (conflictMessage : String) :
    (commit before after statements conflictMessage).db = before ∨
      (commit before after statements conflictMessage).db = after := by
  unfold commit
  cases Storage.flush statements with
  | none => exact .inr rfl
  | some refusal => cases refusal <;> exact .inl rfl

/-- A commit leaves the rows that were there, or every statement has passed. -/
theorem commit_either {σ : Type} {P : σ → Prop} {before after : σ} {statements : List Storage.Statement}
    {conflictMessage : String} (stays : P before)
    (commits : (∀ s ∈ statements, s.table.holds s.row = true ∧ s.violates = false) → P after) :
    P (commit before after statements conflictMessage).db := by
  unfold commit
  cases stopped : Storage.flush statements with
  | none => exact commits (Storage.held_of_flush stopped)
  | some refusal => cases refusal <;> exact stays

theorem commit_misfit {σ : Type} {before after : σ} {s : Storage.Statement} {rest : List Storage.Statement}
    {conflictMessage : String} (misfit : s.table.holds s.row = false) :
    commit before after (s :: rest) conflictMessage = ⟨before, some (.unmapped valueError)⟩ := by
  unfold commit Storage.flush Storage.Statement.run
  rw [misfit]
  rfl

/-- Where every value fits, the constraint of the first statement decides. -/
theorem commit_held {σ : Type} {before after : σ} {s : Storage.Statement} {rest : List Storage.Statement}
    {conflictMessage : String} (fits : s.table.holds s.row = true)
    (held : ∀ s ∈ rest, s.table.holds s.row = true ∧ s.violates = false) :
    commit before after (s :: rest) conflictMessage =
      if s.violates then ⟨before, some (.domain (.resourceConflict conflictMessage))⟩ else ⟨after, none⟩ := by
  unfold commit Storage.flush Storage.Statement.run
  rw [fits, Storage.flush_none held]
  cases s.violates <;> rfl

theorem commit_mapped {σ : Type} {before after : σ} {s : Storage.Statement} {rest : List Storage.Statement}
    {conflictMessage : String} {statusCodes : List Nat} (covered : 409 ∈ statusCodes)
    (held : ∀ s ∈ rest, s.table.holds s.row = true) :
    (commit before after (s :: rest) conflictMessage).Mapped statusCodes ↔ s.table.holds s.row = true := by
  have refused := Storage.flush_value_iff (s := s) held
  unfold commit
  cases fits : s.table.holds s.row with
  | false =>
    rw [refused.mpr fits]
    exact iff_of_false (CallOutcome.not_mapped _ _ _) (by simp)
  | true =>
    rw [fits] at refused
    cases stopped : Storage.flush (s :: rest) with
    | none => exact iff_of_true (CallOutcome.mapped_returned _ _) rfl
    | some refusal =>
      cases refusal with
      | constraint => exact iff_of_true (CallOutcome.mapped_domain _ covered) rfl
      | value => exact absurd (refused.mp stopped) (by simp)

end SupplyChainHub
