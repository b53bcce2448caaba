import Mathlib.Algebra.Ring.Int.Defs
import Mathlib.Data.List.Sort
import SupplyChainHub.Imports.Failures
import SupplyChainHub.Library.Joins

/-!
`analytics/reconciliation.py`. What pandas and Polars do with frames is a parameter: in which order a join
comes out and how rows are sorted.
-/

namespace SupplyChainHub

abbrev ReconciliationKey := Int × String × String

structure SupplierInventoryRow where
  recordIndex : Int
  supplierCode : String
  productSku : String
  warehouseCode : String
  reportedQuantity : Int64
  deriving DecidableEq

structure HubInventoryRow where
  recordIndex : Int
  productSku : String
  warehouseCode : String
  hubQuantity : Int64
  deriving DecidableEq

structure ReconciliationResult where
  recordIndex : Int
  supplierCode : String
  productSku : String
  warehouseCode : String
  reportedQuantity : Int
  hubQuantity : Int
  differenceQuantity : Int
  isMatch : Bool
  deriving DecidableEq

def SupplierInventoryRow.key (r : SupplierInventoryRow) : ReconciliationKey :=
  (r.recordIndex, r.productSku, r.warehouseCode)

def HubInventoryRow.key (r : HubInventoryRow) : ReconciliationKey := (r.recordIndex, r.productSku, r.warehouseCode)

/-- A row of the joined frame. -/
structure JoinedRow where
  recordIndex : Int
  supplierCode : String
  productSku : String
  warehouseCode : String
  reportedQuantity : Int64
  hubQuantity : Int64
  differenceQuantity : Int64
  isMatch : Bool
  deriving DecidableEq

/-- The columns of a joined pair of rows, with the two computed from them. -/
def JoinedRow.of (pair : SupplierInventoryRow × HubInventoryRow) : JoinedRow where
  recordIndex := pair.1.recordIndex
  supplierCode := pair.1.supplierCode
  productSku := pair.1.productSku
  warehouseCode := pair.1.warehouseCode
  reportedQuantity := pair.1.reportedQuantity
  hubQuantity := pair.2.hubQuantity
  differenceQuantity := pair.1.reportedQuantity - pair.2.hubQuantity
  isMatch := pair.1.reportedQuantity - pair.2.hubQuantity = 0

def JoinedRow.result (row : JoinedRow) : ReconciliationResult where
  recordIndex := row.recordIndex
  supplierCode := row.supplierCode
  productSku := row.productSku
  warehouseCode := row.warehouseCode
  reportedQuantity := row.reportedQuantity.toInt
  hubQuantity := row.hubQuantity.toInt
  differenceQuantity := row.differenceQuantity.toInt
  isMatch := row.isMatch

/-- The inner join with its one-to-one validation, and the sort by `record_index`. -/
structure Frames where
  join : List SupplierInventoryRow → List HubInventoryRow →
    Except Raised (List (SupplierInventoryRow × HubInventoryRow))
  sort : List JoinedRow → List JoinedRow

/-- What the two libraries document: rows in no particular order, and equal indexes in none. -/
structure Frames.Documented (frames : Frames) : Prop where
  join : ∀ supplierRows hubRows, (supplierRows.map SupplierInventoryRow.key).Nodup →
    (hubRows.map HubInventoryRow.key).Nodup → ∃ joined, frames.join supplierRows hubRows = .ok joined ∧
      joined.Perm (Joins.inner SupplierInventoryRow.key HubInventoryRow.key supplierRows hubRows)
  permutes : ∀ rows, (frames.sort rows).Perm rows
  sorts : ∀ rows, (frames.sort rows).Pairwise fun x y => x.recordIndex ≤ y.recordIndex

def unmatchedKeys : Raised := ⟨[], "Reconciliation inputs do not contain matching keys."⟩

def reconcileWithPandas (pandas : Frames) (supplierRows : List SupplierInventoryRow)
    (hubRows : List HubInventoryRow) : Except Raised (List ReconciliationResult) :=
  match pandas.join supplierRows hubRows with
  | .error e => .error e
  | .ok joined =>
    if joined.length ≠ supplierRows.length || joined.length ≠ hubRows.length then .error unmatchedKeys
    else .ok ((pandas.sort (joined.map JoinedRow.of)).map JoinedRow.result)

def reconcileWithPolars (polars : Frames) (supplierRows : List SupplierInventoryRow)
    (hubRows : List HubInventoryRow) : Except Raised (List ReconciliationResult) :=
  match polars.join supplierRows hubRows with
  | .error e => .error e
  | .ok joined =>
    let joined := polars.sort (joined.map JoinedRow.of)
    if joined.length ≠ supplierRows.length || joined.length ≠ hubRows.length then .error unmatchedKeys
    else .ok (joined.map JoinedRow.result)

/-- What a supplier row and the hub row of its key reconcile to. -/
def reconciled (pair : SupplierInventoryRow × HubInventoryRow) : ReconciliationResult where
  recordIndex := pair.1.recordIndex
  supplierCode := pair.1.supplierCode
  productSku := pair.1.productSku
  warehouseCode := pair.1.warehouseCode
  reportedQuantity := pair.1.reportedQuantity.toInt
  hubQuantity := pair.2.hubQuantity.toInt
  differenceQuantity := pair.1.reportedQuantity.toInt - pair.2.hubQuantity.toInt
  isMatch := pair.1.reportedQuantity.toInt = pair.2.hubQuantity.toInt

/-- The rows of one key, paired off, in the order of their indexes. -/
def pairedOff (supplierRows : List SupplierInventoryRow) (hubRows : List HubInventoryRow) :
    List (SupplierInventoryRow × HubInventoryRow) :=
  (Joins.inner SupplierInventoryRow.key HubInventoryRow.key supplierRows hubRows).insertionSort
    fun x y => x.1.recordIndex ≤ y.1.recordIndex

def InRange64 (z : Int) : Prop := -2 ^ 63 ≤ z ∧ z < 2 ^ 63

section
variable {pandas polars frames : Frames} {supplierRows : List SupplierInventoryRow} {hubRows : List HubInventoryRow}
    {joined : List (SupplierInventoryRow × HubInventoryRow)} {pair : SupplierInventoryRow × HubInventoryRow}

theorem keys_nodup {α : Type} {rows : List α} {index : α → Int} {key : α → ReconciliationKey}
    (first : ∀ r, (key r).1 = index r) (distinct : (rows.map index).Nodup) : (rows.map key).Nodup := by
  apply List.Nodup.of_map Prod.fst
  rw [List.map_map]
  have same : Prod.fst ∘ key = index := funext first
  rwa [same]

/-- Where the difference fits in 64 bits, it is the difference. -/
theorem result_of (fits : InRange64 (pair.1.reportedQuantity.toInt - pair.2.hubQuantity.toInt)) :
    (JoinedRow.of pair).result = reconciled pair := by
  have difference : (pair.1.reportedQuantity - pair.2.hubQuantity).toInt =
      pair.1.reportedQuantity.toInt - pair.2.hubQuantity.toInt := by
    rw [Int64.toInt_sub]
    unfold InRange64 at fits
    apply Int.bmod_eq_of_le <;> omega
  have equal : pair.1.reportedQuantity - pair.2.hubQuantity = 0 ↔
      pair.1.reportedQuantity.toInt = pair.2.hubQuantity.toInt := by
    rw [← Int64.toInt_inj, difference, Int64.toInt_zero]
    omega
  simp only [JoinedRow.result, JoinedRow.of, reconciled, difference, equal]

theorem inner_indexes (distinct : (supplierRows.map (·.recordIndex)).Nodup)
    (unique : (hubRows.map HubInventoryRow.key).Nodup) :
    ((Joins.inner SupplierInventoryRow.key HubInventoryRow.key supplierRows hubRows).map
      fun pair => pair.1.recordIndex).Nodup := by
  have first : (Joins.inner SupplierInventoryRow.key HubInventoryRow.key supplierRows hubRows).map Prod.fst = _ :=
    Joins.inner_left unique
  have indexes := congrArg (List.map SupplierInventoryRow.recordIndex) first
  rw [List.map_map] at indexes
  show (List.map (SupplierInventoryRow.recordIndex ∘ Prod.fst) _).Nodup
  rw [indexes]
  exact distinct.sublist (List.filter_sublist.map _)

/-- However a join came out, sorting it by distinct indexes gives the one list. -/
theorem sort_joined (documented : frames.Documented) (distinct : (supplierRows.map (·.recordIndex)).Nodup)
    (unique : (hubRows.map HubInventoryRow.key).Nodup)
    (perm : joined.Perm (Joins.inner SupplierInventoryRow.key HubInventoryRow.key supplierRows hubRows)) :
    frames.sort (joined.map JoinedRow.of) = (pairedOff supplierRows hubRows).map JoinedRow.of := by
  have indexes := inner_indexes distinct unique
  have back : ((pairedOff supplierRows hubRows).map JoinedRow.of).Perm (joined.map JoinedRow.of) :=
    ((List.perm_insertionSort _ _).trans perm.symm).map _
  have rows : ((joined.map JoinedRow.of).map JoinedRow.recordIndex).Nodup := by
    rw [List.map_map]
    exact (perm.map fun pair => pair.1.recordIndex).nodup_iff.mpr indexes
  have ordered : ((pairedOff supplierRows hubRows).map JoinedRow.of).Pairwise
      fun x y => x.recordIndex ≤ y.recordIndex := by
    rw [List.pairwise_map]
    exact List.pairwise_insertionSort _ _
  refine List.Perm.eq_of_pairwise ?_ (documented.sorts _) ordered ((documented.permutes _).trans back.symm)
  intro x y inside inside' le ge
  apply List.inj_on_of_nodup_map rows ((documented.permutes _).subset inside) (back.subset inside')
  omega

theorem pairedOff_sorted (distinct : (supplierRows.map (·.recordIndex)).Nodup)
    (unique : (hubRows.map HubInventoryRow.key).Nodup) :
    ((pairedOff supplierRows hubRows).map fun pair => pair.1.recordIndex).Pairwise (· < ·) := by
  have sorted : ((pairedOff supplierRows hubRows).map fun pair => pair.1.recordIndex).Pairwise (· ≤ ·) := by
    rw [List.pairwise_map]
    exact List.pairwise_insertionSort _ _
  have indexes : ((pairedOff supplierRows hubRows).map fun pair => pair.1.recordIndex).Nodup :=
    ((List.perm_insertionSort _ _).map _).nodup_iff.mpr (inner_indexes distinct unique)
  exact sorted.imp₂ (fun _ _ le ne => lt_of_le_of_ne le ne) indexes

theorem counts_differ {n supplierCount hubCount : Nat} :
    (decide (n ≠ supplierCount) || decide (n ≠ hubCount)) = true ↔ ¬ (n = supplierCount ∧ n = hubCount) := by
  rw [Bool.or_eq_true, decide_eq_true_eq, decide_eq_true_eq]
  exact not_and_or.symm

/-- Given distinct indexes, pandas and Polars both fail where the keys of the two sides differ, and else both
give one entry for each pair of rows with the same key, in the order of the indexes. -/
theorem reconciliations_agree (pandasDocumented : pandas.Documented) (polarsDocumented : polars.Documented)
    (distinct : (supplierRows.map (·.recordIndex)).Nodup) (distinct' : (hubRows.map (·.recordIndex)).Nodup)
    (fits : ∀ s ∈ supplierRows, ∀ h ∈ hubRows, h.key = s.key →
      InRange64 (s.reportedQuantity.toInt - h.hubQuantity.toInt)) :
    ((¬ ∀ k, k ∈ supplierRows.map SupplierInventoryRow.key ↔ k ∈ hubRows.map HubInventoryRow.key) →
      reconcileWithPandas pandas supplierRows hubRows = .error unmatchedKeys ∧
        reconcileWithPolars polars supplierRows hubRows = .error unmatchedKeys) ∧
    ((∀ k, k ∈ supplierRows.map SupplierInventoryRow.key ↔ k ∈ hubRows.map HubInventoryRow.key) →
      ∃ pairs : List (SupplierInventoryRow × HubInventoryRow),
        reconcileWithPandas pandas supplierRows hubRows = .ok (pairs.map reconciled) ∧
        reconcileWithPolars polars supplierRows hubRows = .ok (pairs.map reconciled) ∧
        (pairs.map Prod.fst).Perm supplierRows ∧ (pairs.map Prod.snd).Perm hubRows ∧
        (∀ pair ∈ pairs, pair.2.key = pair.1.key) ∧
        (pairs.map fun pair => pair.1.recordIndex).Pairwise (· < ·)) := by
  have single : (supplierRows.map SupplierInventoryRow.key).Nodup := keys_nodup (fun _ => rfl) distinct
  have unique : (hubRows.map HubInventoryRow.key).Nodup := keys_nodup (fun _ => rfl) distinct'
  obtain ⟨joined, joins, perm⟩ := pandasDocumented.join supplierRows hubRows single unique
  obtain ⟨joined', joins', perm'⟩ := polarsDocumented.join supplierRows hubRows single unique
  have full := Joins.inner_full single unique
  have height := ((polarsDocumented.permutes (joined'.map JoinedRow.of)).length_eq.trans
    (List.length_map _)).trans perm'.length_eq
  unfold reconcileWithPandas reconcileWithPolars
  rw [joins, joins']
  dsimp only
  rw [height, perm.length_eq]
  constructor
  · intro differ
    have fails := counts_differ.mpr fun lengths => differ (full.mp lengths)
    rw [if_pos fails, if_pos fails]
    exact ⟨rfl, rfl⟩
  · intro same
    have counts := fun differ => counts_differ.mp differ (full.mpr same)
    obtain ⟨lefts, rights⟩ := Joins.inner_pairs single unique same
    have sorted : (pairedOff supplierRows hubRows).Perm _ := List.perm_insertionSort _ _
    have results : ((pairedOff supplierRows hubRows).map JoinedRow.of).map JoinedRow.result =
        (pairedOff supplierRows hubRows).map reconciled := by
      rw [List.map_map]
      apply List.map_congr_left
      rintro ⟨s, h⟩ member
      obtain ⟨present, present', key⟩ := Joins.mem_inner.mp (sorted.subset member)
      exact result_of (fits s present h present' key)
    refine ⟨pairedOff supplierRows hubRows, ?_, ?_, ?_, ?_, ?_, pairedOff_sorted distinct unique⟩
    · rw [if_neg counts, sort_joined pandasDocumented distinct unique perm, results]
    · rw [if_neg counts, sort_joined polarsDocumented distinct unique perm', results]
    · have first := sorted.map Prod.fst
      rwa [lefts] at first
    · exact (sorted.map Prod.snd).trans rights
    · rintro ⟨s, h⟩ member
      exact (Joins.mem_inner.mp (sorted.subset member)).2.2

end

namespace Small

/-- A join in the order of the left rows, and a stable sort. -/
def frames : Frames where
  join supplierRows hubRows :=
    if (supplierRows.map SupplierInventoryRow.key).Nodup ∧ (hubRows.map HubInventoryRow.key).Nodup then
      .ok (Joins.inner SupplierInventoryRow.key HubInventoryRow.key supplierRows hubRows)
    else .error ⟨[], "Merge keys are not unique"⟩
  sort rows := rows.insertionSort fun x y => x.recordIndex ≤ y.recordIndex

theorem frames_documented : frames.Documented where
  join _ _ single unique := ⟨_, if_pos ⟨single, unique⟩, .rfl⟩
  permutes rows := List.perm_insertionSort _ rows
  sorts rows := List.pairwise_insertionSort _ rows

def supplierRows : List SupplierInventoryRow := [⟨1, "SUP-A", "SKU-2", "WH-1", 17⟩, ⟨0, "SUP-A", "SKU-1", "WH-1", 10⟩]

def hubRows : List HubInventoryRow := [⟨0, "SKU-1", "WH-1", 10⟩, ⟨1, "SKU-2", "WH-1", 20⟩]

end Small

theorem reconciliations_agree_pair : ∃ pairs : List (SupplierInventoryRow × HubInventoryRow),
    reconcileWithPandas Small.frames Small.supplierRows Small.hubRows = .ok (pairs.map reconciled) ∧
    reconcileWithPolars Small.frames Small.supplierRows Small.hubRows = .ok (pairs.map reconciled) ∧
    (pairs.map Prod.fst).Perm Small.supplierRows := by
  have keys : ∀ k, k ∈ Small.supplierRows.map SupplierInventoryRow.key ↔
      k ∈ Small.hubRows.map HubInventoryRow.key := by
    intro k
    simp [Small.supplierRows, Small.hubRows, SupplierInventoryRow.key, HubInventoryRow.key, or_comm]
  have fits : ∀ s ∈ Small.supplierRows, ∀ h ∈ Small.hubRows, h.key = s.key →
      InRange64 (s.reportedQuantity.toInt - h.hubQuantity.toInt) := by
    unfold InRange64
    decide
  obtain ⟨pairs, pandas, polars, left, -⟩ := (reconciliations_agree Small.frames_documented Small.frames_documented
    (by decide) (by decide) fits).2 keys
  exact ⟨pairs, pandas, polars, left⟩

end SupplyChainHub
