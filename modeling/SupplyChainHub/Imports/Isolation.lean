import SupplyChainHub.Imports.Alone
import SupplyChainHub.Integrations.Adapters
import SupplyChainHub.Inventory.LastCommit

/-!
Bad rows. A row that fails a check is turned away under its own number and the rest of the file is imported;
what no check looks for first, a flush or the adapter finds, and then the whole file is lost.
-/

namespace SupplyChainHub

/-- The converted quantities fit `Numeric(18, 3)`. -/
def PlanEntry.Fits (e : PlanEntry) : Prop :=
  (Numeric183.store? e.onHand).isSome = true ∧ (Numeric183.store? e.reserved).isSome = true

instance (e : PlanEntry) : Decidable e.Fits := inferInstanceAs (Decidable (_ ∧ _))

section
variable {env : Env} {start final : Hub} {d n : Nat} {id supplierId : Id} {job : ImportJob} {db : Database}
    {result : InventoryAdapterResult} {records : List CanonicalInventoryRecord} {rows : List Nat} {e : PlanEntry}
    {modelValidate : ModelValidate} {source : InventorySource} {content : ByteArray}

theorem round_nonnegative {q : ℚ} (h : 0 ≤ q) : 0 ≤ roundHalfAway q := by
  unfold roundHalfAway
  rw [if_pos h]
  exact Int.floor_nonneg.mpr (by linarith)

theorem stored_nonnegative {q : ℚ} {stored : Numeric183} (h : 0 ≤ q) (stores : Numeric183.store? q = some stored) :
    0 ≤ stored.thousandths := by
  unfold Numeric183.store? at stores
  split at stores
  · rw [← Option.some.inj stores]
    exact round_nonnegative (by linarith)
  · contradiction

/-- Of what an adapter returns, what fits is storable. -/
theorem PlanEntry.Fits.storable (fits : e.Fits) (nonnegative : 0 ≤ e.1.onHandQuantity ∧ 0 ≤ e.1.reservedQuantity)
    (factor : 0 < e.2.1.unitsPerSourceUnit.thousandths) : e.Storable := by
  obtain ⟨onHand, storesOnHand⟩ := Option.isSome_iff_exists.mp fits.1
  obtain ⟨reserved, storesReserved⟩ := Option.isSome_iff_exists.mp fits.2
  have units := value_nonnegative factor.le
  refine ⟨⟨onHand, storesOnHand, ?_⟩, ⟨reserved, storesReserved, ?_⟩, factor⟩
  · exact stored_nonnegative (mul_nonneg nonnegative.1 units) storesOnHand
  · exact stored_nonnegative (mul_nonneg nonnegative.2 units) storesReserved

theorem PlanEntry.Storable.fits (storable : e.Storable) : e.Fits := by
  obtain ⟨⟨_, storesOnHand, -⟩, ⟨_, storesReserved, -⟩, -⟩ := storable
  exact ⟨by rw [storesOnHand]; rfl, by rw [storesReserved]; rfl⟩

theorem Booked.stored {added : List InventorySnapshot} {writes : List PositionWrite}
    (booked : Booked db id supplierId (plan db supplierId records) added writes) :
    (∃ s ∈ added, s.sourceRow = n) ↔ ∃ e ∈ plan db supplierId records, e.1.sourceRow = n := by
  have rows : n ∈ added.map InventorySnapshot.sourceRow ↔
      n ∈ (plan db supplierId records).map fun e => e.1.sourceRow := by rw [booked.rows]
  simpa only [List.mem_map] using rows

end

namespace Small

def header : List String := ["snapshot_ref", "as_of", "partner_sku", "depot", "case_count", "units_per_case"]

def cells (values : List String) : RawRow := (header.zip values).map fun cell => (some cell.1, some cell.2)

def threePm : AwareDatetime := ⟨1785337200 * 1000000, 0, by decide, by decide⟩

def fourPm : AwareDatetime := ⟨1785340800 * 1000000, 0, by decide, by decide⟩

def cases (n : Nat) (fits : n < 10 ^ 15) : NonNegativeQuantity where
  thousandths := n * 1000
  fits := by omega
  nonnegative := by omega

def partnerRow (snapshotRef : PartnerText) (asOf : AwareDatetime) (caseCount : NonNegativeQuantity) :
    SupplierBInventoryRow where
  snapshotRef
  asOf
  partnerSku := ⟨"B-1", by decide⟩
  depot := ⟨"EAST", by decide⟩
  caseCount
  unitsPerCase := { thousandths := 12000, fits := case_fits, positive := by decide }
  unitsPerCaseText := "12"

/-- The validation, as far as the rows below go. -/
def modelValidate : ModelValidate := fun row =>
  match row.lookup "case_count" with
  | some (some "3") => .ok (partnerRow ⟨"SNAP-1", by decide⟩ threePm (cases 3 (by decide)))
  | some (some "999999999999999") =>
    .ok (partnerRow ⟨"SNAP-1", by decide⟩ threePm (cases 999999999999999 (by decide)))
  | some (some "5") => .ok (partnerRow ⟨"SNAP-2", by decide⟩ fourPm (cases 5 (by decide)))
  | _ => .error ⟨[⟨["case_count"], "Input should be greater than or equal to 0"⟩], by simp⟩

/-- The second row is invalid. -/
def invalidSource : InventorySource :=
  .supplierB (.decoded header [cells ["SNAP-1", "2026-07-29T15:00:00Z", "B-1", "EAST", "3", "12"],
    cells ["SNAP-2", "2026-07-29T16:00:00Z", "B-1", "EAST", "-1", "12"]])

def invalidFile : ByteArray :=
  ("snapshot_ref,as_of,partner_sku,depot,case_count,units_per_case\n" ++
    "SNAP-1,2026-07-29T15:00:00Z,B-1,EAST,3,12\nSNAP-2,2026-07-29T16:00:00Z,B-1,EAST,-1,12\n").toUTF8

def invalidDigest : String := "1bf8c05cca65c4cd2ec7a342938b858ec02639313a3a6a37d36c01705fc9d683"

def overflowingFile : ByteArray :=
  ("snapshot_ref,as_of,partner_sku,depot,case_count,units_per_case\n" ++
    "SNAP-1,2026-07-29T15:00:00Z,B-1,EAST,999999999999999,12\n" ++
    "SNAP-2,2026-07-29T16:00:00Z,B-1,EAST,5,12\n").toUTF8

def overflowingDigest : String := "d11d3e5b7989f43cfa6c531fa12fc387c6e910866c57ecbde71e3e179e58d69c"

def sourceEnv (source : InventorySource) : Env where
  settings := env.settings
  sha256 content := if content.size = overflowingFile.size then overflowingDigest else invalidDigest
  adapter _ _ := source.adapt modelValidate

def received (content : ByteArray) (contentSha256 : String) : List Label :=
  [.submit { request with content, contentSha256 }, .lookup 0, .put 0 .stored (moment 0), .insert 0 1 (moment 0),
    .deliver 1 "worker" none]

theorem toOption_ok {α : Type} {result : Except Raised α} {a : α} (h : result.toOption = some a) :
    result = .ok a := by
  cases result with
  | error e => contradiction
  | ok b => exact congrArg _ (Option.some.inj h)

end Small

end SupplyChainHub
