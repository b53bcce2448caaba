import SupplyChainHub.Database.Schema
import SupplyChainHub.Inventory.PartnerKeys

/-!
The upserts of partner mappings with their columns: the key that the query for the mapping sends, and the
values of the INSERT or of the UPDATE.
-/

namespace SupplyChainHub

def SupplierProductMapping.row (m : SupplierProductMapping) : Storage.Row := [
  ("id", .other),
  ("supplier_id", .other),
  ("external_sku", .text m.externalSku),
  ("product_id", .other),
  ("source_unit", .text m.sourceUnit.value),
  ("units_per_source_unit", m.unitsPerSourceUnit.column),
  ("version", .natural m.version),
  ("active", .other)]

/-- What an UPDATE may set. -/
def SupplierProductMapping.assigned (m : SupplierProductMapping) : Storage.Row := [
  ("product_id", .other),
  ("source_unit", .text m.sourceUnit.value),
  ("units_per_source_unit", m.unitsPerSourceUnit.column),
  ("version", .natural m.version),
  ("active", .other)]

def SupplierWarehouseMapping.row (w : SupplierWarehouseMapping) : Storage.Row := [
  ("id", .other),
  ("supplier_id", .other),
  ("external_location", .text w.externalLocation),
  ("warehouse_id", .other),
  ("version", .natural w.version),
  ("active", .other)]

def SupplierWarehouseMapping.assigned (w : SupplierWarehouseMapping) : Storage.Row := [
  ("warehouse_id", .other),
  ("version", .natural w.version),
  ("active", .other)]

namespace MappingCall

/-- The text that the query for the mapping sends. -/
def key : MappingCall → String
  | .product request _ => request.externalSku
  | .warehouse request _ => request.externalLocation
  | .returned | .raised _ => ""

/-- The statement of the commit. A mapping that is as it was asked for is not written. -/
def statement : MappingCall → Option Storage.Statement
  | .product request none =>
    some { table := Schema.supplierProductMappings, row := (newProductMapping request).row }
  | .product request (some mapping) =>
    if changedProductMapping request mapping = mapping then none
    else some { table := Schema.supplierProductMappings, row := (changedProductMapping request mapping).assigned }
  | .warehouse request none =>
    some { table := Schema.supplierWarehouseMappings, row := (newWarehouseMapping request).row }
  | .warehouse request (some mapping) =>
    if changedWarehouseMapping request mapping = mapping then none
    else some {
      table := Schema.supplierWarehouseMappings
      row := (changedWarehouseMapping request mapping).assigned }
  | .returned | .raised _ => none

/-- What follows the checks of an upsert, with nothing in between. -/
def send (db : Database) (call : MappingCall) : CallOutcome Database :=
  if hasNul call.key then ⟨db, some (.unmapped nulError)⟩
  else if call.statement.any fun s => !s.table.holds s.row then ⟨db, some (.unmapped valueError)⟩
  else
    match call.commit db with
    | .error e => ⟨db, some (.domain e)⟩
    | .ok after => ⟨after, none⟩

end MappingCall

/-- `upsert_product_mapping` as the API calls it. -/
def sendProductMapping (db : Database) (request : ProductMappingUpsert) : CallOutcome Database :=
  (upsertProductMappingRead db request).send db

/-- `upsert_warehouse_mapping` as the API calls it. -/
def sendWarehouseMapping (db : Database) (request : WarehouseMappingUpsert) : CallOutcome Database :=
  (upsertWarehouseMappingRead db request).send db

/-- The supplier and the product are there. -/
def ProductMappingUpsert.Writes (request : ProductMappingUpsert) (db : Database) : Prop :=
  (∃ s ∈ db.suppliers, s.id = request.supplierId) ∧ request.productId ∈ db.products

/-- The supplier and the warehouse are there. -/
def WarehouseMappingUpsert.Writes (request : WarehouseMappingUpsert) (db : Database) : Prop :=
  (∃ s ∈ db.suppliers, s.id = request.supplierId) ∧ request.warehouseId ∈ db.warehouses

section
variable {db : Database} {statusCodes : List Nat}

theorem MappingCall.commit_code {call : MappingCall} {e : DomainError} (failed : call.commit db = .error e)
    (asked : ∀ e, call ≠ .raised e) : e.statusCode = 409 := by
  cases call with
  | product request loaded =>
    unfold MappingCall.commit upsertProductMappingCommit at failed
    dsimp only at failed
    split at failed
    · split at failed
      · cases failed
        rfl
      · cases failed
    · cases failed
  | warehouse request loaded =>
    unfold MappingCall.commit upsertWarehouseMappingCommit at failed
    dsimp only at failed
    split at failed
    · split at failed
      · cases failed
        rfl
      · cases failed
    · cases failed
  | returned => cases failed
  | raised e => exact absurd rfl (asked e)

theorem MappingCall.send_raised (db : Database) (e : DomainError) :
    (MappingCall.raised e).send db = ⟨db, some (.domain e)⟩ := rfl

theorem MappingCall.send_failed {call : MappingCall} (failed : (call.send db).error ≠ none) :
    (call.send db).db = db := by
  unfold MappingCall.send at *
  split
  · rfl
  · rename_i plain
    rw [if_neg plain] at failed
    split
    · rfl
    · rename_i fits
      rw [if_neg fits] at failed
      cases ended : call.commit db with
      | error e => rfl
      | ok after =>
        rw [ended] at failed
        exact absurd rfl failed

theorem MappingCall.send_mapped {call : MappingCall} (asked : ∀ e, call ≠ .raised e) (covered : 409 ∈ statusCodes) :
    (call.send db).Mapped statusCodes ↔
      hasNul call.key = false ∧ ∀ s, call.statement = some s → s.table.holds s.row = true := by
  unfold MappingCall.send
  cases plain : hasNul call.key with
  | true => exact iff_of_false (CallOutcome.not_mapped _ _ _) (by simp)
  | false =>
    have refused : (call.statement.any fun s => !s.table.holds s.row) = true ↔
        ¬ ∀ s, call.statement = some s → s.table.holds s.row = true := by
      cases call.statement <;> simp
    rw [if_neg (by simp)]
    split
    · rename_i misfit
      exact iff_of_false (CallOutcome.not_mapped _ _ _) fun fits => refused.mp misfit fits.2
    · rename_i fit
      refine iff_of_true ?_ ⟨rfl, not_not.mp (mt refused.mpr fit)⟩
      cases ended : call.commit db with
      | error e => exact CallOutcome.mapped_domain _ (commit_code ended asked ▸ covered)
      | ok after => exact CallOutcome.mapped_returned _ _

/-- An upsert ends with the 404 of its checks, or it is what it asks for that must fit. -/
theorem MappingCall.read_mapped {read asked : MappingCall} {Writes : Prop}
    (decided : (∃ e, read = .raised e ∧ e.statusCode = 404 ∧ ¬ Writes) ∨ Writes ∧ read = asked)
    (writes : ∀ e, asked ≠ .raised e) (covered : ∀ code ∈ [404, 409], code ∈ statusCodes) :
    (read.send db).Mapped statusCodes ↔
      (Writes → hasNul asked.key = false ∧ ∀ s, asked.statement = some s → s.table.holds s.row = true) := by
  rcases decided with ⟨e, rfl, code, unwritten⟩ | ⟨written, rfl⟩
  · rw [send_raised]
    exact iff_of_true (CallOutcome.mapped_domain _ (covered _ (by simp [code]))) fun writes => absurd writes unwritten
  · rw [send_mapped writes (covered 409 (by simp)), forall_prop_of_true written]

theorem productRow_holds {request : ProductMappingUpsert} (bounds : request.externalSku.length ≤ 100) :
    Schema.supplierProductMappings.holds (newProductMapping request).row = !hasNul request.externalSku := by
  simp [Schema.supplierProductMappings, SupplierProductMapping.row, newProductMapping, bounds, unit_holds]

theorem warehouseRow_holds {request : WarehouseMappingUpsert} (bounds : request.externalLocation.length ≤ 100) :
    Schema.supplierWarehouseMappings.holds (newWarehouseMapping request).row =
      !hasNul request.externalLocation := by
  simp [Schema.supplierWarehouseMappings, SupplierWarehouseMapping.row, newWarehouseMapping, bounds]

theorem productAssigned_holds (m : SupplierProductMapping) :
    Schema.supplierProductMappings.holds m.assigned = true ↔ m.version ≤ integerMax := by
  simp [Schema.supplierProductMappings, SupplierProductMapping.assigned, integerMax, unit_holds, Nat.lt_succ_iff]

theorem warehouseAssigned_holds (w : SupplierWarehouseMapping) :
    Schema.supplierWarehouseMappings.holds w.assigned = true ↔ w.version ≤ integerMax := by
  simp [Schema.supplierWarehouseMappings, SupplierWarehouseMapping.assigned, integerMax, Nat.lt_succ_iff]

theorem productMappingRead_cases (db : Database) (request : ProductMappingUpsert) :
    (∃ e, upsertProductMappingRead db request = .raised e ∧ e.statusCode = 404 ∧ ¬ request.Writes db) ∨
      request.Writes db ∧ upsertProductMappingRead db request =
        .product request (Table.lookup SupplierProductMapping.key (request.supplierId, request.externalSku)
          db.productMappings) := by
  unfold upsertProductMappingRead ProductMappingUpsert.Writes
  split
  · rename_i unknown
    exact .inl ⟨_, rfl, rfl, fun writes => by simpa using absurd writes.1 (by simpa using unknown)⟩
  · rename_i supplier
    split
    · rename_i unknown
      exact .inl ⟨_, rfl, rfl, fun writes => by simp [writes.2] at unknown⟩
    · rename_i product
      exact .inr ⟨⟨by simpa using supplier, by simpa using product⟩, rfl⟩

theorem warehouseMappingRead_cases (db : Database) (request : WarehouseMappingUpsert) :
    (∃ e, upsertWarehouseMappingRead db request = .raised e ∧ e.statusCode = 404 ∧ ¬ request.Writes db) ∨
      request.Writes db ∧ upsertWarehouseMappingRead db request =
        .warehouse request (Table.lookup SupplierWarehouseMapping.key (request.supplierId, request.externalLocation)
          db.warehouseMappings) := by
  unfold upsertWarehouseMappingRead WarehouseMappingUpsert.Writes
  split
  · rename_i unknown
    exact .inl ⟨_, rfl, rfl, fun writes => by simpa using absurd writes.1 (by simpa using unknown)⟩
  · rename_i supplier
    split
    · rename_i unknown
      exact .inl ⟨_, rfl, rfl, fun writes => by simp [writes.2] at unknown⟩
    · rename_i warehouse
      exact .inr ⟨⟨by simpa using supplier, by simpa using warehouse⟩, rfl⟩

theorem changedProductMapping_version {request : ProductMappingUpsert} {m : SupplierProductMapping}
    (changed : changedProductMapping request m ≠ m) : (changedProductMapping request m).version = m.version + 1 := by
  unfold changedProductMapping at changed ⊢
  split
  · rfl
  · rename_i same
    rw [if_neg same] at changed
    exact absurd rfl changed

theorem changedWarehouseMapping_version {request : WarehouseMappingUpsert} {w : SupplierWarehouseMapping}
    (changed : changedWarehouseMapping request w ≠ w) :
    (changedWarehouseMapping request w).version = w.version + 1 := by
  unfold changedWarehouseMapping at changed ⊢
  split
  · rfl
  · rename_i same
    rw [if_neg same] at changed
    exact absurd rfl changed

theorem productStatement_holds {request : ProductMappingUpsert} {loaded : Option SupplierProductMapping}
    (bounds : request.externalSku.length ≤ 100) (plain : hasNul request.externalSku = false) :
    (∀ s, (MappingCall.product request loaded).statement = some s → s.table.holds s.row = true) ↔
      ∀ m, loaded = some m → changedProductMapping request m ≠ m → m.version < integerMax := by
  cases loaded with
  | none => simp [MappingCall.statement, productRow_holds bounds, plain]
  | some m =>
    by_cases changed : changedProductMapping request m = m
    · simp [MappingCall.statement, changed]
    · have assigned : Schema.supplierProductMappings.holds (changedProductMapping request m).assigned = true ↔
          m.version < integerMax := by
        rw [productAssigned_holds, changedProductMapping_version changed]
        rfl
      simp [MappingCall.statement, changed, assigned]

theorem warehouseStatement_holds {request : WarehouseMappingUpsert} {loaded : Option SupplierWarehouseMapping}
    (bounds : request.externalLocation.length ≤ 100) (plain : hasNul request.externalLocation = false) :
    (∀ s, (MappingCall.warehouse request loaded).statement = some s → s.table.holds s.row = true) ↔
      ∀ w, loaded = some w → changedWarehouseMapping request w ≠ w → w.version < integerMax := by
  cases loaded with
  | none => simp [MappingCall.statement, warehouseRow_holds bounds, plain]
  | some w =>
    by_cases changed : changedWarehouseMapping request w = w
    · simp [MappingCall.statement, changed]
    · have assigned : Schema.supplierWarehouseMappings.holds (changedWarehouseMapping request w).assigned = true ↔
          w.version < integerMax := by
        rw [warehouseAssigned_holds, changedWarehouseMapping_version changed]
        rfl
      simp [MappingCall.statement, changed, assigned]

/-- A mapping that would be changed must have a version to come. -/
theorem sendProductMapping_mapped (request : ProductMappingUpsert) (bounds : request.externalSku.length ≤ 100)
    (covered : ∀ code ∈ [404, 409], code ∈ statusCodes) :
    (sendProductMapping db request).Mapped statusCodes ↔
      (request.Writes db → hasNul request.externalSku = false ∧
        ∀ m, Table.lookup SupplierProductMapping.key (request.supplierId, request.externalSku) db.productMappings =
            some m → changedProductMapping request m ≠ m → m.version < integerMax) := by
  rw [sendProductMapping, MappingCall.read_mapped (productMappingRead_cases db request) (by simp) covered]
  exact forall_congr' fun _ => and_congr_right fun plain => productStatement_holds bounds plain

theorem sendWarehouseMapping_mapped (request : WarehouseMappingUpsert)
    (bounds : request.externalLocation.length ≤ 100) (covered : ∀ code ∈ [404, 409], code ∈ statusCodes) :
    (sendWarehouseMapping db request).Mapped statusCodes ↔
      (request.Writes db → hasNul request.externalLocation = false ∧
        ∀ w, Table.lookup SupplierWarehouseMapping.key (request.supplierId, request.externalLocation)
            db.warehouseMappings = some w → changedWarehouseMapping request w ≠ w → w.version < integerMax) := by
  rw [sendWarehouseMapping, MappingCall.read_mapped (warehouseMappingRead_cases db request) (by simp) covered]
  exact forall_congr' fun _ => and_congr_right fun plain => warehouseStatement_holds bounds plain

end

end SupplyChainHub
