import Mathlib.Data.List.Nodup
import SupplyChainHub.Imports.Duplicates
import SupplyChainHub.Imports.Isolation
import SupplyChainHub.Integrations.Adapters

/-!
The keys of partner mappings and the keys partners send. A mapping's key is stripped as its request is
validated; the adapters hand on what the partner wrote, and the lookups compare the two as they are.
-/

namespace SupplyChainHub

/-! ### Upserts -/

/-- `ProductMappingUpsert` as it validates its fields; `none` is its validation error. -/
def ProductMappingUpsert.validate (supplierId : Id) (externalSku : String) (productId : Id)
    (sourceUnit : UnitOfMeasure) (unitsPerSourceUnit : PositiveQuantity) (active : Bool) :
    Option ProductMappingUpsert :=
  (ExternalReference.validate externalSku).map fun externalSku => {
    supplierId
    externalSku := externalSku.text
    productId
    sourceUnit
    unitsPerSourceUnit := unitsPerSourceUnit.toNumeric183
    active
    positive := unitsPerSourceUnit.positive }

/-- `WarehouseMappingUpsert` as it validates its fields. -/
def WarehouseMappingUpsert.validate (supplierId : Id) (externalLocation : String) (warehouseId : Id)
    (active : Bool) : Option WarehouseMappingUpsert :=
  (ExternalReference.validate externalLocation).map fun externalLocation => {
    supplierId
    externalLocation := externalLocation.text
    warehouseId
    active }

/-- The commit of a call that nothing comes between. -/
def MappingCall.commit (db : Database) : MappingCall → Except DomainError Database
  | .product request loaded => upsertProductMappingCommit db request loaded
  | .warehouse request loaded => upsertWarehouseMappingCommit db request loaded
  | .returned => .ok db
  | .raised e => .error e

def upsertProductMapping (db : Database) (request : ProductMappingUpsert) : Except DomainError Database :=
  (upsertProductMappingRead db request).commit db

def upsertWarehouseMapping (db : Database) (request : WarehouseMappingUpsert) : Except DomainError Database :=
  (upsertWarehouseMappingRead db request).commit db

/-- The row a request asks for. -/
structure SupplierProductMapping.Of (m : SupplierProductMapping) (request : ProductMappingUpsert) : Prop where
  key : m.key = (request.supplierId, request.externalSku)
  productId : m.productId = request.productId
  sourceUnit : m.sourceUnit = request.sourceUnit
  unitsPerSourceUnit : m.unitsPerSourceUnit = request.unitsPerSourceUnit
  active : m.active = request.active

structure SupplierWarehouseMapping.Of (w : SupplierWarehouseMapping) (request : WarehouseMappingUpsert) : Prop where
  key : w.key = (request.supplierId, request.externalLocation)
  warehouseId : w.warehouseId = request.warehouseId
  active : w.active = request.active

/-- The unique constraints of the two mapping tables. -/
structure Database.MappingsUnique (db : Database) : Prop where
  products : (db.productMappings.map SupplierProductMapping.key).Nodup
  warehouses : (db.warehouseMappings.map SupplierWarehouseMapping.key).Nodup

section
variable {env : Env} {hub next : Hub} {l : Label} {db after : Database}

theorem productMappingCommit_unique {request : ProductMappingUpsert} {loaded : Option SupplierProductMapping}
    (unique : db.MappingsUnique) (h : upsertProductMappingCommit db request loaded = .ok after) :
    after.MappingsUnique := by
  unfold upsertProductMappingCommit at h
  split at h
  · split at h
    · contradiction
    · rename_i free
      cases h
      refine ⟨?_, unique.warehouses⟩
      rw [List.map_append, List.map_singleton]
      refine unique.products.append (List.nodup_singleton _) ?_
      intro key old new
      rw [List.mem_singleton] at new
      obtain ⟨m, present, same⟩ := List.mem_map.mp old
      exact free (List.any_eq_true.mpr ⟨m, present, decide_eq_true (same.trans new)⟩)
  · rename_i mapping
    cases h
    refine ⟨?_, unique.warehouses⟩
    have keys : (Table.modify SupplierProductMapping.key mapping.key
        (mapping.writeBack (changedProductMapping request mapping)) db.productMappings).map
          SupplierProductMapping.key = db.productMappings.map SupplierProductMapping.key :=
      Table.modify_keys fun _ same => same
    show (List.map _ _).Nodup
    rw [keys]
    exact unique.products

theorem warehouseMappingCommit_unique {request : WarehouseMappingUpsert} {loaded : Option SupplierWarehouseMapping}
    (unique : db.MappingsUnique) (h : upsertWarehouseMappingCommit db request loaded = .ok after) :
    after.MappingsUnique := by
  unfold upsertWarehouseMappingCommit at h
  split at h
  · split at h
    · contradiction
    · rename_i free
      cases h
      refine ⟨unique.products, ?_⟩
      rw [List.map_append, List.map_singleton]
      refine unique.warehouses.append (List.nodup_singleton _) ?_
      intro key old new
      rw [List.mem_singleton] at new
      obtain ⟨w, present, same⟩ := List.mem_map.mp old
      exact free (List.any_eq_true.mpr ⟨w, present, decide_eq_true (same.trans new)⟩)
  · rename_i mapping
    cases h
    refine ⟨unique.products, ?_⟩
    have keys : (Table.modify SupplierWarehouseMapping.key mapping.key
        (mapping.writeBack (changedWarehouseMapping request mapping)) db.warehouseMappings).map
          SupplierWarehouseMapping.key = db.warehouseMappings.map SupplierWarehouseMapping.key :=
      Table.modify_keys fun _ same => same
    show (List.map _ _).Nodup
    rw [keys]
    exact unique.warehouses

theorem step_unique (ledger : Ledger hub.db) (unique : hub.db.MappingsUnique)
    (h : Hub.step env hub l = some next) : next.db.MappingsUnique := by
  by_cases edit : ∃ call, l = .mappingCommit call
  · obtain ⟨call, rfl⟩ := edit
    simp only [Hub.step, Hub.mappingCommit] at h
    split at h
    · rename_i request loaded _
      cases h
      cases outcome : upsertProductMappingCommit hub.db request loaded with
      | error => exact unique
      | ok db => exact productMappingCommit_unique unique outcome
    · rename_i request loaded _
      cases h
      cases outcome : upsertWarehouseMappingCommit hub.db request loaded with
      | error => exact unique
      | ok db => exact warehouseMappingCommit_unique unique outcome
    · contradiction
  · have master := step_master ledger h fun call same => edit ⟨call, same⟩
    constructor
    · rw [master.productMappings]
      exact unique.products
    · rw [master.warehouseMappings]
      exact unique.warehouses

theorem reachable_unique (reached : Hub.Reachable env hub) : hub.db.MappingsUnique := by
  obtain ⟨start, begins, run⟩ := reached
  refine run.invariant_reachable (P := fun hub => hub.db.MappingsUnique) ?_ (.start begins) ?_
  · intro s l t reached unique _ step
    exact step_unique (reachable_ledger reached) unique step
  · exact ⟨begins.productMappings, begins.warehouseMappings⟩

theorem changedProductMapping_of {request : ProductMappingUpsert} {m : SupplierProductMapping}
    (named : m.key = (request.supplierId, request.externalSku)) :
    (m.writeBack (changedProductMapping request m) m).Of request := by
  unfold changedProductMapping SupplierProductMapping.writeBack
  split
  · constructor <;> simp only [Columns.writeBack_fresh]
    exact named
  · rename_i unchanged
    simp only [not_or, not_not] at unchanged
    obtain ⟨productId, sourceUnit, unitsPerSourceUnit, active⟩ := unchanged
    constructor <;> simp only [Columns.writeBack_clean]
    · exact named
    · exact productId
    · exact sourceUnit
    · exact unitsPerSourceUnit
    · exact active

theorem changedWarehouseMapping_of {request : WarehouseMappingUpsert} {w : SupplierWarehouseMapping}
    (named : w.key = (request.supplierId, request.externalLocation)) :
    (w.writeBack (changedWarehouseMapping request w) w).Of request := by
  unfold changedWarehouseMapping SupplierWarehouseMapping.writeBack
  split
  · constructor <;> simp only [Columns.writeBack_fresh]
    exact named
  · rename_i unchanged
    simp only [not_or, not_not] at unchanged
    constructor <;> simp only [Columns.writeBack_clean]
    · exact named
    · exact unchanged.1
    · exact unchanged.2

/-- A committed upsert leaves the row its request asks for. -/
theorem upsertProductMapping_leaves {request : ProductMappingUpsert}
    (h : upsertProductMapping db request = .ok after) : ∃ m ∈ after.productMappings, m.Of request := by
  unfold upsertProductMapping upsertProductMappingRead at h
  split at h
  · contradiction
  split at h
  · contradiction
  cases found : Table.lookup SupplierProductMapping.key (request.supplierId, request.externalSku)
      db.productMappings with
  | none =>
    rw [found] at h
    simp only [MappingCall.commit, upsertProductMappingCommit] at h
    split at h
    · contradiction
    · cases h
      exact ⟨newProductMapping request, List.mem_append_right _ List.mem_cons_self, rfl, rfl, rfl, rfl, rfl⟩
  | some m =>
    rw [found] at h
    cases h
    exact ⟨_, Table.modify_mem (Table.lookup_mem found), changedProductMapping_of (Table.lookup_key found)⟩

theorem upsertWarehouseMapping_leaves {request : WarehouseMappingUpsert}
    (h : upsertWarehouseMapping db request = .ok after) : ∃ w ∈ after.warehouseMappings, w.Of request := by
  unfold upsertWarehouseMapping upsertWarehouseMappingRead at h
  split at h
  · contradiction
  split at h
  · contradiction
  cases found : Table.lookup SupplierWarehouseMapping.key (request.supplierId, request.externalLocation)
      db.warehouseMappings with
  | none =>
    rw [found] at h
    simp only [MappingCall.commit, upsertWarehouseMappingCommit] at h
    split at h
    · contradiction
    · cases h
      exact ⟨newWarehouseMapping request, List.mem_append_right _ List.mem_cons_self, rfl, rfl, rfl⟩
  | some w =>
    rw [found] at h
    cases h
    exact ⟨_, Table.modify_mem (Table.lookup_mem found), changedWarehouseMapping_of (Table.lookup_key found)⟩

/-- An upsert that nothing comes between is two steps of the hub. -/
theorem mapping_run {call : MappingCall} (opened : Hub.step env hub l =
      some { hub with mappingCalls := hub.mappingCalls ++ [call] })
    (running : call ≠ .returned) (h : call.commit hub.db = .ok after) : Hub.Run env Machine.unguarded hub
      { hub with db := after, mappingCalls := hub.mappingCalls ++ [.returned] } := by
  have present : (hub.mappingCalls ++ [call])[hub.mappingCalls.length]? = some call := List.getElem?_concat_length
  have ends : Hub.step env { hub with mappingCalls := hub.mappingCalls ++ [call] }
      (.mappingCommit hub.mappingCalls.length) =
        some { hub with db := after, mappingCalls := hub.mappingCalls ++ [.returned] } := by
    cases call with
    | product | warehouse =>
      simp only [MappingCall.commit] at h
      simp [Hub.step, Hub.mappingCommit, Hub.endMapping, h]
    | returned => exact absurd rfl running
    | raised => contradiction
  exact .tail (.single trivial opened) trivial ends

theorem upsertProductMapping_run {request : ProductMappingUpsert}
    (h : upsertProductMapping hub.db request = .ok after) :
    Hub.Run env Machine.unguarded hub { hub with db := after, mappingCalls := hub.mappingCalls ++ [.returned] } := by
  refine mapping_run (l := .productMappingRead request) rfl ?_ h
  unfold upsertProductMappingRead
  split
  · exact MappingCall.noConfusion
  split <;> exact MappingCall.noConfusion

theorem upsertWarehouseMapping_run {request : WarehouseMappingUpsert}
    (h : upsertWarehouseMapping hub.db request = .ok after) :
    Hub.Run env Machine.unguarded hub { hub with db := after, mappingCalls := hub.mappingCalls ++ [.returned] } := by
  refine mapping_run (l := .warehouseMappingRead request) rfl ?_ h
  unfold upsertWarehouseMappingRead
  split
  · exact MappingCall.noConfusion
  split <;> exact MappingCall.noConfusion

theorem upsertProductMapping_unique {request : ProductMappingUpsert} (unique : db.MappingsUnique)
    (h : upsertProductMapping db request = .ok after) : after.MappingsUnique := by
  unfold upsertProductMapping upsertProductMappingRead at h
  split at h
  · contradiction
  split at h
  · contradiction
  exact productMappingCommit_unique unique h

theorem upsertWarehouseMapping_unique {request : WarehouseMappingUpsert} (unique : db.MappingsUnique)
    (h : upsertWarehouseMapping db request = .ok after) : after.MappingsUnique := by
  unfold upsertWarehouseMapping upsertWarehouseMappingRead at h
  split at h
  · contradiction
  split at h
  · contradiction
  exact warehouseMappingCommit_unique unique h

end

/-! ### Lookups -/

/-- A record as an adapter makes it of an item or a row with these keys. -/
inductive Sent (sku location : PartnerText) : CanonicalInventoryRecord → Prop where
  | supplierA (payload : SupplierAInventoryPayload) (item : SupplierAInventoryItem) (observedAt : Moment)
      (sourceRow : Nat) (itemNumber : item.itemNumber = sku) (place : item.location = location) :
      Sent sku location (payload.record observedAt item sourceRow)
  | supplierB (row : SupplierBInventoryRow) (observedAt : Moment) (sourceRow : Nat) (partnerSku : row.partnerSku = sku)
      (depot : row.depot = location) : Sent sku location (row.record observedAt sourceRow)

def CanonicalInventoryRecord.productMappingNotFound (record : CanonicalInventoryRecord) : AdapterError :=
  recordError record "product_mapping_not_found"
    ("No active product mapping exists for '" ++ record.externalSku ++ "'.") (some "external_sku")

def CanonicalInventoryRecord.warehouseMappingNotFound (record : CanonicalInventoryRecord) : AdapterError :=
  recordError record "warehouse_mapping_not_found"
    ("No active warehouse mapping exists for '" ++ record.externalLocation ++ "'.") (some "external_location")

/-- A statement a worker is about to execute for the record at hand. -/
structure RecordStatement where
  db : Database
  locks : Locks
  a : Applying
  record : CanonicalInventoryRecord
  rest : List CanonicalInventoryRecord

namespace RecordStatement

def outcome (t : RecordStatement) : Outcome Applying := t.a.validateAndApplyRecord t.db t.locks t.record t.rest

def RejectedWith (t : RecordStatement) (error : AdapterError) : Prop :=
  t.outcome = .next (t.a.reject t.db t.rest error)

end RecordStatement

/-- The upsert of an active mapping under `s`, and the lookup for a record with product key `s` among the mappings
it left. -/
structure ProductImport (hub : Hub) (s : PartnerText) where
  supplierId : Id
  productId : Id
  sourceUnit : UnitOfMeasure
  unitsPerSourceUnit : PositiveQuantity
  request : ProductMappingUpsert
  accepted : ProductMappingUpsert.validate supplierId s.text productId sourceUnit unitsPerSourceUnit true = some request
  after : Database
  upserted : upsertProductMapping hub.db request = .ok after
  lookup : RecordStatement
  phase : lookup.a.phase = .productLookup
  supplier : lookup.a.job.supplierId = supplierId
  mappings : lookup.db.productMappings = after.productMappings
  location : PartnerText
  sent : Sent s location lookup.record

/-- The lookup finds the row of the upsert and does not reject the record for want of one. -/
def ProductImport.Resolves {hub : Hub} {s : PartnerText} (i : ProductImport hub s) : Prop :=
  (∃ m ∈ i.after.productMappings, m.Of i.request ∧
    productMappingFor i.lookup.db i.supplierId i.lookup.record = some m) ∧
  ¬ i.lookup.RejectedWith i.lookup.record.productMappingNotFound

/-- The same for a location and the warehouse mapping. -/
structure WarehouseImport (hub : Hub) (s : PartnerText) where
  supplierId : Id
  warehouseId : Id
  request : WarehouseMappingUpsert
  accepted : WarehouseMappingUpsert.validate supplierId s.text warehouseId true = some request
  after : Database
  upserted : upsertWarehouseMapping hub.db request = .ok after
  lookup : RecordStatement
  productMapping : SupplierProductMapping
  phase : lookup.a.phase = .warehouseLookup productMapping
  supplier : lookup.a.job.supplierId = supplierId
  mappings : lookup.db.warehouseMappings = after.warehouseMappings
  sku : PartnerText
  sent : Sent sku s lookup.record

def WarehouseImport.Resolves {hub : Hub} {s : PartnerText} (i : WarehouseImport hub s) : Prop :=
  (∃ w ∈ i.after.warehouseMappings, w.Of i.request ∧
    warehouseMappingFor i.lookup.db i.supplierId i.lookup.record = some w) ∧
  ¬ i.lookup.RejectedWith i.lookup.record.warehouseMappingNotFound

section
variable {env : Env} {hub : Hub} {s : PartnerText} {db : Database} {supplierId : Id} {t : RecordStatement}
    {record : CanonicalInventoryRecord} {m : SupplierProductMapping} {w : SupplierWarehouseMapping}

theorem Sent.sku {location : PartnerText} (sent : Sent s location record) : record.externalSku = s.text := by
  cases sent with
  | supplierA _ _ _ _ itemNumber => exact congrArg PartnerText.text itemNumber
  | supplierB _ _ _ partnerSku => exact congrArg PartnerText.text partnerSku

theorem Sent.location {sku : PartnerText} (sent : Sent sku s record) : record.externalLocation = s.text := by
  cases sent with
  | supplierA _ _ _ _ _ place => exact congrArg PartnerText.text place
  | supplierB _ _ _ _ depot => exact congrArg PartnerText.text depot

theorem adaptRows_sent {modelValidate : ModelValidate} {n : Nat} {raws : List RawRow} {result : InventoryAdapterResult}
    (h : adaptRows modelValidate n raws = .ok result) :
    ∀ record ∈ result.records, ∃ sku location, Sent sku location record := by
  induction raws generalizing n result with
  | nil =>
    cases h
    simp
  | cons raw rest ih =>
    rw [adaptRows] at h
    split at h
    · split at h
      · contradiction
      · rename_i adapted
        cases h
        intro record member
        exact ih adapted record member
    · rename_i row _
      split at h
      · contradiction
      · rename_i observedAt _
        split at h
        · contradiction
        · rename_i adapted
          cases h
          intro record member
          rcases List.mem_cons.mp member with rfl | later
          · exact ⟨_, _, .supplierB row observedAt n rfl rfl⟩
          · exact ih adapted record later

/-- Every record an adapter returns has the keys of an item or a row, as they were written there. -/
theorem adapt_sent {modelValidate : ModelValidate} {source : InventorySource} {result : InventoryAdapterResult}
    (h : source.adapt modelValidate = .ok result) :
    ∀ record ∈ result.records, ∃ sku location, Sent sku location record := by
  cases adapt_adapted h with
  | payload observedAt =>
    intro record member
    obtain ⟨entry, -, rfl⟩ := List.mem_map.mp member
    exact ⟨_, _, .supplierA _ entry.1 observedAt entry.2 rfl rfl⟩
  | refused => simp
  | rows _ adapted => exact adaptRows_sent adapted

theorem productMappingFor_only (unique : (db.productMappings.map SupplierProductMapping.key).Nodup)
    (present : m ∈ db.productMappings) (named : m.key = (supplierId, record.externalSku)) (active : m.active = true) :
    productMappingFor db supplierId record = some m := by
  cases found : productMappingFor db supplierId record with
  | none =>
    have fails := List.find?_eq_none.mp found m present
    rw [SupplierProductMapping.key, Prod.mk.injEq] at named
    simp [named, active] at fails
  | some other =>
    obtain ⟨member, key⟩ := productMappingFor_found found
    rw [List.inj_on_of_nodup_map unique member present (key.trans named.symm)]

theorem warehouseMappingFor_only (unique : (db.warehouseMappings.map SupplierWarehouseMapping.key).Nodup)
    (present : w ∈ db.warehouseMappings) (named : w.key = (supplierId, record.externalLocation))
    (active : w.active = true) : warehouseMappingFor db supplierId record = some w := by
  cases found : warehouseMappingFor db supplierId record with
  | none =>
    have fails := List.find?_eq_none.mp found w present
    rw [SupplierWarehouseMapping.key, Prod.mk.injEq] at named
    simp [named, active] at fails
  | some other =>
    obtain ⟨member, key⟩ := warehouseMappingFor_found found
    rw [List.inj_on_of_nodup_map unique member present (key.trans named.symm)]

theorem product_found (phase : t.a.phase = .productLookup)
    (found : productMappingFor t.db t.a.job.supplierId t.record = some m) :
    ¬ t.RejectedWith t.record.productMappingNotFound := by
  have outcome : t.outcome = .next { t.a with phase := .warehouseLookup m } := by
    unfold RecordStatement.outcome Applying.validateAndApplyRecord
    rw [phase]
    unfold productMappingFor at found
    simp only [found]
  intro rejected
  have phases := congrArg Applying.phase (Outcome.next.inj (outcome.symm.trans rejected))
  exact absurd phases (by simp [Applying.reject])

/-- With the warehouse mapping found, the record goes on or is rejected for its unit. -/
theorem warehouse_outcome (phase : t.a.phase = .warehouseLookup m)
    (found : warehouseMappingFor t.db t.a.job.supplierId t.record = some w) :
    t.outcome = .next { t.a with phase := .positionLookup m w } ∨
      ∃ error, t.RejectedWith error ∧
        (error.code = "source_unit_mismatch" ∨ error.code = "unit_conversion_mismatch") := by
  unfold RecordStatement.RejectedWith RecordStatement.outcome Applying.validateAndApplyRecord
  rw [phase]
  unfold warehouseMappingFor at found
  simp only [found]
  by_cases unit : m.sourceUnit = t.record.sourceUnit
  · rw [if_neg (not_not.mpr unit)]
    cases t.record.unitsPerSourceUnit with
    | none => exact .inl rfl
    | some sent =>
      dsimp only
      by_cases factor : sent.value = m.unitsPerSourceUnit.value
      · rw [if_neg (not_not.mpr factor)]
        exact .inl rfl
      · rw [if_pos factor]
        exact .inr ⟨_, rfl, .inr rfl⟩
  · rw [if_pos unit]
    exact .inr ⟨_, rfl, .inl rfl⟩

theorem warehouse_found (phase : t.a.phase = .warehouseLookup m)
    (found : warehouseMappingFor t.db t.a.job.supplierId t.record = some w) :
    ¬ t.RejectedWith t.record.warehouseMappingNotFound := by
  intro rejected
  rcases warehouse_outcome phase found with outcome | ⟨error, other, code⟩
  · have phases := congrArg Applying.phase (Outcome.next.inj (outcome.symm.trans rejected))
    exact absurd phases (by simp [Applying.reject])
  · have same : t.record.warehouseMappingNotFound.code = error.code :=
      reject_code (congrArg Applying.newErrors (Outcome.next.inj (other.symm.trans rejected)))
    rw [← same] at code
    rcases code with unit | factor
    · have texts : "warehouse_mapping_not_found" = "source_unit_mismatch" := unit
      exact absurd texts (by decide)
    · have texts : "warehouse_mapping_not_found" = "unit_conversion_mismatch" := factor
      exact absurd texts (by decide)

theorem ProductImport.request_fields (i : ProductImport hub s) : i.request.supplierId = i.supplierId ∧
    i.request.externalSku = stripWhitespace s.text ∧ i.request.active = true := by
  obtain ⟨reference, valid, request⟩ := Option.map_eq_some_iff.mp i.accepted
  rw [← request, ← validate_text valid]
  exact ⟨rfl, rfl, rfl⟩

theorem WarehouseImport.request_fields (i : WarehouseImport hub s) : i.request.supplierId = i.supplierId ∧
    i.request.externalLocation = stripWhitespace s.text ∧ i.request.active = true := by
  obtain ⟨reference, valid, request⟩ := Option.map_eq_some_iff.mp i.accepted
  rw [← request, ← validate_text valid]
  exact ⟨rfl, rfl, rfl⟩

theorem ProductImport.resolves_iff (unique : hub.db.MappingsUnique) (i : ProductImport hub s) :
    i.Resolves ↔ ¬ Padded s.text := by
  obtain ⟨supplier, sku, active⟩ := i.request_fields
  rw [← stripped_iff, ← sku]
  constructor
  · rintro ⟨⟨m, -, row, found⟩, -⟩
    have named := (productMappingFor_found found).2
    rw [row.key, i.sent.sku] at named
    exact (Prod.mk.inj named).2
  · intro same
    obtain ⟨m, present, row⟩ := upsertProductMapping_leaves i.upserted
    have found : productMappingFor i.lookup.db i.supplierId i.lookup.record = some m := by
      apply productMappingFor_only
      · rw [i.mappings]
        exact (upsertProductMapping_unique unique i.upserted).products
      · rw [i.mappings]
        exact present
      · rw [row.key, supplier, same, i.sent.sku]
      · exact row.active.trans active
    refine ⟨⟨m, present, row, found⟩, ?_⟩
    rw [← i.supplier] at found
    exact product_found i.phase found

theorem WarehouseImport.resolves_iff (unique : hub.db.MappingsUnique) (i : WarehouseImport hub s) :
    i.Resolves ↔ ¬ Padded s.text := by
  obtain ⟨supplier, location, active⟩ := i.request_fields
  rw [← stripped_iff, ← location]
  constructor
  · rintro ⟨⟨w, -, row, found⟩, -⟩
    have named := (warehouseMappingFor_found found).2
    rw [row.key, i.sent.location] at named
    exact (Prod.mk.inj named).2
  · intro same
    obtain ⟨w, present, row⟩ := upsertWarehouseMapping_leaves i.upserted
    have found : warehouseMappingFor i.lookup.db i.supplierId i.lookup.record = some w := by
      apply warehouseMappingFor_only
      · rw [i.mappings]
        exact (upsertWarehouseMapping_unique unique i.upserted).warehouses
      · rw [i.mappings]
        exact present
      · rw [row.key, supplier, same, i.sent.location]
      · exact row.active.trans active
    refine ⟨⟨w, present, row, found⟩, ?_⟩
    rw [← i.supplier] at found
    exact warehouse_found i.phase found

end

/-- A key resolves to the mapping upserted under it just when stripping leaves it as it is. -/
theorem partner_key_resolves_iff {env : Env} {hub : Hub} (reached : Hub.Reachable env hub) (s : PartnerText) :
    (∀ i : ProductImport hub s, i.Resolves ↔ ¬ Padded s.text) ∧
      ∀ i : WarehouseImport hub s, i.Resolves ↔ ¬ Padded s.text :=
  ⟨fun i => i.resolves_iff (reachable_unique reached), fun i => i.resolves_iff (reachable_unique reached)⟩

namespace Small

theorem case_positive : (0 : ℤ) < 12000 := by decide

theorem article_bounds : 1 ≤ "B-2".length ∧ "B-2".length ≤ 100 := by decide

theorem articleRef_bounds : 1 ≤ "SNAP-1".length ∧ "SNAP-1".length ≤ 100 := by decide

theorem articleCount_fits : (3000 : ℤ).natAbs < 10 ^ 18 := by decide

theorem articleCount_nonnegative : (0 : ℤ) ≤ 3000 := by decide

/-- What becomes of a mapping sent for the article "B-2", however it is padded. -/
def article : ProductMappingUpsert where
  supplierId := 1
  externalSku := "B-2"
  productId := 10
  sourceUnit := .case
  unitsPerSourceUnit := ⟨12000, case_fits⟩
  positive := case_positive

def articleMapped : Database := { hub.db with productMappings := hub.db.productMappings ++ [newProductMapping article] }

/-- A line of the file for the article as the partner writes it. -/
def articleRow (s : PartnerText) : SupplierBInventoryRow :=
  { partnerRow ⟨"SNAP-1", articleRef_bounds⟩ threePm ⟨⟨3000, articleCount_fits⟩, articleCount_nonnegative⟩ with
    partnerSku := s }

theorem article_accepted {s : PartnerText} (same : stripWhitespace s.text = "B-2") :
    ProductMappingUpsert.validate 1 s.text 10 .case
      { thousandths := 12000, fits := case_fits, positive := case_positive } true = some article := by
  have accepted : ExternalReference.validate s.text = some ⟨"B-2", article_bounds⟩ := validate_some same
  unfold ProductMappingUpsert.validate
  rw [accepted]
  rfl

def articleImport (s : PartnerText) (same : stripWhitespace s.text = "B-2") : ProductImport hub s where
  supplierId := 1
  productId := 10
  sourceUnit := .case
  unitsPerSourceUnit := { thousandths := 12000, fits := case_fits, positive := case_positive }
  request := article
  accepted := article_accepted same
  after := articleMapped
  upserted := rfl
  lookup := {
    db := articleMapped
    locks := { sourceKey := fun _ => false, position := fun _ => false }
    a := { Applying.start articleMapped session { records := [], errors := [] } [] with phase := .productLookup }
    record := (articleRow s).record 0 2
    rest := [] }
  phase := rfl
  supplier := rfl
  mappings := rfl
  location := (articleRow s).depot
  sent := .supplierB (articleRow s) 0 2 rfl rfl

theorem depot_bounds : 1 ≤ "WEST".length ∧ "WEST".length ≤ 100 := by decide

/-- What becomes of a mapping sent for the depot "WEST". -/
def depot : WarehouseMappingUpsert where
  supplierId := 1
  externalLocation := "WEST"
  warehouseId := 20

def depotMapped : Database :=
  { hub.db with warehouseMappings := hub.db.warehouseMappings ++ [newWarehouseMapping depot] }

def depotRow (s : PartnerText) : SupplierBInventoryRow := { articleRow ⟨"B-2", article_bounds⟩ with depot := s }

theorem depot_accepted {s : PartnerText} (same : stripWhitespace s.text = "WEST") :
    WarehouseMappingUpsert.validate 1 s.text 20 true = some depot := by
  have accepted : ExternalReference.validate s.text = some ⟨"WEST", depot_bounds⟩ := validate_some same
  unfold WarehouseMappingUpsert.validate
  rw [accepted]
  rfl

def depotImport (s : PartnerText) (same : stripWhitespace s.text = "WEST") : WarehouseImport hub s where
  supplierId := 1
  warehouseId := 20
  request := depot
  accepted := depot_accepted same
  after := depotMapped
  upserted := rfl
  lookup := {
    db := depotMapped
    locks := { sourceKey := fun _ => false, position := fun _ => false }
    a := { Applying.start depotMapped session { records := [], errors := [] } [] with
      phase := .warehouseLookup (newProductMapping article) }
    record := (depotRow s).record 0 2
    rest := [] }
  productMapping := newProductMapping article
  phase := rfl
  supplier := rfl
  mappings := rfl
  sku := (depotRow s).partnerSku
  sent := .supplierB (depotRow s) 0 2 rfl rfl

end Small

/-- Keys of both kinds, without white space at their ends and with it. -/
theorem partner_key_resolves :
    (Small.articleImport ⟨"B-2", by decide⟩ (by decide)).Resolves ∧
    (Small.depotImport ⟨"WEST", by decide⟩ (by decide)).Resolves ∧
    ¬ (Small.depotImport ⟨"WEST ", by decide⟩ (by decide)).Resolves := by
  have reached : Hub.Reachable Small.env Small.hub := .start Small.initial
  refine ⟨?_, ?_, ?_⟩
  · exact ((partner_key_resolves_iff reached ⟨"B-2", by decide⟩).1 _).mpr (by decide)
  · exact ((partner_key_resolves_iff reached ⟨"WEST", by decide⟩).2 _).mpr (by decide)
  · exact fun resolves => ((partner_key_resolves_iff reached ⟨"WEST ", by decide⟩).2 _).mp resolves (by decide)

/-- The mapping is kept under "B-2", and a line with " B-2 " is rejected. -/
theorem padded_key_not_found : ∃ (hub : Hub) (s : PartnerText) (i : ProductImport hub s),
    Hub.Reachable Small.env hub ∧ s.text = " B-2 " ∧ ¬ i.Resolves ∧
      i.lookup.RejectedWith i.lookup.record.productMappingNotFound := by
  have rejected : (Small.articleImport ⟨" B-2 ", by decide⟩ (by decide)).lookup.RejectedWith
      (Small.articleImport ⟨" B-2 ", by decide⟩ (by decide)).lookup.record.productMappingNotFound := rfl
  exact ⟨Small.hub, ⟨" B-2 ", by decide⟩, _, .start Small.initial, rfl, fun resolves => resolves.2 rejected, rejected⟩

end SupplyChainHub
