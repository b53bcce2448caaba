import Mathlib.Data.List.Nodup
import SupplyChainHub.Imports.Transactions
import SupplyChainHub.Library.Versions

/-!
Partner mappings under concurrent editors and importers. An edit raises the version it read, without a
lock; an import notes the version of each mapping it used. A version identifies one configuration just as
long as every edit was computed from the version it replaces.
-/

namespace SupplyChainHub

open Versions

/-! ### The two tables -/

/-- A mapping table: its rows, what a row is read as, what a snapshot notes of it, and the row a search
has in hand. -/
structure MappingTable (α κ γ : Type) where
  rows : Database → List α
  read : α → Reading κ γ
  noted : InventorySnapshot → Reading κ γ
  held : RecordPhase → Option α
  idle : held .duplicateCheck = none := by rfl

def RecordPhase.productMapping? : RecordPhase → Option SupplierProductMapping
  | .warehouseLookup m | .positionLookup m _ | .flush m _ _ => some m
  | .duplicateCheck | .productLookup => none

def RecordPhase.warehouseMapping? : RecordPhase → Option SupplierWarehouseMapping
  | .positionLookup _ w | .flush _ w _ => some w
  | .duplicateCheck | .productLookup | .warehouseLookup _ => none

def productTable : MappingTable SupplierProductMapping (Id × String) (Id × UnitOfMeasure × Numeric183) where
  rows := (·.productMappings)
  read m := ⟨m.key, m.version, (m.productId, m.sourceUnit, m.unitsPerSourceUnit)⟩
  noted s := ⟨(s.supplierId, s.externalSku), s.productMappingVersion,
    (s.productId, s.sourceUnit, s.unitsPerSourceUnit)⟩
  held := RecordPhase.productMapping?

def warehouseTable : MappingTable SupplierWarehouseMapping (Id × String) Id where
  rows := (·.warehouseMappings)
  read w := ⟨w.key, w.version, w.warehouseId⟩
  noted s := ⟨(s.supplierId, s.externalLocation), s.warehouseMappingVersion, s.warehouseId⟩
  held := RecordPhase.warehouseMapping?

namespace MappingTable

variable {α κ γ : Type} (T : MappingTable α κ γ)

def current (db : Database) : Set (Reading κ γ) := taken T.read (T.rows db)

/-- What an open transaction knows of the table: its own snapshots and the row in hand. -/
def known (a : Applying) : List (Reading κ γ) :=
  a.snapshots.map T.noted ++ ((T.held a.phase).map T.read).toList

/-- Every reading of the table there is: committed snapshots, and what open transactions know. -/
def readings (hub : Hub) : Set (Reading κ γ) :=
  {r | (∃ s ∈ hub.db.snapshots, T.noted s = r) ∨
    ∃ (d : Nat) (x : Delivery) (a : Applying), hub.deliveries[d]? = some x ∧ x.transaction? = some a ∧
      r ∈ T.known a}

end MappingTable

/-! ### The record in hand -/

/-- The mappings in hand are those of the record, with its unit. -/
def RecordPhase.For (supplierId : Id) (record : CanonicalInventoryRecord) : RecordPhase → Prop
  | .duplicateCheck | .productLookup => True
  | .warehouseLookup m => m.key = (supplierId, record.externalSku)
  | .positionLookup m w | .flush m w _ =>
    m.key = (supplierId, record.externalSku) ∧ m.sourceUnit = record.sourceUnit ∧
      w.key = (supplierId, record.externalLocation)

def Applying.Searching (a : Applying) : Prop :=
  ∀ record rest, a.records = record :: rest → a.phase.For a.job.supplierId record

section
variable {db : Database} {locks : Locks} {a b : Applying} {record : CanonicalInventoryRecord}
    {rest : List CanonicalInventoryRecord}

theorem RecordProgress.searching (progress : RecordProgress db locks a record rest b)
    (records : a.records = record :: rest) (searching : a.Searching) : b.Searching := by
  have mine := searching record rest records
  intro head tail same
  cases progress with
  | rejected | unseen => exact trivial
  | product _ found =>
    obtain ⟨rfl, rfl⟩ := List.cons.inj (records.symm.trans same)
    exact (productMappingFor_found found).2
  | warehouse phase found agrees =>
    obtain ⟨rfl, rfl⟩ := List.cons.inj (records.symm.trans same)
    rw [phase] at mine
    exact ⟨mine, agrees.1, (warehouseMappingFor_found found).2⟩
  | position phase =>
    obtain ⟨rfl, rfl⟩ := List.cons.inj (records.symm.trans same)
    rw [phase] at mine
    exact mine
  | flushed _ _ _ after =>
    rw [after]
    exact trivial

/-- A statement learns of a mapping table only what it finds there. -/
def MappingTable.Learns {α κ γ : Type} (T : MappingTable α κ γ) : Prop :=
  ∀ {db : Database} {locks : Locks} {a b : Applying} {record : CanonicalInventoryRecord}
      {rest : List CanonicalInventoryRecord}, a.records = record :: rest → a.Searching →
      RecordProgress db locks a record rest b →
      ∀ r ∈ T.known b, r ∈ T.known a ∨ r ∈ T.current db

theorem known_snapshots {α κ γ : Type} {T : MappingTable α κ γ} {r : Reading κ γ}
    (member : r ∈ a.snapshots.map T.noted) : r ∈ T.known a := List.mem_append_left _ member

theorem known_held {α κ γ : Type} {T : MappingTable α κ γ} {row : α} (held : T.held a.phase = some row) :
    T.read row ∈ T.known a := by
  unfold MappingTable.known
  rw [held]
  exact List.mem_append_right _ List.mem_cons_self

theorem known_cases {α κ γ : Type} {T : MappingTable α κ γ} {r : Reading κ γ} (member : r ∈ T.known a) :
    r ∈ a.snapshots.map T.noted ∨ ∃ row, T.held a.phase = some row ∧ r = T.read row := by
  rcases List.mem_append.mp member with noted | held
  · exact .inl noted
  · obtain ⟨row, found, rfl⟩ := Option.map_eq_some_iff.mp (Option.mem_toList.mp held)
    exact .inr ⟨row, found, rfl⟩

theorem productTable_learns : productTable.Learns := by
  intro db locks a b record rest records searching progress r member
  have mine := searching record rest records
  rcases known_cases member with noted | ⟨row, held, rfl⟩
  · cases progress with
    | rejected | unseen | product | warehouse | position => exact .inl (known_snapshots noted)
    | @flushed m w found _ phase _ _ _ _ _ _ write _ snapshots =>
      rw [snapshots, List.map_append, List.mem_append] at noted
      rcases noted with old | new
      · exact .inl (known_snapshots old)
      · -- the snapshot notes the mapping in hand, whose unit was compared with the record's
        rw [phase] at mine
        obtain ⟨named, unit, -⟩ := mine
        have same : productTable.noted
            (recordSnapshot a.job.id a.job.supplierId record m w write.storedOnHand write.storedReserved) =
              productTable.read m := by
          show Reading.mk _ _ _ = Reading.mk _ _ _
          rw [named, unit]
          rfl
        rw [List.map_singleton, List.mem_singleton, same] at new
        rw [new]
        exact .inl (known_held (congrArg RecordPhase.productMapping? phase))
  · cases progress with
    | rejected | unseen => contradiction
    | product _ found =>
      cases held
      exact .inr ⟨_, (productMappingFor_found found).1, rfl⟩
    | warehouse phase | position phase =>
      cases held
      exact .inl (known_held (congrArg RecordPhase.productMapping? phase))
    | flushed _ _ _ after =>
      rw [after] at held
      contradiction

theorem warehouseTable_learns : warehouseTable.Learns := by
  intro db locks a b record rest records searching progress r member
  have mine := searching record rest records
  rcases known_cases member with noted | ⟨row, held, rfl⟩
  · cases progress with
    | rejected | unseen | product | warehouse | position => exact .inl (known_snapshots noted)
    | @flushed m w found _ phase _ _ _ _ _ _ write _ snapshots =>
      rw [snapshots, List.map_append, List.mem_append] at noted
      rcases noted with old | new
      · exact .inl (known_snapshots old)
      · rw [phase] at mine
        obtain ⟨-, -, named⟩ := mine
        have same : warehouseTable.noted
            (recordSnapshot a.job.id a.job.supplierId record m w write.storedOnHand write.storedReserved) =
              warehouseTable.read w := by
          show Reading.mk _ _ _ = Reading.mk _ _ _
          rw [named]
          rfl
        rw [List.map_singleton, List.mem_singleton, same] at new
        rw [new]
        exact .inl (known_held (congrArg RecordPhase.warehouseMapping? phase))
  · cases progress with
    | rejected | unseen | product => contradiction
    | warehouse _ found =>
      cases held
      exact .inr ⟨_, (warehouseMappingFor_found found).1, rfl⟩
    | position phase =>
      cases held
      exact .inl (known_held (congrArg RecordPhase.warehouseMapping? phase))
    | flushed _ _ _ after =>
      rw [after] at held
      contradiction

theorem start_searching (session : WorkerSession) (result : InventoryAdapterResult)
    (events : List OperationEvent) : (Applying.start db session result events).phase = .duplicateCheck := by
  apply Applying.start_invariant (P := fun a => a.phase = .duplicateCheck)
  · intro a error same
    exact same
  · rfl

end

/-! ### Steps -/

/-- What an edit would change in the mapping it loaded: the `changed` of `upsert_product_mapping`. -/
def ProductMappingUpsert.Changed (request : ProductMappingUpsert) (m : SupplierProductMapping) : Prop :=
  m.productId ≠ request.productId ∨ m.sourceUnit ≠ request.sourceUnit ∨
    m.unitsPerSourceUnit ≠ request.unitsPerSourceUnit ∨ m.active ≠ request.active

/-- The `changed` of `upsert_warehouse_mapping`. -/
def WarehouseMappingUpsert.Changed (request : WarehouseMappingUpsert) (w : SupplierWarehouseMapping) : Prop :=
  w.warehouseId ≠ request.warehouseId ∨ w.active ≠ request.active

/-- The edit, if it changes what it loaded, replaces no later version. -/
def MappingCall.Latest (db : Database) : MappingCall → Prop
  | .product request (some loaded) => request.Changed loaded →
    ∀ m ∈ db.productMappings, m.key = loaded.key → m.version ≤ loaded.version
  | .warehouse request (some loaded) => request.Changed loaded →
    ∀ w ∈ db.warehouseMappings, w.key = loaded.key → w.version ≤ loaded.version
  | _ => True

/-- No step commits an edit over a version later than the one it was computed from. -/
def EditsLatest (hub : Hub) : Label → Prop
  | .mappingCommit call => ∀ edit ∈ hub.mappingCalls[call]?, edit.Latest hub.db
  | _ => True

section
variable {env : Env} {hub next : Hub} {l : Label} {db after : Database}

theorem productMapping_write {request : ProductMappingUpsert} {loaded : Option SupplierProductMapping}
    (latest : (MappingCall.product request loaded).Latest db)
    (h : upsertProductMappingCommit db request loaded = .ok after) :
    Write productTable.read db.productMappings after.productMappings ∧
      after.warehouseMappings = db.warehouseMappings := by
  unfold upsertProductMappingCommit at h
  split at h
  · split at h
    · contradiction
    · rename_i free
      cases h
      refine ⟨.insert _ ?_, rfl⟩
      intro m present same
      exact free (List.any_eq_true.mpr ⟨m, present, decide_eq_true same⟩)
  · rename_i mapping
    cases h
    refine ⟨.update mapping.key _ (fun _ same => same) ?_, rfl⟩
    intro m present same
    unfold changedProductMapping
    split
    · rename_i changed
      right
      have before := latest changed m present same
      show m.version < Columns.writeBack mapping.version (mapping.version + 1) m.version
      rw [Columns.writeBack_dirty (Nat.succ_ne_self _)]
      omega
    · left
      simp [productTable, SupplierProductMapping.writeBack, SupplierProductMapping.key]

theorem warehouseMapping_write {request : WarehouseMappingUpsert} {loaded : Option SupplierWarehouseMapping}
    (latest : (MappingCall.warehouse request loaded).Latest db)
    (h : upsertWarehouseMappingCommit db request loaded = .ok after) :
    Write warehouseTable.read db.warehouseMappings after.warehouseMappings ∧
      after.productMappings = db.productMappings := by
  unfold upsertWarehouseMappingCommit at h
  split at h
  · split at h
    · contradiction
    · rename_i free
      cases h
      refine ⟨.insert _ ?_, rfl⟩
      intro w present same
      exact free (List.any_eq_true.mpr ⟨w, present, decide_eq_true same⟩)
  · rename_i mapping
    cases h
    refine ⟨.update mapping.key _ (fun _ same => same) ?_, rfl⟩
    intro w present same
    unfold changedWarehouseMapping
    split
    · rename_i changed
      right
      have before := latest changed w present same
      show w.version < Columns.writeBack mapping.version (mapping.version + 1) w.version
      rw [Columns.writeBack_dirty (Nat.succ_ne_self _)]
      omega
    · left
      simp [warehouseTable, SupplierWarehouseMapping.writeBack, SupplierWarehouseMapping.key]

/-- A step writes a mapping table once, at most, and raises the version of what it changes. -/
theorem step_writes (ledger : Ledger hub.db) (latest : EditsLatest hub l) (h : Hub.step env hub l = some next) :
    Write productTable.read hub.db.productMappings next.db.productMappings ∧
      Write warehouseTable.read hub.db.warehouseMappings next.db.warehouseMappings := by
  have kept (products : next.db.productMappings = hub.db.productMappings)
      (warehouses : next.db.warehouseMappings = hub.db.warehouseMappings) :
      Write productTable.read hub.db.productMappings next.db.productMappings ∧
        Write warehouseTable.read hub.db.warehouseMappings next.db.warehouseMappings := by
    rw [products, warehouses]
    exact ⟨.none, .none⟩
  by_cases edit : ∃ call, l = .mappingCommit call
  · obtain ⟨call, rfl⟩ := edit
    simp only [Hub.step, Hub.mappingCommit] at h
    split at h
    · rename_i request loaded present
      cases h
      cases outcome : upsertProductMappingCommit hub.db request loaded with
      | error => exact ⟨.none, .none⟩
      | ok db =>
        obtain ⟨write, same⟩ := productMapping_write (latest _ present) outcome
        exact ⟨write, same ▸ .none⟩
    · rename_i request loaded present
      cases h
      cases outcome : upsertWarehouseMappingCommit hub.db request loaded with
      | error => exact ⟨.none, .none⟩
      | ok db =>
        obtain ⟨write, same⟩ := warehouseMapping_write (latest _ present) outcome
        exact ⟨same ▸ .none, write⟩
    · contradiction
  · have master := step_master ledger h fun call same => edit ⟨call, same⟩
    exact kept master.productMappings master.warehouseMappings

def Hub.Searching (hub : Hub) : Prop :=
  ∀ (d : Nat) (x : Delivery) (a : Applying), hub.deliveries[d]? = some x → x.transaction? = some a → a.Searching

theorem effect_searching (searching : hub.Searching) (effect : Effect env hub next l) : next.Searching := by
  intro d y b found opened
  cases effect_delivery effect found with
  | kept present => exact searching d y b present opened
  | delivered | claimed | committed | reported => contradiction
  | advanced present advance =>
    cases advance with
    | adapted | raised | done => contradiction
    | started session result events =>
      cases opened
      intro record rest _
      rw [start_searching]
      exact trivial
    | recorded records applied =>
      cases opened
      exact (record_progress applied).searching records (searching d _ _ present rfl)
    | summarised records =>
      cases opened
      intro record rest same
      exact absurd (records.symm.trans same) (List.cons_ne_nil _ _).symm

theorem reachable_searching (reached : Hub.Reachable env hub) : hub.Searching := by
  refine reached.invariant (P := Hub.Searching) ?_ ?_
  · intro start begins d x a found
    rw [begins.deliveries] at found
    contradiction
  · intro s l t searching h
    exact effect_searching searching (step_effect h)

theorem effect_readings {α κ γ : Type} {T : MappingTable α κ γ} (learns : T.Learns) (ledger : Ledger hub.db)
    (searching : hub.Searching) (effect : Effect env hub next l) :
    T.readings next ⊆ T.readings hub ∪ T.current hub.db := by
  have open_ {d : Nat} {x : Delivery} {a : Applying} {r : Reading κ γ} (found : hub.deliveries[d]? = some x)
      (opened : x.transaction? = some a) (member : r ∈ T.known a) : r ∈ T.readings hub :=
    .inr ⟨d, x, a, found, opened, member⟩
  rintro r (⟨s, member, rfl⟩ | ⟨d, y, b, found, opened, member⟩)
  · left
    cases effect_lineage ledger effect with
    | kept _ snapshots =>
      rw [snapshots] at member
      exact .inl ⟨s, member, rfl⟩
    | completed closing _ _ snapshots =>
      rw [snapshots] at member
      rcases List.mem_append.mp member with old | mine
      · exact .inl ⟨s, old, rfl⟩
      · exact open_ closing rfl (known_snapshots (List.mem_map_of_mem mine))
  · cases effect_delivery effect found with
    | kept present => exact .inl (open_ present opened member)
    | delivered | claimed | committed | reported => contradiction
    | advanced present advance =>
      cases advance with
      | adapted | raised | done => contradiction
      | started session result events =>
        cases opened
        rcases known_cases member with noted | ⟨row, held, -⟩
        · rw [(start_work hub.db session result events).2.2.1] at noted
          contradiction
        · rw [start_searching, T.idle] at held
          contradiction
      | recorded records applied =>
        cases opened
        have progress := record_progress applied
        rcases learns records (searching d _ _ present rfl) progress r member with old | new
        · exact .inl (open_ present rfl old)
        · exact .inr new
      | summarised =>
        cases opened
        exact .inl (open_ present rfl member)

/-! ### Whole runs -/

/-- Snapshots of one supplier that name the same mapping at the same version agree on what it said. -/
structure VersionsIdentify (db : Database) : Prop where
  product : ∀ s ∈ db.snapshots, ∀ t ∈ db.snapshots, s.supplierId = t.supplierId →
    s.externalSku = t.externalSku → s.productMappingVersion = t.productMappingVersion →
      s.productId = t.productId ∧ s.sourceUnit = t.sourceUnit ∧ s.unitsPerSourceUnit = t.unitsPerSourceUnit
  warehouse : ∀ s ∈ db.snapshots, ∀ t ∈ db.snapshots, s.supplierId = t.supplierId →
    s.externalLocation = t.externalLocation → s.warehouseMappingVersion = t.warehouseMappingVersion →
      s.warehouseId = t.warehouseId

def MappingTable.Versioned {α κ γ : Type} (T : MappingTable α κ γ) (hub : Hub) : Prop :=
  Distinct T.read (T.rows hub.db) ∧ Sound (T.current hub.db) (T.readings hub)

theorem versioned_start {α κ γ : Type} {T : MappingTable α κ γ} (begins : Hub.Initial hub)
    (distinct : Distinct T.read (T.rows hub.db)) : T.Versioned hub := by
  refine ⟨distinct, (Sound.start distinct.single).observe ?_⟩
  rintro r (⟨s, member, -⟩ | ⟨d, x, a, found, -⟩)
  · rw [begins.snapshots] at member
    contradiction
  · rw [begins.deliveries] at found
    contradiction

theorem versioned_step {α κ γ : Type} [DecidableEq κ] {T : MappingTable α κ γ} (learns : T.Learns)
    (ledger : Ledger hub.db) (searching : hub.Searching) (effect : Effect env hub next l)
    (write : Write T.read (T.rows hub.db) (T.rows next.db)) (versioned : T.Versioned hub) :
    T.Versioned next := by
  obtain ⟨distinct, sound⟩ := versioned
  have observed := sound.observe (effect_readings learns ledger searching effect)
  exact ⟨write.distinct distinct, write.sound distinct observed⟩

theorem versioned_agree {α κ γ : Type} {T : MappingTable α κ γ} (versioned : T.Versioned hub)
    {s t : InventorySnapshot} (first : s ∈ hub.db.snapshots) (second : t ∈ hub.db.snapshots)
    (key : (T.noted s).key = (T.noted t).key) (version : (T.noted s).version = (T.noted t).version) :
    (T.noted s).config = (T.noted t).config :=
  congrArg Reading.config
    (versioned.2.agree (.inl ⟨s, first, rfl⟩) (.inl ⟨t, second, rfl⟩) (Prod.ext key version))

/-- In a run whose edits replace no later version than the one they were computed from, whatever imports
run between them, a mapping version identifies one configuration. -/
theorem version_identifies_configuration {start : Hub} (begins : Hub.Initial start)
    (run : Hub.Run env EditsLatest start hub) : VersionsIdentify hub.db := by
  have both : productTable.Versioned hub ∧ warehouseTable.Versioned hub := by
    refine run.invariant_reachable (P := fun hub => productTable.Versioned hub ∧ warehouseTable.Versioned hub)
      ?_ (.start begins) ⟨versioned_start begins begins.productMappings,
        versioned_start begins begins.warehouseMappings⟩
    rintro s l t reached ⟨products, warehouses⟩ latest step
    have ledger := reachable_ledger reached
    have searching := reachable_searching reached
    obtain ⟨product, warehouse⟩ := step_writes ledger latest step
    exact ⟨versioned_step productTable_learns ledger searching (step_effect step) product products,
      versioned_step warehouseTable_learns ledger searching (step_effect step) warehouse warehouses⟩
  obtain ⟨products, warehouses⟩ := both
  constructor
  · intro s first t second supplier sku version
    have same := versioned_agree products first second (Prod.ext supplier sku) version
    obtain ⟨product, unit, factor⟩ := Prod.mk.inj same |>.imp_right Prod.mk.inj
    exact ⟨product, unit, factor⟩
  · intro s first t second supplier location version
    exact versioned_agree warehouses first second (Prod.ext supplier location) version

end

/-! ### Two lines and two edits -/

instance (request : ProductMappingUpsert) (m : SupplierProductMapping) : Decidable (request.Changed m) :=
  inferInstanceAs (Decidable (_ ∨ _ ∨ _ ∨ _))

instance (request : WarehouseMappingUpsert) (w : SupplierWarehouseMapping) : Decidable (request.Changed w) :=
  inferInstanceAs (Decidable (_ ∨ _))

instance (db : Database) (edit : MappingCall) : Decidable (edit.Latest db) :=
  match edit with
  | .product _ (some _) | .warehouse _ (some _) => inferInstanceAs (Decidable (_ → _))
  | .product _ none | .warehouse _ none | .returned | .raised _ => inferInstanceAs (Decidable True)

instance (hub : Hub) (l : Label) : Decidable (EditsLatest hub l) :=
  match l with
  | .mappingCommit _ => inferInstanceAs (Decidable (∀ _ ∈ _, _))
  | .submit _ | .replay _ _ _ | .lookup _ | .put _ _ _ | .insert _ _ _ | .dispatchRead _ | .dispatchWrite _ _
  | .deliver _ _ _ | .claim _ _ | .adapt _ _ _ | .start _ | .record _ | .summarise _ | .complete _ _
  | .raise _ _ | .report _ _ | .stop _ | .recover _ _ | .inventoryRead _ _ _ | .inventoryCommit _
  | .productMappingRead _ | .warehouseMappingRead _ => inferInstanceAs (Decidable True)

namespace Small

/-- Two lines for one partner article: in cases of 24, then in cases of 6. -/
def repackedFile : ByteArray :=
  ("snapshot_ref,as_of,partner_sku,depot,case_count,units_per_case\n" ++
    "SNAP-1,2026-07-29T15:00:00Z,B-1,EAST,3,24\nSNAP-2,2026-07-29T16:00:00Z,B-1,EAST,5,6\n").toUTF8

def repackedDigest : String := "f063cb3a6fd4c01aaa38091413bd40039b4ca6b00c2a4342d230a21811bff9af"

def repackedEnv : Env where
  settings := env.settings
  sha256 _ := repackedDigest
  adapter _ _ := .ok { records := [
    { line with unitsPerSourceUnit := some ⟨24, "24"⟩ },
    { line with
      sourceReference := "SNAP-2"
      sourceRow := 3
      observedAt := seconds 1785340800
      onHandQuantity := 5
      unitsPerSourceUnit := some ⟨6, "6"⟩ }] }

def repackedImport : List Label :=
  [.submit { request with content := repackedFile, contentSha256 := repackedDigest }, .lookup 0,
    .put 0 .stored (moment 0), .insert 0 1 (moment 0)] ++ claimed 0 (moment 1) ++ applied 0 (moment 1)

def repack (units : Int) (fits : units.natAbs < 10 ^ 18 := by decide) (positive : 0 < units := by decide) :
    ProductMappingUpsert where
  supplierId := 1
  externalSku := "B-1"
  productId := 10
  sourceUnit := .case
  unitsPerSourceUnit := numeric units fits
  positive := positive

end Small

/-- An edit before the first line and one between the lines, each over the version it read: two
configurations, at two versions. -/
theorem version_identifies_configuration_edited : ∃ hub, Hub.Run Small.repackedEnv EditsLatest Small.hub hub ∧
    hub.db.snapshots.map (fun s => (s.productMappingVersion, s.unitsPerSourceUnit)) =
      [(2, Small.numeric 24000), (3, Small.numeric 6000)] ∧ VersionsIdentify hub.db := by
  have shown : (Machine.exec (Machine.checked (Hub.step Small.repackedEnv) fun hub l =>
      decide (EditsLatest hub l)) Small.hub
      ([.productMappingRead (Small.repack 24000), .mappingCommit 0] ++ Small.repackedImport ++
        [.productMappingRead (Small.repack 6000), .mappingCommit 1, .record 0, .record 0, .record 0, .record 0,
          .record 0] ++ Small.completed 0 (Small.moment 2))).any
        (fun hub => hub.db.snapshots.map (fun s => (s.productMappingVersion, s.unitsPerSourceUnit)) =
          [(2, Small.numeric 24000), (3, Small.numeric 6000)]) = true := by
    decide +kernel
  simp only [Option.any_eq_true, decide_eq_true_eq] at shown
  obtain ⟨hub, steps, noted⟩ := shown
  have run : Hub.Run Small.repackedEnv EditsLatest Small.hub hub :=
    Machine.exec_run_checked (fun _ _ => of_decide_eq_true) steps
  exact ⟨hub, run, noted, version_identifies_configuration Small.initial run⟩

/-- Two editors read version 1. The first commits its version 2 before the file's first line is imported,
the second its own version 2 before the next line. -/
theorem version_names_two_configurations : ∃ hub, Hub.Reachable Small.repackedEnv hub ∧
    ¬ VersionsIdentify hub.db := by
  have shown : (Machine.exec (Hub.step Small.repackedEnv) Small.hub
      ([.productMappingRead (Small.repack 24000), .productMappingRead (Small.repack 6000), .mappingCommit 0] ++
        Small.repackedImport ++ [.mappingCommit 1, .record 0, .record 0, .record 0, .record 0, .record 0] ++
        Small.completed 0 (Small.moment 2))).any
      (fun hub => hub.db.snapshots.map (fun s => ((s.supplierId, s.externalSku),
          (s.productMappingVersion, s.unitsPerSourceUnit))) =
        [((1, "B-1"), (2, Small.numeric 24000)), ((1, "B-1"), (2, Small.numeric 6000))]) = true := by
    decide +kernel
  simp only [Option.any_eq_true, decide_eq_true_eq] at shown
  obtain ⟨hub, steps, noted⟩ := shown
  refine ⟨hub, ⟨Small.hub, Small.initial, Machine.exec_run (fun _ _ _ => trivial) steps⟩, ?_⟩
  intro identify
  obtain ⟨s, rest, two, first, more⟩ := List.map_eq_cons_iff.mp noted
  obtain ⟨t, last, one, second, -⟩ := List.map_eq_cons_iff.mp more
  simp only [Prod.mk.injEq] at first second
  obtain ⟨⟨supplier, sku⟩, version, factor⟩ := first
  obtain ⟨⟨supplier', sku'⟩, version', factor'⟩ := second
  have presents : s ∈ hub.db.snapshots ∧ t ∈ hub.db.snapshots := by simp [two, one]
  obtain ⟨-, -, same⟩ := identify.product s presents.1 t presents.2 (supplier.trans supplier'.symm)
    (sku.trans sku'.symm) (version.trans version'.symm)
  rw [factor, factor'] at same
  exact absurd same (by decide)

end SupplyChainHub
