import SupplyChainHub.Imports.Changes

/-!
The open second transaction of a worker: what one statement of it does, and how the transaction a
delivery holds came about.
-/

namespace SupplyChainHub

structure SameWork (a b : Applying) : Prop where
  session : b.toWorkerSession = a.toWorkerSession
  accepted : b.accepted = a.accepted
  loadedErrors : b.loadedErrors = a.loadedErrors
  newErrors : b.newErrors = a.newErrors
  snapshots : b.snapshots = a.snapshots
  writes : b.writes = a.writes

/-- One statement for the record at hand: a search that goes on, a rejection, or the flush. -/
inductive RecordEffect (db : Database) (locks : Locks) (a : Applying) (record : CanonicalInventoryRecord)
    (rest : List CanonicalInventoryRecord) : Applying → Prop where
  | searched {b : Applying} (same : SameWork a b) : RecordEffect db locks a record rest b
  | rejected (error : AdapterError) (row : error.sourceRow = some record.sourceRow) :
      RecordEffect db locks a record rest (a.reject db rest error)
  | flushed {b : Applying} (snapshot : InventorySnapshot) (write : PositionWrite)
      (session : b.toWorkerSession = a.toWorkerSession)
      (loadedErrors : b.loadedErrors = a.loadedErrors) (newErrors : b.newErrors = a.newErrors)
      (snapshots : b.snapshots = a.snapshots ++ [snapshot]) (writes : b.writes = a.writes ++ [write])
      (unlocked : locks.sourceKey snapshot.sourceKey = false) (free : locks.position write.key = false)
      (fresh : a.imported db snapshot.sourceKey = false)
      (absent : write.loaded = none → ∀ p ∈ a.positions db, p.key ≠ write.key) :
      RecordEffect db locks a record rest b

/-- The snapshot of an accepted record. -/
def recordSnapshot (importJobId supplierId : Id) (record : CanonicalInventoryRecord)
    (productMapping : SupplierProductMapping) (warehouseMapping : SupplierWarehouseMapping)
    (onHand reserved : Numeric183) : InventorySnapshot where
  importJobId := importJobId
  supplierId := supplierId
  productId := productMapping.productId
  warehouseId := warehouseMapping.warehouseId
  sourceReference := record.sourceReference
  externalSku := record.externalSku
  externalLocation := record.externalLocation
  observedAt := record.observedAt
  onHandQuantity := onHand
  reservedQuantity := reserved
  sourceUnit := record.sourceUnit
  unitsPerSourceUnit := productMapping.unitsPerSourceUnit
  productMappingVersion := productMapping.version
  warehouseMappingVersion := warehouseMapping.version
  sourceRow := record.sourceRow

/-! ### The statements for a record -/

def productMappingFor (db : Database) (supplierId : Id) (record : CanonicalInventoryRecord) :
    Option SupplierProductMapping :=
  db.productMappings.find? fun m =>
    m.supplierId = supplierId && m.externalSku = record.externalSku && m.active

def warehouseMappingFor (db : Database) (supplierId : Id) (record : CanonicalInventoryRecord) :
    Option SupplierWarehouseMapping :=
  db.warehouseMappings.find? fun m =>
    m.supplierId = supplierId && m.externalLocation = record.externalLocation && m.active

theorem productMappingFor_found {db : Database} {supplierId : Id} {record : CanonicalInventoryRecord}
    {m : SupplierProductMapping} (h : productMappingFor db supplierId record = some m) :
    m ∈ db.productMappings ∧ m.key = (supplierId, record.externalSku) := by
  have chosen := List.find?_some h
  simp only [Bool.and_eq_true, decide_eq_true_eq] at chosen
  obtain ⟨⟨supplier, sku⟩, -⟩ := chosen
  exact ⟨List.mem_of_find?_eq_some h, Prod.ext supplier sku⟩

theorem warehouseMappingFor_found {db : Database} {supplierId : Id} {record : CanonicalInventoryRecord}
    {w : SupplierWarehouseMapping} (h : warehouseMappingFor db supplierId record = some w) :
    w ∈ db.warehouseMappings ∧ w.key = (supplierId, record.externalLocation) := by
  have chosen := List.find?_some h
  simp only [Bool.and_eq_true, decide_eq_true_eq] at chosen
  obtain ⟨⟨supplier, location⟩, -⟩ := chosen
  exact ⟨List.mem_of_find?_eq_some h, Prod.ext supplier location⟩

/-- The unit and conversion checks. -/
def SupplierProductMapping.Agrees (m : SupplierProductMapping) (record : CanonicalInventoryRecord) : Prop :=
  m.sourceUnit = record.sourceUnit ∧ ∀ sent ∈ record.unitsPerSourceUnit, sent.value = m.unitsPerSourceUnit.value

def CanonicalInventoryRecord.seenKey (record : CanonicalInventoryRecord) : String × String × String :=
  (record.sourceReference, record.externalSku, record.externalLocation)

/-- Why a record is rejected, by the statement that finds it. -/
inductive Rejection (db : Database) (a : Applying) (record : CanonicalInventoryRecord) : Prop where
  | duplicate (phase : a.phase = .duplicateCheck)
      (known : record.seenKey ∈ a.seen ∨
        record.sendable = true ∧ a.imported db (recordKey a.job.supplierId record) = true)
  | unmapped (phase : a.phase = .productLookup) (absent : productMappingFor db a.job.supplierId record = none)
  | mismatched {m : SupplierProductMapping} (phase : a.phase = .warehouseLookup m)
      (differs : ∀ w, warehouseMappingFor db a.job.supplierId record = some w → ¬ m.Agrees record)

/-- One statement for the record at hand, and what it found. -/
inductive RecordProgress (db : Database) (locks : Locks) (a : Applying) (record : CanonicalInventoryRecord)
    (rest : List CanonicalInventoryRecord) : Applying → Prop where
  | rejected (error : AdapterError) (row : error.sourceRow = some record.sourceRow)
      (reason : Rejection db a record) : RecordProgress db locks a record rest (a.reject db rest error)
  | unseen (phase : a.phase = .duplicateCheck) (sendable : record.sendable = true)
      (unseen : record.seenKey ∉ a.seen) (fresh : a.imported db (recordKey a.job.supplierId record) = false) :
      RecordProgress db locks a record rest
        { a with seen := a.seen ++ [record.seenKey], phase := .productLookup }
  | product {m : SupplierProductMapping} (phase : a.phase = .productLookup)
      (found : productMappingFor db a.job.supplierId record = some m) :
      RecordProgress db locks a record rest { a with phase := .warehouseLookup m }
  | warehouse {m : SupplierProductMapping} {w : SupplierWarehouseMapping} (phase : a.phase = .warehouseLookup m)
      (found : warehouseMappingFor db a.job.supplierId record = some w) (agrees : m.Agrees record) :
      RecordProgress db locks a record rest { a with phase := .positionLookup m w }
  | position {m : SupplierProductMapping} {w : SupplierWarehouseMapping} (phase : a.phase = .positionLookup m w) :
      RecordProgress db locks a record rest { a with
        phase := .flush m w (Table.lookup InventoryPosition.key (w.warehouseId, m.productId) (a.positions db)) }
  | flushed {m : SupplierProductMapping} {w : SupplierWarehouseMapping} {found : Option InventoryPosition}
      {b : Applying} (phase : a.phase = .flush m w found) (session : b.toWorkerSession = a.toWorkerSession)
      (records : b.records = rest) (after : b.phase = .duplicateCheck) (seen : b.seen = a.seen)
      (loadedErrors : b.loadedErrors = a.loadedErrors) (newErrors : b.newErrors = a.newErrors)
      (write : PositionWrite) (writes : b.writes = a.writes ++ [write])
      (snapshots : b.snapshots = a.snapshots ++
        [recordSnapshot a.job.id a.job.supplierId record m w write.storedOnHand write.storedReserved])
      (place : write.key = (w.warehouseId, m.productId))
      (onHand : write.onHand = record.onHandQuantity * m.unitsPerSourceUnit.value)
      (reserved : write.reserved = record.reservedQuantity * m.unitsPerSourceUnit.value)
      (origin : write.origin = some (recordKey a.job.supplierId record)) (loaded : write.loaded = found)
      (nonnegative : 0 ≤ write.storedOnHand.thousandths ∧ 0 ≤ write.storedReserved.thousandths)
      (positive : 0 < m.unitsPerSourceUnit.thousandths)
      (unlocked : locks.sourceKey (recordKey a.job.supplierId record) = false)
      (free : locks.position (w.warehouseId, m.productId) = false)
      (fresh : a.imported db (recordKey a.job.supplierId record) = false)
      (absent : found = none → ∀ p ∈ a.positions db, p.key ≠ (w.warehouseId, m.productId)) :
      RecordProgress db locks a record rest b

section
variable {db : Database} {locks : Locks} {a b : Applying} {record : CanonicalInventoryRecord}
    {rest : List CanonicalInventoryRecord}

theorem flushRecord_progress {m : SupplierProductMapping} {w : SupplierWarehouseMapping}
    {found : Option InventoryPosition} (phase : a.phase = .flush m w found)
    (h : a.flushRecord db locks record rest m w found = .next b) : RecordProgress db locks a record rest b := by
  unfold Applying.flushRecord at h
  dsimp only at h
  split at h
  · split at h
    · split at h
      · contradiction
      · rename_i unlocked
        simp only [Bool.or_eq_true, not_or, Bool.not_eq_true] at unlocked
        split at h
        · contradiction
        · rename_i onHand
          split at h
          · contradiction
          · rename_i reserved
            split at h
            · contradiction
            · rename_i factor
              split at h
              · contradiction
              · rename_i absent
                split at h
                · contradiction
                · rename_i fresh
                  cases h
                  refine .flushed phase rfl rfl rfl rfl rfl rfl _ rfl rfl rfl rfl rfl rfl rfl
                    ⟨Int.not_lt.mp onHand, Int.not_lt.mp reserved⟩ (Int.not_le.mp factor) unlocked.2 unlocked.1
                    ((Bool.not_eq_true _).mp fresh) ?_
                  intro none p member same
                  have inserts : found.isNone = true := Option.isNone_iff_eq_none.mpr none
                  have taken : (a.positions db).any (fun p => p.key = (w.warehouseId, m.productId)) = true :=
                    List.any_eq_true.mpr ⟨p, member, decide_eq_true same⟩
                  exact absent (Bool.and_eq_true_iff.mpr ⟨inserts, taken⟩)
    · contradiction
  · contradiction

theorem record_progress (h : a.validateAndApplyRecord db locks record rest = .next b) :
    RecordProgress db locks a record rest b := by
  unfold Applying.validateAndApplyRecord at h
  split at h
  · rename_i phase
    dsimp only at h
    split at h
    · rename_i seen
      cases h
      exact .rejected _ rfl (.duplicate phase (.inl (List.contains_iff_mem.mp seen)))
    · rename_i unseen
      split at h
      · contradiction
      · rename_i sendable
        have sent : record.sendable = true := by simpa using sendable
        split at h
        · rename_i imported
          cases h
          exact .rejected _ rfl (.duplicate phase (.inr ⟨sent, imported⟩))
        · rename_i fresh
          cases h
          exact .unseen phase sent (fun member => unseen (List.contains_iff_mem.mpr member))
            ((Bool.not_eq_true _).mp fresh)
  · rename_i phase
    split at h
    · rename_i absent
      cases h
      exact .rejected _ rfl (.unmapped phase absent)
    · rename_i m found
      cases h
      exact .product phase found
  · rename_i m phase
    split at h
    · rename_i absent
      cases h
      refine .rejected _ rfl (.mismatched phase ?_)
      intro w found
      have both := absent.symm.trans found
      contradiction
    · rename_i w found
      split at h
      · rename_i unit
        cases h
        exact .rejected _ rfl (.mismatched phase fun _ _ agrees => unit agrees.1)
      · rename_i unit
        dsimp only at h
        split at h
        · rename_i none
          cases h
          exact .warehouse phase found ⟨not_not.mp unit, by simp [none]⟩
        · rename_i sent some
          split at h
          · rename_i differs
            cases h
            exact .rejected _ rfl (.mismatched phase fun _ _ agrees => differs (agrees.2 sent some))
          · rename_i same
            cases h
            refine .warehouse phase found ⟨not_not.mp unit, ?_⟩
            intro other member
            obtain rfl := Option.some.inj (some.symm.trans member)
            exact not_not.mp same
  · rename_i m w phase
    cases h
    exact .position phase
  · rename_i m w found phase
    exact flushRecord_progress phase h

theorem record_statement (h : a.validateAndApplyRecord db locks record rest = .next b) :
    RecordEffect db locks a record rest b := by
  cases record_progress h with
  | rejected error row => exact .rejected error row
  | unseen | product | warehouse | position => exact .searched ⟨rfl, rfl, rfl, rfl, rfl, rfl⟩
  | flushed _ session _ _ _ loadedErrors newErrors write writes snapshots place _ _ _ loaded _ _ unlocked free
      fresh absent =>
    exact .flushed _ write session loadedErrors newErrors snapshots writes unlocked (place ▸ free) fresh
      fun none => place ▸ absent (loaded.symm.trans none)

theorem RecordEffect.session (effect : RecordEffect db locks a record rest b) :
    b.toWorkerSession = a.toWorkerSession := by
  cases effect with
  | searched same => exact same.session
  | rejected => rfl
  | flushed _ _ session => exact session

/-- Before its first record a transaction has collected the adapter's errors, and sent nothing. -/
theorem start_work (db : Database) (w : WorkerSession) (result : InventoryAdapterResult)
    (events : List OperationEvent) :
    (Applying.start db w result events).toWorkerSession = w ∧
      (Applying.start db w result events).accepted = 0 ∧
      (Applying.start db w result events).snapshots = [] ∧
      (Applying.start db w result events).writes = [] := by
  apply Applying.start_invariant (P := fun a => a.toWorkerSession = w ∧ a.accepted = 0 ∧ a.snapshots = [] ∧
    a.writes = [])
  · intro a error same
    exact same
  · exact ⟨rfl, rfl, rfl, rfl⟩

end

inductive TransactionChange (hub next : Hub) (d : Nat) : Applying → Prop where
  | kept {x : Delivery} {b : Applying} (present : hub.deliveries[d]? = some x)
      (opened : x.transaction? = some b) : TransactionChange hub next d b
  | started {w : WorkerSession} {result : InventoryAdapterResult} {events : List OperationEvent}
      (adapted : hub.deliveries[d]? = some (.adapted w result events)) (imports : SameImports hub.db next.db) :
      TransactionChange hub next d (Applying.start hub.db w result events)
  | recorded {a b : Applying} {record : CanonicalInventoryRecord} {rest : List CanonicalInventoryRecord}
      (applying : hub.deliveries[d]? = some (.applying a))
      (effect : RecordEffect hub.db (hub.locks d) a record rest b) (imports : SameImports hub.db next.db) :
      TransactionChange hub next d b
  | summarised {a : Applying} (applying : hub.deliveries[d]? = some (.applying a))
      (imports : SameImports hub.db next.db) : TransactionChange hub next d (a.loadErrors hub.db)

theorem effect_transaction {env : Env} {hub next : Hub} {l : Label} {d : Nat} {y : Delivery} {b : Applying}
    (effect : Effect env hub next l) (found : next.deliveries[d]? = some y) (opened : y.transaction? = some b) :
    TransactionChange hub next d b := by
  cases effect_delivery effect found with
  | kept present => exact .kept present opened
  | advanced present advance imports =>
    cases advance with
    | adapted | raised | done => contradiction
    | started =>
      cases opened
      exact .started present imports
    | recorded _ applied =>
      cases opened
      exact .recorded present (record_statement applied) imports
    | summarised =>
      cases opened
      exact .summarised present imports
  | delivered | claimed | committed | reported => contradiction

/-! ### Sessions -/

def Delivery.session? : Delivery → Option WorkerSession
  | .claimed w | .adapted w _ _ | .committed w => some w
  | .applying a | .closing a _ => some a.toWorkerSession
  | .received _ _ _ | .raised _ | .done => none

theorem Advance.session {hub : Hub} {d : Nat} {x y : Delivery} (advance : Advance hub d x y) :
    y.session? = x.session? ∨ y.session? = none := by
  cases advance with
  | adapted | summarised => exact .inl rfl
  | started w result events => exact .inl (congrArg some (start_work hub.db w result events).1)
  | recorded _ applied => exact .inl (congrArg some (record_statement applied).session)
  | raised | done => exact .inr rfl

theorem effect_session {env : Env} {hub next : Hub} {l : Label} {d : Nat} {y : Delivery} {w : WorkerSession}
    (effect : Effect env hub next l) (found : next.deliveries[d]? = some y) (holds : y.session? = some w) :
    (∃ x, hub.deliveries[d]? = some x ∧ x.session? = some w) ∨
      ∃ jobId workerId celeryTaskId now, executeImportJobClaim env.settings hub.db jobId workerId celeryTaskId now =
        .ok (some (next.db, w)) := by
  cases effect_delivery effect found with
  | kept present => exact .inl ⟨y, present, holds⟩
  | delivered | reported => contradiction
  | advanced present advance =>
    rcases advance.session with same | none
    · exact .inl ⟨_, present, same.symm.trans holds⟩
    · rw [none] at holds
      contradiction
  | claimed _ claim =>
    cases holds
    exact .inr ⟨_, _, _, _, claim⟩
  | committed closing => exact .inl ⟨_, closing, holds⟩

end SupplyChainHub
