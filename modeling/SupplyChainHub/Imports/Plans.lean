import SupplyChainHub.Inventory.Positions
import SupplyChainHub.Library.Firsts

/-!
What a file amounts to on a database: the records that are accepted, and the snapshots and position
writes that accepting them makes. A transaction whose statements all find the database as it is now has
carried out just that, record by record, whatever came in between.
-/

namespace SupplyChainHub

instance (m : SupplierProductMapping) (record : CanonicalInventoryRecord) : Decidable (m.Agrees record) :=
  inferInstanceAs (Decidable (_ ∧ ∀ _ ∈ _, _))

/-- The mappings a record passes all checks with, if it does. -/
def mappingsFor (db : Database) (supplierId : Id) (record : CanonicalInventoryRecord) :
    Option (SupplierProductMapping × SupplierWarehouseMapping) :=
  match productMappingFor db supplierId record, warehouseMappingFor db supplierId record with
  | some m, some w => if m.Agrees record then some (m, w) else none
  | _, _ => none

def Database.imported (db : Database) (key : SourceKey) : Bool := db.snapshots.any fun s => s.sourceKey = key

def planned (db : Database) (supplierId : Id) (record : CanonicalInventoryRecord) :
    Option (SupplierProductMapping × SupplierWarehouseMapping) :=
  if db.imported (recordKey supplierId record) then none else mappingsFor db supplierId record

abbrev PlanEntry := CanonicalInventoryRecord × SupplierProductMapping × SupplierWarehouseMapping

def plan (db : Database) (supplierId : Id) (records : List CanonicalInventoryRecord) : List PlanEntry :=
  Firsts.picks (recordKey supplierId) (planned db supplierId) [] records

def turnedAway (db : Database) (supplierId : Id) (records : List CanonicalInventoryRecord) :
    List CanonicalInventoryRecord :=
  Firsts.skips (recordKey supplierId) (planned db supplierId) [] records

namespace PlanEntry

def place (e : PlanEntry) : Id × Id := (e.2.2.warehouseId, e.2.1.productId)

def onHand (e : PlanEntry) : ℚ := e.1.onHandQuantity * e.2.1.unitsPerSourceUnit.value

def reserved (e : PlanEntry) : ℚ := e.1.reservedQuantity * e.2.1.unitsPerSourceUnit.value

/-- The columns and their `CHECK` constraints take the entry. -/
def Storable (e : PlanEntry) : Prop :=
  (∃ stored, Numeric183.store? e.onHand = some stored ∧ 0 ≤ stored.thousandths) ∧
    (∃ stored, Numeric183.store? e.reserved = some stored ∧ 0 ≤ stored.thousandths) ∧
    0 < e.2.1.unitsPerSourceUnit.thousandths

end PlanEntry

/-- The snapshots and position writes of a plan, in order, each write computed from the row that the
database and the writes before it leave. -/
inductive Booked (db : Database) (importJobId supplierId : Id) :
    List PlanEntry → List InventorySnapshot → List PositionWrite → Prop where
  | nil : Booked db importJobId supplierId [] [] []
  | snoc {entries : List PlanEntry} {snapshots : List InventorySnapshot} {writes : List PositionWrite}
      (before : Booked db importJobId supplierId entries snapshots writes) (e : PlanEntry) (write : PositionWrite)
      (place : write.key = e.place) (onHand : write.onHand = e.onHand) (reserved : write.reserved = e.reserved)
      (origin : write.origin = some (recordKey supplierId e.1))
      (loaded : write.loaded = positionAt e.place (applyWrites db.positions writes)) :
      Booked db importJobId supplierId (entries ++ [e])
        (snapshots ++ [recordSnapshot importJobId supplierId e.1 e.2.1 e.2.2 write.storedOnHand write.storedReserved])
        (writes ++ [write])

/-- The version of the row of a place. Where there is none, the row that is to come begins at 1. -/
def versionAt (place : Id × Id) (positions : List InventoryPosition) : Nat :=
  (positionAt place positions).elim 0 (·.version)

/-- How often a plan books at a place. -/
def bookings (place : Id × Id) (entries : List PlanEntry) : Nat := entries.countP fun e => e.place = place

/-- Every entry brings its position one version further. The column holds the last version of each. -/
def VersionsFit (positions : List InventoryPosition) (entries : List PlanEntry) : Prop :=
  ∀ e ∈ entries, versionAt e.place positions + bookings e.place entries ≤ integerMax

instance (positions : List InventoryPosition) (entries : List PlanEntry) : Decidable (VersionsFit positions entries) :=
  inferInstanceAs (Decidable (∀ _ ∈ _, _))

section
variable {db after : Database} {importJobId supplierId : Id} {record : CanonicalInventoryRecord}
    {records : List CanonicalInventoryRecord} {entries : List PlanEntry} {place : Id × Id}
    {snapshots : List InventorySnapshot} {writes : List PositionWrite}
    {m : SupplierProductMapping} {w : SupplierWarehouseMapping}

theorem mappingsFor_some (product : productMappingFor db supplierId record = some m)
    (warehouse : warehouseMappingFor db supplierId record = some w) (agrees : m.Agrees record) :
    mappingsFor db supplierId record = some (m, w) := by
  unfold mappingsFor
  simp only [product, warehouse, if_pos agrees]

theorem mappingsFor_unmapped (absent : productMappingFor db supplierId record = none) :
    mappingsFor db supplierId record = none := by
  unfold mappingsFor
  simp only [absent]

theorem mappingsFor_mismatched (product : productMappingFor db supplierId record = some m)
    (differs : ∀ w, warehouseMappingFor db supplierId record = some w → ¬ m.Agrees record) :
    mappingsFor db supplierId record = none := by
  unfold mappingsFor
  cases warehouse : warehouseMappingFor db supplierId record with
  | none => simp only [product]
  | some w => simp only [product, if_neg (differs w warehouse)]

theorem planned_imported (imported : db.imported (recordKey supplierId record) = true) :
    planned db supplierId record = none := if_pos imported

theorem planned_none (fails : mappingsFor db supplierId record = none) :
    planned db supplierId record = none := by
  unfold planned
  rw [fails, ite_self]

theorem planned_fresh (fresh : db.imported (recordKey supplierId record) = false) :
    planned db supplierId record = mappingsFor db supplierId record := by
  unfold planned
  rw [fresh]
  rfl

theorem planned_some (h : planned db supplierId record = some (m, w)) :
    db.imported (recordKey supplierId record) = false ∧ mappingsFor db supplierId record = some (m, w) := by
  unfold planned at h
  split at h
  · contradiction
  · rename_i fresh
    exact ⟨(Bool.not_eq_true _).mp fresh, h⟩

theorem mappingsFor_congr (products : after.productMappings = db.productMappings)
    (warehouses : after.warehouseMappings = db.warehouseMappings) :
    mappingsFor after supplierId record = mappingsFor db supplierId record := by
  simp only [mappingsFor, productMappingFor, warehouseMappingFor, products, warehouses]

theorem planned_congr (products : after.productMappings = db.productMappings)
    (warehouses : after.warehouseMappings = db.warehouseMappings) (snapshots : after.snapshots = db.snapshots) :
    planned after supplierId = planned db supplierId := by
  funext record
  unfold planned
  rw [Database.imported, Database.imported, snapshots, mappingsFor_congr products warehouses]

/-! ### Positions under the same writes -/

theorem positionAt_apply_congr {xs ys : List InventoryPosition} {x : PositionWrite}
    (same : positionAt place xs = positionAt place ys) :
    positionAt place (x.apply xs) = positionAt place (x.apply ys) := by
  by_cases mine : x.key = place
  · unfold PositionWrite.apply
    cases x.loaded with
    | none =>
      show Table.lookup _ _ _ = Table.lookup _ _ _
      rw [Table.lookup_append, Table.lookup_append]
      exact congrArg (Option.or · _) same
    | some loaded =>
      subst mine
      have updated (rows : List InventoryPosition) :
          positionAt x.key (Table.modify InventoryPosition.key x.key (x.update loaded) rows) =
            (positionAt x.key rows).map (x.update loaded) := Table.lookup_modify_self fun _ same => same
      show positionAt _ _ = positionAt _ _
      rw [updated, updated, same]
  · rw [apply_other mine, apply_other mine, same]

theorem positionAt_writes_congr {xs ys : List InventoryPosition}
    (same : positionAt place xs = positionAt place ys) :
    positionAt place (applyWrites xs writes) = positionAt place (applyWrites ys writes) := by
  induction writes generalizing xs ys with
  | nil => exact same
  | cons x rest ih => exact ih (positionAt_apply_congr same)

theorem applyWrites_other {xs : List InventoryPosition} (elsewhere : ∀ w ∈ writes, w.key ≠ place) :
    positionAt place (applyWrites xs writes) = positionAt place xs := by
  induction writes generalizing xs with
  | nil => rfl
  | cons w rest ih =>
    have first : positionAt place (w.apply xs) = positionAt place xs := apply_other (elsewhere w List.mem_cons_self)
    exact (ih fun w member => elsewhere w (List.mem_cons_of_mem _ member)).trans first

/-! ### Plans and what they book -/

theorem Booked.keys (booked : Booked db importJobId supplierId entries snapshots writes) :
    snapshots.map InventorySnapshot.sourceKey = entries.map fun e => recordKey supplierId e.1 := by
  induction booked with
  | nil => rfl
  | snoc _ e write _ _ _ _ _ ih =>
    rw [List.map_append, List.map_append, ih]
    rfl

theorem Booked.rows (booked : Booked db importJobId supplierId entries snapshots writes) :
    snapshots.map InventorySnapshot.sourceRow = entries.map fun e => e.1.sourceRow := by
  induction booked with
  | nil => rfl
  | snoc _ e write _ _ _ _ _ ih =>
    rw [List.map_append, List.map_append, ih]
    rfl

theorem Booked.of_nil (booked : Booked db importJobId supplierId [] snapshots writes) :
    snapshots = [] ∧ writes = [] := by
  generalize none : ([] : List PlanEntry) = entries at booked
  cases booked with
  | nil => exact ⟨rfl, rfl⟩
  | snoc => exact absurd none.symm (List.append_ne_nil_of_right_ne_nil _ (List.cons_ne_nil _ _))

theorem Booked.of_snoc {e : PlanEntry} (booked : Booked db importJobId supplierId (entries ++ [e]) snapshots writes) :
    ∃ before earlier write, Booked db importJobId supplierId entries before earlier ∧ write.key = e.place ∧
      write.onHand = e.onHand ∧ write.reserved = e.reserved ∧
      write.origin = some (recordKey supplierId e.1) ∧
      write.loaded = positionAt e.place (applyWrites db.positions earlier) ∧
      snapshots = before ++
        [recordSnapshot importJobId supplierId e.1 e.2.1 e.2.2 write.storedOnHand write.storedReserved] ∧
      writes = earlier ++ [write] := by
  generalize whole : entries ++ [e] = all at booked
  cases booked with
  | nil => exact absurd whole (List.append_ne_nil_of_right_ne_nil _ (List.cons_ne_nil _ _))
  | @snoc front before earlier booked last write place onHand reserved origin loaded =>
    obtain ⟨rfl, one⟩ := List.append_inj' whole rfl
    obtain rfl := (List.cons.inj one).1
    exact ⟨before, earlier, write, booked, place, onHand, reserved, origin, loaded, rfl, rfl⟩

theorem write_determined {x y : PositionWrite} (key : x.key = y.key) (onHand : x.onHand = y.onHand)
    (reserved : x.reserved = y.reserved) (origin : x.origin = y.origin) (loaded : x.loaded = y.loaded) :
    x = y := by
  have storedOnHand : x.storedOnHand = y.storedOnHand := by
    have stores := x.storesOnHand
    rw [onHand, y.storesOnHand] at stores
    exact (Option.some.inj stores).symm
  have storedReserved : x.storedReserved = y.storedReserved := by
    have stores := x.storesReserved
    rw [reserved, y.storesReserved] at stores
    exact (Option.some.inj stores).symm
  obtain ⟨warehouse, product⟩ := Prod.mk.inj key
  cases x
  cases y
  simp only [PositionWrite.mk.injEq]
  exact ⟨warehouse, product, onHand, reserved, storedOnHand, storedReserved, origin, loaded⟩

/-- The plan and the positions it starts from say which snapshots and writes these are. -/
theorem Booked.unique {snapshots' : List InventorySnapshot} {writes' : List PositionWrite}
    (booked : Booked db importJobId supplierId entries snapshots writes)
    (other : Booked db importJobId supplierId entries snapshots' writes') :
    snapshots = snapshots' ∧ writes = writes' := by
  induction booked generalizing snapshots' writes' with
  | nil =>
    obtain ⟨rfl, rfl⟩ := other.of_nil
    exact ⟨rfl, rfl⟩
  | snoc before e write place onHand reserved origin loaded ih =>
    obtain ⟨before', earlier', write', booked', place', onHand', reserved', origin', loaded', rfl, rfl⟩ :=
      other.of_snoc
    obtain ⟨rfl, rfl⟩ := ih booked'
    obtain rfl := write_determined (place.trans place'.symm) (onHand.trans onHand'.symm)
      (reserved.trans reserved'.symm) (origin.trans origin'.symm) (loaded.trans loaded'.symm)
    exact ⟨rfl, rfl⟩

/-! ### Versions -/

theorem bookings_snoc (e : PlanEntry) :
    bookings place (entries ++ [e]) = bookings place entries + if e.place = place then 1 else 0 := by
  rw [bookings, List.countP_append, List.countP_singleton]
  simp [bookings]

theorem version_other {positions : List InventoryPosition} {write : PositionWrite} (other : write.key ≠ place) :
    versionAt place (write.apply positions) = versionAt place positions := by
  rw [versionAt, versionAt, apply_other other]

/-- A write that found the row as it is brings it one version further. -/
theorem version_current {positions : List InventoryPosition} {write : PositionWrite} (mine : write.key = place)
    (current : write.loaded = positionAt place positions) :
    versionAt place (write.apply positions) = versionAt place positions + 1 := by
  cases present : positionAt place positions with
  | none =>
    have inserts : write.loaded = none := current.trans present
    have inserted : InventoryPosition.key ⟨write.warehouseId, write.productId, write.storedOnHand,
      write.storedReserved, 1⟩ = place := mine
    unfold versionAt PositionWrite.apply
    simp only [inserts, present]
    rw [positionAt, Table.lookup_append_absent present, Table.lookup_cons, if_pos inserted]
    rfl
  | some row =>
    rw [versionAt, versionAt, apply_self mine (current.trans present) present, present]
    exact update_version

theorem applyWrites_snoc {positions : List InventoryPosition} {write : PositionWrite} :
    applyWrites positions (writes ++ [write]) = write.apply (applyWrites positions writes) := by
  simp [applyWrites]

theorem Booked.version (booked : Booked db importJobId supplierId entries snapshots writes) :
    versionAt place (applyWrites db.positions writes) =
      versionAt place db.positions + bookings place entries := by
  induction booked with
  | nil => rfl
  | snoc _ e write key _ _ _ loaded ih =>
    rw [applyWrites_snoc, bookings_snoc, ← Nat.add_assoc, ← ih]
    by_cases mine : e.place = place
    · subst mine
      rw [if_pos rfl]
      exact version_current key loaded
    · rw [if_neg mine]
      exact version_other fun same => mine (key.symm.trans same)

/-- What is booked fits: each write left the column room for its version. -/
theorem Booked.versions (booked : Booked db importJobId supplierId entries snapshots writes) :
    VersionsFit db.positions entries := by
  induction booked with
  | nil => exact List.forall_mem_nil _
  | @snoc entries snapshots writes before e write mine _ _ _ loaded ih =>
    have room : versionAt e.place db.positions + bookings e.place entries < integerMax := by
      rw [← before.version, versionAt, ← loaded]
      cases read : write.loaded with
      | none => exact Nat.zero_lt_succ _
      | some p => exact write.versionFits p read
    intro x member
    rw [bookings_snoc]
    split
    · rename_i here
      rw [← here]
      exact room
    · rename_i elsewhere
      rcases List.mem_append.mp member with old | new
      · exact ih x old
      · exact absurd (congrArg PlanEntry.place (List.mem_singleton.mp new)).symm elsewhere

/-- A plan books the same on a database whose positions agree wherever it writes. -/
theorem Booked.transfer (booked : Booked db importJobId supplierId entries snapshots writes)
    (same : ∀ w ∈ writes, positionAt w.key after.positions = positionAt w.key db.positions) :
    Booked after importJobId supplierId entries snapshots writes := by
  induction booked with
  | nil => exact .nil
  | snoc before e write place onHand reserved origin loaded ih =>
    have earlier := ih fun w member => same w (List.mem_append_left _ member)
    have mine := same write (List.mem_append_right _ List.mem_cons_self)
    refine .snoc earlier e write place onHand reserved origin (loaded.trans ?_)
    rw [place] at mine
    exact (positionAt_writes_congr mine).symm

end

/-! ### How far a transaction is -/

/-- The keys the transaction has seen are those of `done`; what it has not seen was imported before. -/
def Applying.SeenOf (db : Database) (done : List CanonicalInventoryRecord) (a : Applying) : Prop :=
  (∀ r ∈ done, r.seenKey ∈ a.seen ∨ db.imported (recordKey a.job.supplierId r) = true) ∧
    ∀ k ∈ a.seen, ∃ r ∈ done, r.seenKey = k

/-- The record in hand is new to the transaction, and its key taken. -/
structure Applying.Opened (db : Database) (done : List CanonicalInventoryRecord) (a : Applying)
    (record : CanonicalInventoryRecord) : Prop where
  head : a.records.head? = some record
  sendable : record.sendable = true
  fresh : ∀ r ∈ done, r.seenKey ≠ record.seenKey
  seen : a.SeenOf db (done ++ [record])

/-- What the statements for the record in hand have found. -/
def Applying.Found (db : Database) (done : List CanonicalInventoryRecord) (a : Applying) : Prop :=
  match a.phase with
  | .duplicateCheck => a.SeenOf db done
  | .productLookup => ∃ record, a.Opened db done record
  | .warehouseLookup m => ∃ record, a.Opened db done record ∧
    productMappingFor db a.job.supplierId record = some m
  | .positionLookup m w | .flush m w _ => ∃ record, a.Opened db done record ∧
    mappingsFor db a.job.supplierId record = some (m, w)

/-- The transaction is through with the records `done`, and has done with them what a transaction that began
on this database would have. -/
structure Progress (db : Database) (result : InventoryAdapterResult) (done : List CanonicalInventoryRecord)
    (a : Applying) : Prop where
  split : result.records = done ++ a.records
  booked : Booked db a.job.id a.job.supplierId (plan db a.job.supplierId done) a.snapshots a.writes
  storable : ∀ e ∈ plan db a.job.supplierId done, e.Storable
  sendable : ∀ r ∈ done, r.sendable = true
  rows : a.newErrors.map (·.sourceRow) = result.errors.map (·.sourceRow) ++
    (turnedAway db a.job.supplierId done).map fun r => some r.sourceRow
  found : a.Found db done

/-- What a flush was prepared with still holds: the position is the row there is, and the record has not
been imported. -/
def Applying.FlushCurrent (db : Database) (a : Applying) : Prop :=
  ∀ m w position, a.phase = .flush m w position →
    position = positionAt (w.warehouseId, m.productId) (a.positions db) ∧
      ∀ record, a.records.head? = some record → db.imported (recordKey a.job.supplierId record) = false

def Applying.flushesCurrent (db : Database) (a : Applying) : Bool :=
  match a.phase with
  | .flush m w position => position = positionAt (w.warehouseId, m.productId) (a.positions db) &&
    a.records.head?.all fun record => !db.imported (recordKey a.job.supplierId record)
  | _ => true

theorem flushesCurrent_iff (db : Database) (a : Applying) : a.flushesCurrent db = true ↔ a.FlushCurrent db := by
  unfold Applying.flushesCurrent Applying.FlushCurrent
  cases a.phase with
  | flush m w position =>
    cases a.records.head? <;> simp
  | _ => simp

instance (db : Database) (a : Applying) : Decidable (a.FlushCurrent db) :=
  decidable_of_iff _ (flushesCurrent_iff db a)

/-- The version column has room for one more at the flush at hand, if there is one. -/
def Applying.FlushFits (a : Applying) : Prop :=
  ∀ m w position, a.phase = .flush m w position → ∀ p ∈ position, p.version < integerMax

instance (a : Applying) : Decidable a.FlushFits :=
  decidable_of_iff ((match a.phase with
      | .flush _ _ position => position.all fun p => p.version < integerMax
      | _ => true) = true) <| by
    unfold Applying.FlushFits
    cases a.phase <;> simp [Option.all_eq_true]

section
variable {db after : Database} {locks : Locks} {a b : Applying} {supplierId : Id}
    {record other : CanonicalInventoryRecord} {rest done : List CanonicalInventoryRecord}
    {result : InventoryAdapterResult} {error : AdapterError}

theorem recordKey_eq : recordKey supplierId record = recordKey supplierId other ↔
    record.seenKey = other.seenKey := by
  simp only [recordKey, CanonicalInventoryRecord.seenKey, SourceKey.mk.injEq, Prod.mk.injEq, true_and]

theorem fresh_keys (fresh : ∀ r ∈ done, r.seenKey ≠ record.seenKey) :
    recordKey supplierId record ∉ done.map (recordKey supplierId) := by
  intro member
  obtain ⟨r, present, same⟩ := List.mem_map.mp member
  exact fresh r present (recordKey_eq.mp same)

theorem sendable_congr (same : record.seenKey = other.seenKey) : record.sendable = other.sendable := by
  simp only [CanonicalInventoryRecord.seenKey, Prod.mk.injEq] at same
  obtain ⟨reference, sku, location⟩ := same
  simp only [CanonicalInventoryRecord.sendable, reference, sku, location]

theorem fresh_import {key : SourceKey} (fresh : a.imported db key = false) : db.imported key = false := by
  rw [Applying.imported, List.any_append, Bool.or_eq_false_iff] at fresh
  exact fresh.1

/-! ### What the statements for a record find -/

/-- Each snapshot of the transaction is of a record it is through with. -/
def Applying.Owns (done : List CanonicalInventoryRecord) (a : Applying) : Prop :=
  ∀ s ∈ a.snapshots, ∃ r ∈ done, recordKey a.job.supplierId r = s.sourceKey

/-- The duplicate check turns away what is imported already, and what the file has brought before. -/
theorem Applying.Owns.known (own : a.Owns done)
    (imported : a.imported db (recordKey a.job.supplierId record) = true) :
    db.imported (recordKey a.job.supplierId record) = true ∨ ∃ r ∈ done, r.seenKey = record.seenKey := by
  obtain ⟨s, member, same⟩ := List.any_eq_true.mp imported
  rw [decide_eq_true_eq] at same
  rcases List.mem_append.mp member with committed | stored
  · exact .inl (List.any_eq_true.mpr ⟨s, committed, decide_eq_true same⟩)
  · obtain ⟨r, present, key⟩ := own s stored
    exact .inr ⟨r, present, recordKey_eq.mp (key.trans same)⟩

theorem SeenOf.grow (seen : a.SeenOf db done)
    (known : record.seenKey ∈ a.seen ∨ db.imported (recordKey a.job.supplierId record) = true) :
    a.SeenOf db (done ++ [record]) := by
  constructor
  · intro r member
    rcases List.mem_append.mp member with old | new
    · exact seen.1 r old
    · rw [List.mem_singleton.mp new]
      exact known
  · intro k member
    obtain ⟨r, present, same⟩ := seen.2 k member
    exact ⟨r, List.mem_append_left _ present, same⟩

theorem Applying.Opened.of_cons (opened : a.Opened db done other) (records : a.records = record :: rest) :
    a.Opened db done record := by
  have same := opened.head
  rw [records] at same
  cases same
  exact opened

/-- The record in hand passed the duplicate check. -/
theorem SeenOf.take_up (seen : a.SeenOf db done) (records : a.records = record :: rest)
    (sendable : record.sendable = true) (unseen : record.seenKey ∉ a.seen)
    (fresh : a.imported db (recordKey a.job.supplierId record) = false) :
    Applying.Opened db done { a with seen := a.seen ++ [record.seenKey], phase := .productLookup } record := by
  constructor
  · show a.records.head? = some record
    rw [records]
    rfl
  · exact sendable
  · intro r member same
    rcases seen.1 r member with known | imported
    · exact unseen (same ▸ known)
    · rw [recordKey_eq.mpr same, fresh_import fresh] at imported
      contradiction
  · constructor
    · intro r member
      rcases List.mem_append.mp member with old | new
      · exact (seen.1 r old).imp_left (List.mem_append_left _)
      · rw [List.mem_singleton.mp new]
        exact .inl (List.mem_append_right _ List.mem_cons_self)
    · intro k member
      rcases List.mem_append.mp member with old | new
      · obtain ⟨r, present, same⟩ := seen.2 k old
        exact ⟨r, List.mem_append_left _ present, same⟩
      · exact ⟨record, List.mem_append_right _ List.mem_cons_self, (List.mem_singleton.mp new).symm⟩

/-- What a rejected record is rejected for. -/
theorem Applying.Found.rejected (found : a.Found db done) (own : a.Owns done) (records : a.records = record :: rest)
    (reason : Rejection db a record) :
    a.SeenOf db (done ++ [record]) ∧ ((∃ r ∈ done, r.seenKey = record.seenKey) ∨
      record.sendable = true ∧ planned db a.job.supplierId record = none) := by
  unfold Applying.Found at found
  cases reason with
  | duplicate phase known =>
    rw [phase] at found
    rcases known with seen | ⟨sendable, imported⟩
    · exact ⟨SeenOf.grow found (.inl seen), .inl (found.2 _ seen)⟩
    · rcases own.known imported with before | ⟨r, present, same⟩
      · exact ⟨SeenOf.grow found (.inr before), .inr ⟨sendable, planned_imported before⟩⟩
      · refine ⟨SeenOf.grow found ?_, .inl ⟨r, present, same⟩⟩
        rw [← same, ← recordKey_eq.mpr same]
        exact found.1 r present
  | unmapped phase absent =>
    rw [phase] at found
    obtain ⟨_, opened⟩ := found
    have opened := opened.of_cons records
    exact ⟨opened.seen, .inr ⟨opened.sendable, planned_none (mappingsFor_unmapped absent)⟩⟩
  | mismatched phase differs =>
    rw [phase] at found
    obtain ⟨head, opened, mapping⟩ := found
    obtain rfl : head = record := by simpa [records] using opened.head.symm
    exact ⟨opened.seen, .inr ⟨opened.sendable, planned_none (mappingsFor_mismatched mapping differs)⟩⟩

/-- What the next statement for the record in hand finds, when it does not decide it. -/
theorem Applying.Found.searched (found : a.Found db done) (records : a.records = record :: rest)
    (statement : RecordProgress db locks a record rest b) (searching : b.phase ≠ .duplicateCheck) :
    b.Found db done := by
  unfold Applying.Found at found
  cases statement with
  | rejected => exact absurd rfl searching
  | flushed _ _ _ after => exact absurd after searching
  | unseen phase sendable unseen fresh =>
    rw [phase] at found
    exact ⟨record, SeenOf.take_up found records sendable unseen fresh⟩
  | product phase mapping =>
    rw [phase] at found
    obtain ⟨_, opened⟩ := found
    have opened := opened.of_cons records
    exact ⟨record, ⟨opened.head, opened.sendable, opened.fresh, opened.seen⟩, mapping⟩
  | warehouse phase mapping agrees =>
    rw [phase] at found
    obtain ⟨head, opened, product⟩ := found
    obtain rfl : head = record := by simpa [records] using opened.head.symm
    exact ⟨head, ⟨opened.head, opened.sendable, opened.fresh, opened.seen⟩, mappingsFor_some product mapping agrees⟩
  | position phase =>
    rw [phase] at found
    obtain ⟨head, opened, mappings⟩ := found
    exact ⟨head, ⟨opened.head, opened.sendable, opened.fresh, opened.seen⟩, mappings⟩

/-- What other transactions commit leaves what was found as it is. -/
theorem Applying.Found.moved (found : a.Found db done) (products : after.productMappings = db.productMappings)
    (warehouses : after.warehouseMappings = db.warehouseMappings)
    (kept : ∀ key, db.imported key = true → after.imported key = true) : a.Found after done := by
  have seen {done : List CanonicalInventoryRecord} (before : a.SeenOf db done) : a.SeenOf after done :=
    ⟨fun r member => (before.1 r member).imp_right (kept _), before.2⟩
  have opened {record : CanonicalInventoryRecord} (before : a.Opened db done record) :
      a.Opened after done record := ⟨before.head, before.sendable, before.fresh, seen before.seen⟩
  unfold Applying.Found at *
  cases phase : a.phase with
  | duplicateCheck =>
    rw [phase] at found
    exact seen found
  | productLookup =>
    rw [phase] at found
    obtain ⟨record, before⟩ := found
    exact ⟨record, opened before⟩
  | warehouseLookup m =>
    rw [phase] at found
    obtain ⟨record, before, product⟩ := found
    refine ⟨record, opened before, ?_⟩
    rw [productMappingFor, products]
    exact product
  | positionLookup m w | flush m w position =>
    rw [phase] at found
    obtain ⟨record, before, mappings⟩ := found
    exact ⟨record, opened before, (mappingsFor_congr products warehouses).trans mappings⟩

theorem Applying.Found.loadErrors (found : a.Found db done) : (a.loadErrors db).Found db done := by
  unfold Applying.Found at *
  have same : (a.loadErrors db).phase = a.phase := rfl
  rw [same]
  cases phase : a.phase with
  | duplicateCheck =>
    rw [phase] at found
    exact found
  | productLookup =>
    rw [phase] at found
    obtain ⟨record, opened⟩ := found
    exact ⟨record, opened.head, opened.sendable, opened.fresh, opened.seen⟩
  | warehouseLookup | positionLookup | flush =>
    rw [phase] at found
    obtain ⟨record, opened, rest⟩ := found
    exact ⟨record, ⟨opened.head, opened.sendable, opened.fresh, opened.seen⟩, rest⟩

/-- A transaction begins at its first record, with the adapter's errors collected. -/
theorem start_begun (db : Database) (session : WorkerSession) (result : InventoryAdapterResult)
    (events : List OperationEvent) :
    (Applying.start db session result events).records = result.records ∧
      (Applying.start db session result events).phase = .duplicateCheck ∧
      (Applying.start db session result events).seen = [] ∧
      (Applying.start db session result events).newErrors.map (·.sourceRow) =
        result.errors.map (·.sourceRow) := by
  have kept : (Applying.start db session result events).records = result.records ∧
      (Applying.start db session result events).phase = .duplicateCheck ∧
      (Applying.start db session result events).seen = [] := by
    apply Applying.start_invariant (P := fun a => a.records = result.records ∧ a.phase = .duplicateCheck ∧ a.seen = [])
    · intro a error same
      exact same
    · exact ⟨rfl, rfl, rfl⟩
  have rows (errors : List AdapterError) (a : Applying) :
      (errors.foldl (Applying.addImportError db) a).newErrors.map (·.sourceRow) =
        a.newErrors.map (·.sourceRow) ++ errors.map (·.sourceRow) := by
    induction errors generalizing a with
    | nil => exact (List.append_nil _).symm
    | cons error rest ih =>
      apply (ih (a.addImportError db error)).trans
      simp [Applying.addImportError]
  exact ⟨kept.1, kept.2.1, kept.2.2, rows _ _⟩

theorem start_found (db : Database) (session : WorkerSession) (result : InventoryAdapterResult)
    (events : List OperationEvent) : (Applying.start db session result events).Found db [] := by
  obtain ⟨-, phase, seen, -⟩ := start_begun db session result events
  unfold Applying.Found
  rw [phase]
  constructor
  · intro r member
    contradiction
  · rw [seen]
    intro k member
    contradiction

theorem Progress.owns (progress : Progress db result done a) : a.Owns done := by
  intro s own
  have member := List.mem_map_of_mem (f := InventorySnapshot.sourceKey) own
  rw [progress.booked.keys] at member
  obtain ⟨⟨r, mappings⟩, entry, same⟩ := List.mem_map.mp member
  exact ⟨r, (Firsts.mem_picks entry).1, same⟩

/-- The record in hand was turned away. -/
theorem Progress.turn_away (progress : Progress db result done a) (records : a.records = record :: rest)
    (left : recordKey a.job.supplierId record ∈ done.map (recordKey a.job.supplierId) ∨
      planned db a.job.supplierId record = none)
    (sendable : record.sendable = true) (seen : (a.reject db rest error).SeenOf db (done ++ [record]))
    (row : error.sourceRow = some record.sourceRow) :
    Progress db result (done ++ [record]) (a.reject db rest error) := by
  have plans : plan db a.job.supplierId (done ++ [record]) = plan db a.job.supplierId done :=
    Firsts.picks_leave left
  have turned : turnedAway db a.job.supplierId (done ++ [record]) = turnedAway db a.job.supplierId done ++ [record] :=
    Firsts.skips_leave left
  constructor
  · rw [progress.split, records]
    simp [Applying.reject]
  · show Booked db a.job.id a.job.supplierId (plan db a.job.supplierId (done ++ [record])) a.snapshots a.writes
    rw [plans]
    exact progress.booked
  · show ∀ e ∈ plan db a.job.supplierId (done ++ [record]), e.Storable
    rw [plans]
    exact progress.storable
  · intro r member
    rcases List.mem_append.mp member with old | new
    · exact progress.sendable r old
    · rw [List.mem_singleton.mp new]
      exact sendable
  · show (a.newErrors ++ [_]).map ImportJobError.sourceRow = result.errors.map (·.sourceRow) ++
      (turnedAway db a.job.supplierId (done ++ [record])).map fun r => some r.sourceRow
    rw [turned, List.map_append, List.map_append, progress.rows, List.append_assoc]
    simp [row]
  · exact seen

/-- The record in hand was accepted. -/
theorem Progress.accept {m : SupplierProductMapping} {w : SupplierWarehouseMapping} {write : PositionWrite}
    (progress : Progress db result done a) (opened : a.Opened db done record)
    (mappings : mappingsFor db a.job.supplierId record = some (m, w))
    (fresh : a.imported db (recordKey a.job.supplierId record) = false)
    (storable : PlanEntry.Storable (record, m, w)) (session : b.toWorkerSession = a.toWorkerSession)
    (split : a.records = record :: b.records) (after : b.phase = .duplicateCheck) (seen : b.seen = a.seen)
    (newErrors : b.newErrors = a.newErrors)
    (snapshots : b.snapshots = a.snapshots ++
      [recordSnapshot a.job.id a.job.supplierId record m w write.storedOnHand write.storedReserved])
    (writes : b.writes = a.writes ++ [write])
    (booked : Booked db a.job.id a.job.supplierId (plan db a.job.supplierId done ++ [(record, m, w)])
      (a.snapshots ++ [recordSnapshot a.job.id a.job.supplierId record m w write.storedOnHand write.storedReserved])
      (a.writes ++ [write])) :
    Progress db result (done ++ [record]) b := by
  have job : b.job = a.job := congrArg WorkerSession.job session
  have new : recordKey a.job.supplierId record ∉ done.map (recordKey a.job.supplierId) := fresh_keys opened.fresh
  have taken : planned db a.job.supplierId record = some (m, w) :=
    (planned_fresh (fresh_import fresh)).trans mappings
  have plans : plan db a.job.supplierId (done ++ [record]) = plan db a.job.supplierId done ++ [(record, m, w)] :=
    Firsts.picks_take new taken
  have turned : turnedAway db a.job.supplierId (done ++ [record]) = turnedAway db a.job.supplierId done :=
    Firsts.skips_take new taken
  constructor
  · rw [progress.split, split, List.append_assoc]
    rfl
  · rw [job, plans, snapshots, writes]
    exact booked
  · rw [job, plans]
    intro e member
    rcases List.mem_append.mp member with old | last
    · exact progress.storable e old
    · rw [List.mem_singleton.mp last]
      exact storable
  · intro r member
    rcases List.mem_append.mp member with old | last
    · exact progress.sendable r old
    · rw [List.mem_singleton.mp last]
      exact opened.sendable
  · rw [job, turned, newErrors]
    exact progress.rows
  · unfold Applying.Found Applying.SeenOf
    rw [after, job, seen]
    exact opened.seen

/-- One statement that finds the database as it is now. -/
theorem Progress.step (progress : Progress db result done a) (records : a.records = record :: rest)
    (current : a.FlushCurrent db) (statement : RecordProgress db locks a record rest b) :
    ∃ done, Progress db result done b := by
  have found (searching : b.phase ≠ .duplicateCheck) : b.Found db done :=
    progress.found.searched records statement searching
  cases statement with
  | rejected error row reason =>
    refine ⟨done ++ [record], ?_⟩
    obtain ⟨seen, ⟨r, present, same⟩ | ⟨sendable, none⟩⟩ := progress.found.rejected progress.owns records reason
    · refine progress.turn_away records (.inl ?_) (sendable_congr same ▸ progress.sendable r present) seen row
      rw [← recordKey_eq.mpr same]
      exact List.mem_map_of_mem present
    · exact progress.turn_away records (.inr none) sendable seen row
  | unseen | product | warehouse | position =>
    exact ⟨done, progress.split, progress.booked, progress.storable, progress.sendable, progress.rows, found nofun⟩
  | @flushed m w position _ phase session records' next seen loadedErrors newErrors write writes snapshots place
      onHand reserved origin loaded nonnegative positive unlocked free fresh absent =>
    have found := progress.found
    unfold Applying.Found at found
    rw [phase] at found
    obtain ⟨head, opened, mappings⟩ := found
    obtain rfl : head = record := by simpa [records] using opened.head.symm
    have row := loaded.trans (current _ _ _ phase).1
    have storable : PlanEntry.Storable (head, m, w) := by
      have storesOnHand := write.storesOnHand
      have storesReserved := write.storesReserved
      rw [onHand] at storesOnHand
      rw [reserved] at storesReserved
      exact ⟨⟨_, storesOnHand, nonnegative.1⟩, ⟨_, storesReserved, nonnegative.2⟩, positive⟩
    refine ⟨done ++ [head], progress.accept opened mappings fresh storable session (records'.symm ▸ records) next
      seen newErrors snapshots writes ?_⟩
    exact .snoc progress.booked (head, m, w) write place onHand reserved origin row

/-- The record to be flushed next is on the plan, and comes after those that were. -/
theorem Progress.flushing {m : SupplierProductMapping} {w : SupplierWarehouseMapping}
    {position : Option InventoryPosition} (progress : Progress db result done a)
    (records : a.records = record :: rest) (phase : a.phase = .flush m w position) (current : a.FlushCurrent db) :
    (∃ later, plan db a.job.supplierId result.records =
        plan db a.job.supplierId done ++ (record, m, w) :: later) ∧
      a.imported db (recordKey a.job.supplierId record) = false := by
  have found := progress.found
  unfold Applying.Found at found
  rw [phase] at found
  obtain ⟨_, opened, mappings⟩ := found
  obtain rfl : _ = record := by simpa [records] using opened.head.symm
  have unimported := (current m w position phase).2 _ opened.head
  have taken : planned db a.job.supplierId _ = some (m, w) := (planned_fresh unimported).trans mappings
  constructor
  · rw [progress.split, records, plan, ← List.singleton_append, ← List.append_assoc, Firsts.picks_append,
      Firsts.picks_take (fresh_keys opened.fresh) taken, List.append_assoc]
    exact ⟨_, rfl⟩
  · rw [Bool.eq_false_iff]
    intro imported
    rcases progress.owns.known imported with before | ⟨r, present, same⟩
    · rw [unimported] at before
      contradiction
    · exact opened.fresh r present same

/-- A flush that finds its position as it is has room, when the plan has. -/
theorem Progress.flush_fits (progress : Progress db result done a) (current : a.FlushCurrent db)
    (fits : VersionsFit db.positions (plan db a.job.supplierId result.records)) : a.FlushFits := by
  intro m w position phase p read
  have found := progress.found
  unfold Applying.Found at found
  rw [phase] at found
  obtain ⟨record, opened, -⟩ := found
  obtain ⟨rest, records⟩ := List.head?_eq_some_iff.mp opened.head
  obtain ⟨⟨later, split⟩, -⟩ := progress.flushing records phase current
  let e : PlanEntry := (record, m, w)
  have counted : versionAt e.place (a.positions db) =
      versionAt e.place db.positions + bookings e.place (plan db a.job.supplierId done) := progress.booked.version
  have last : versionAt e.place db.positions + bookings e.place (plan db a.job.supplierId result.records) ≤
      integerMax := by
    apply fits e
    rw [split]
    exact List.mem_append_right _ List.mem_cons_self
  have mine : bookings e.place (plan db a.job.supplierId done) <
      bookings e.place (plan db a.job.supplierId result.records) := by
    rw [split]
    simp [bookings, List.countP_append, e]
  have version : versionAt e.place (a.positions db) = p.version := by
    have found : positionAt e.place (a.positions db) = some p := (current m w position phase).1.symm.trans read
    rw [versionAt, found]
    rfl
  omega

theorem flushRecord_goes_on {m : SupplierProductMapping} {w : SupplierWarehouseMapping}
    {position : Option InventoryPosition} (storable : PlanEntry.Storable (record, m, w))
    (versionFits : ∀ p ∈ position, p.version < integerMax)
    (row : position = positionAt (w.warehouseId, m.productId) (a.positions db))
    (fresh : a.imported db (recordKey a.job.supplierId record) = false) :
    (∃ b, a.flushRecord db locks record rest m w position = .next b) ∨
      a.flushRecord db locks record rest m w position = .blocked ∧
        ((∃ place, locks.position place = true) ∨ ∃ key, locks.sourceKey key = true) := by
  obtain ⟨⟨storedOnHand, storesOnHand, onHand⟩, ⟨storedReserved, storesReserved, reserved⟩, factor⟩ := storable
  have absent : ¬ (position.isNone && (a.positions db).any fun p => p.key = (w.warehouseId, m.productId)) = true := by
    rw [Bool.and_eq_true_iff, Option.isNone_iff_eq_none, List.any_eq_true]
    rintro ⟨none, p, member, same⟩
    exact Table.lookup_none.mp (row.symm.trans none) p member (of_decide_eq_true same)
  unfold Applying.flushRecord
  dsimp only
  split
  · rename_i x y storesX storesY
    obtain rfl := Option.some.inj (storesX.symm.trans storesOnHand)
    obtain rfl := Option.some.inj (storesY.symm.trans storesReserved)
    rw [dif_pos versionFits]
    by_cases locked : (locks.position (w.warehouseId, m.productId) ||
        locks.sourceKey (recordKey a.job.supplierId record)) = true
    · rw [if_pos locked]
      exact .inr ⟨rfl, (Bool.or_eq_true_iff.mp locked).imp (fun held => ⟨_, held⟩) fun held => ⟨_, held⟩⟩
    · rw [if_neg locked, if_neg (Int.not_lt.mpr onHand), if_neg (Int.not_lt.mpr reserved),
        if_neg (Int.not_le.mpr factor), if_neg absent, if_neg (by simp [fresh])]
      exact .inl ⟨_, rfl⟩
  · rename_i overflows
    exact absurd storesReserved (overflows _ _ storesOnHand)

/-- A statement goes through, or waits for another transaction, when PostgreSQL takes the texts of the
records, the converted quantities of those on the plan, and the version of the position. -/
theorem Progress.goes_on (locks : Locks) (progress : Progress db result done a)
    (records : a.records = record :: rest) (current : a.FlushCurrent db)
    (sendable : ∀ r ∈ result.records, r.sendable = true)
    (storable : ∀ e ∈ plan db a.job.supplierId result.records, e.Storable) (fits : a.FlushFits) :
    (∃ b, a.validateAndApplyRecord db locks record rest = .next b) ∨
      a.validateAndApplyRecord db locks record rest = .blocked ∧
        ((∃ place, locks.position place = true) ∨ ∃ key, locks.sourceKey key = true) := by
  have sent : record.sendable = true := by
    apply sendable
    rw [progress.split, records]
    exact List.mem_append_right _ List.mem_cons_self
  unfold Applying.validateAndApplyRecord
  cases phase : a.phase with
  | duplicateCheck =>
    left
    simp only [sent, Bool.not_true, Bool.false_eq_true, if_false]
    split
    · exact ⟨_, rfl⟩
    · split <;> exact ⟨_, rfl⟩
  | productLookup =>
    left
    dsimp only
    split <;> exact ⟨_, rfl⟩
  | warehouseLookup m =>
    left
    dsimp only
    split
    · exact ⟨_, rfl⟩
    · split
      · exact ⟨_, rfl⟩
      · split
        · exact ⟨_, rfl⟩
        · split <;> exact ⟨_, rfl⟩
  | positionLookup m w => exact .inl ⟨_, rfl⟩
  | flush m w position =>
    obtain ⟨⟨later, split⟩, fresh⟩ := progress.flushing records phase current
    have entry : (record, m, w) ∈ plan db a.job.supplierId result.records := by
      rw [split]
      exact List.mem_append_right _ List.mem_cons_self
    exact flushRecord_goes_on (storable _ entry) (fits m w position phase) (current m w position phase).1 fresh

/-- The other transactions' commits leave a transaction where it was, when they bring neither its source
records nor rows at the places it wrote. -/
theorem Progress.moved {added : List InventorySnapshot} (progress : Progress db result done a)
    (products : after.productMappings = db.productMappings)
    (warehouses : after.warehouseMappings = db.warehouseMappings)
    (snapshots : after.snapshots = db.snapshots ++ added)
    (foreign : ∀ s ∈ added, s.sourceKey ∉ a.snapshots.map InventorySnapshot.sourceKey)
    (positions : ∀ w ∈ a.writes, positionAt w.key after.positions = positionAt w.key db.positions) :
    Progress after result done a := by
  have mapped (r : CanonicalInventoryRecord) :
      mappingsFor after a.job.supplierId r = mappingsFor db a.job.supplierId r :=
    mappingsFor_congr products warehouses
  have kept {key : SourceKey} (imported : db.imported key = true) : after.imported key = true := by
    rw [Database.imported, snapshots, List.any_append]
    exact Bool.or_eq_true_iff.mpr (.inl imported)
  have judged : Firsts.judged (recordKey a.job.supplierId) (planned after a.job.supplierId) [] done =
      Firsts.judged (recordKey a.job.supplierId) (planned db a.job.supplierId) [] done := by
    apply Firsts.judged_congr
    · rintro r ⟨m, w⟩ member
      obtain ⟨unimported, mappings⟩ := planned_some (Firsts.mem_picks member).2.2
      have mine : recordKey a.job.supplierId r ∈ a.snapshots.map InventorySnapshot.sourceKey := by
        rw [progress.booked.keys]
        exact List.mem_map_of_mem (f := fun e : PlanEntry => recordKey a.job.supplierId e.1) member
      have still : after.imported (recordKey a.job.supplierId r) = false := by
        rw [Database.imported, snapshots, List.any_append, Bool.or_eq_false_iff]
        refine ⟨unimported, List.any_eq_false.mpr ?_⟩
        intro s new same
        exact foreign s new (of_decide_eq_true same ▸ mine)
      rw [planned_fresh still, mapped]
      exact mappings
    · intro r _ none
      by_cases imported : db.imported (recordKey a.job.supplierId r) = true
      · exact planned_imported (kept imported)
      · rw [planned_fresh ((Bool.not_eq_true _).mp imported)] at none
        exact planned_none ((mapped r).trans none)
  have plans : plan after a.job.supplierId done = plan db a.job.supplierId done := by
    rw [plan, Firsts.picks, judged]
    rfl
  have turned : turnedAway after a.job.supplierId done = turnedAway db a.job.supplierId done := by
    rw [turnedAway, Firsts.skips, judged]
    rfl
  constructor
  · exact progress.split
  · rw [plans]
    exact progress.booked.transfer positions
  · rw [plans]
    exact progress.storable
  · exact progress.sendable
  · rw [turned]
    exact progress.rows
  · exact progress.found.moved products warehouses fun _ => kept

theorem start_progress (db : Database) (session : WorkerSession) (result : InventoryAdapterResult)
    (events : List OperationEvent) : Progress db result [] (Applying.start db session result events) := by
  obtain ⟨records, -, -, rows⟩ := start_begun db session result events
  obtain ⟨-, -, snapshots, writes⟩ := start_work db session result events
  constructor
  · exact records.symm
  · rw [snapshots, writes]
    exact .nil
  · intro e member
    contradiction
  · intro r member
    contradiction
  · exact rows.trans (List.append_nil _).symm
  · exact start_found db session result events

theorem Progress.loadErrors (progress : Progress db result done a) : Progress db result done (a.loadErrors db) :=
  ⟨progress.split, progress.booked, progress.storable, progress.sendable, progress.rows, progress.found.loadErrors⟩

theorem Progress.through (progress : Progress db result done a) (records : a.records = []) :
    done = result.records := by
  rw [progress.split, records, List.append_nil]

end

end SupplyChainHub
