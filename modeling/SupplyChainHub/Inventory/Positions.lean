import SupplyChainHub.Imports.Transactions
import SupplyChainHub.Library.Registers

/-!
Inventory positions under concurrent writers. Every writer reads without a lock and updates only the
columns that differ from what it read, so a position is a register, as its version column promises,
just as long as every committed write was computed from the row it replaces.
-/

namespace SupplyChainHub

def InventoryPosition.register (p : InventoryPosition) : Register (Numeric183 × Numeric183) :=
  ⟨p.version, (p.onHandQuantity, p.reservedQuantity)⟩

def PositionWrite.pair (w : PositionWrite) : Numeric183 × Numeric183 := (w.storedOnHand, w.storedReserved)

abbrev positionAt (place : Id × Id) (positions : List InventoryPosition) : Option InventoryPosition :=
  Table.lookup InventoryPosition.key place positions

def writesAt (place : Id × Id) (writes : List PositionWrite) : List PositionWrite :=
  writes.filter fun w => w.key = place

/-- Each of the writes to a place was computed from the row it finds. -/
def Current (place : Id × Id) : List InventoryPosition → List PositionWrite → Prop
  | _, [] => True
  | positions, w :: rest =>
    (w.key = place → w.loaded = positionAt place positions) ∧ Current place (w.apply positions) rest

instance decidableCurrent (place : Id × Id) : (positions : List InventoryPosition) → (writes : List PositionWrite) →
    Decidable (Current place positions writes)
  | _, [] => .isTrue trivial
  | positions, w :: rest =>
    have := decidableCurrent place (w.apply positions) rest
    inferInstanceAs (Decidable (_ ∧ _))

section
variable {place : Id × Id} {positions : List InventoryPosition} {w : PositionWrite}
    {p row loaded : InventoryPosition} {writes log : List PositionWrite}

/-! ### One write -/

theorem update_fresh : (w.update row row).register = row.register.write w.pair := by
  have onHand : w.onHand = row.onHandQuantity.value → w.storedOnHand = row.onHandQuantity := by
    intro same
    have stores := w.storesOnHand
    rw [same, Numeric183.store_value] at stores
    exact (Option.some.inj stores).symm
  have reserved : w.reserved = row.reservedQuantity.value → w.storedReserved = row.reservedQuantity := by
    intro same
    have stores := w.storesReserved
    rw [same, Numeric183.store_value] at stores
    exact (Option.some.inj stores).symm
  simp only [InventoryPosition.register, PositionWrite.update, Columns.writeAs_fresh onHand,
    Columns.writeAs_fresh reserved, Columns.writeBack_fresh]
  rfl

/-- However stale the row it was computed from, a write leaves that row's version, and one more. -/
theorem update_version : (w.update loaded row).version = loaded.version + 1 :=
  Columns.writeBack_dirty (Nat.succ_ne_self _) _

theorem apply_other (other : w.key ≠ place) : positionAt place (w.apply positions) = positionAt place positions := by
  unfold PositionWrite.apply
  split
  · have elsewhere : InventoryPosition.key ⟨w.warehouseId, w.productId, w.storedOnHand, w.storedReserved, 1⟩ ≠
      place := other
    rw [positionAt, Table.lookup_append, Table.lookup_cons, if_neg elsewhere, Table.lookup_nil, Option.or_none]
  · exact Table.lookup_modify_other (fun _ same => same) (Ne.symm other)

theorem apply_self (mine : w.key = place) (read : w.loaded = some loaded)
    (present : positionAt place positions = some row) :
    positionAt place (w.apply positions) = some (w.update loaded row) := by
  subst mine
  have updated : positionAt w.key (Table.modify InventoryPosition.key w.key (w.update loaded) positions) =
      (positionAt w.key positions).map (w.update loaded) := Table.lookup_modify_self fun _ same => same
  simp only [PositionWrite.apply, read]
  rw [updated, present]
  rfl

/-! ### Many writes -/

theorem writesAt_cons : writesAt place (w :: writes) =
    if w.key = place then w :: writesAt place writes else writesAt place writes := by
  by_cases mine : w.key = place <;> simp [writesAt, mine]

theorem current_register (present : positionAt place positions = some row)
    (current : Current place positions writes) :
    ∃ after, positionAt place (applyWrites positions writes) = some after ∧
      after.register = row.register.writes ((writesAt place writes).map PositionWrite.pair) := by
  induction writes generalizing positions row with
  | nil => exact ⟨row, present, rfl⟩
  | cons w rest ih =>
    obtain ⟨read, later⟩ := current
    rw [writesAt_cons]
    by_cases mine : w.key = place
    · have loaded : w.loaded = some row := (read mine).trans present
      obtain ⟨after, found, same⟩ := ih (apply_self mine loaded present) later
      refine ⟨after, found, ?_⟩
      rw [if_pos mine, List.map_cons, Register.writes_cons, ← update_fresh]
      exact same
    · rw [if_neg mine]
      exact ih ((apply_other mine).trans present) later

/-- A write computed from another version than the one it replaces breaks the count. -/
theorem stale_write_miscounts (mine : w.key = place) (read : w.loaded = some loaded)
    (present : positionAt place positions = some row) (stale : loaded.version ≠ row.version) :
    ∃ after, positionAt place (w.apply positions) = some after ∧
      after.version ≠ row.version + (writesAt place [w]).length := by
  refine ⟨_, apply_self mine read present, ?_⟩
  rw [update_version, writesAt_cons, if_pos mine]
  show loaded.version + 1 ≠ row.version + 1
  omega

end

/-! ### Whole runs -/

/-- What the step commits to the place was computed from the row it replaces. -/
def CommitsCurrent (place : Id × Id) (hub : Hub) (l : Label) : Prop :=
  Current place hub.db.positions (hub.commits l)

instance (place : Id × Id) (hub : Hub) (l : Label) : Decidable (CommitsCurrent place hub l) :=
  inferInstanceAs (Decidable (Current _ _ _))

/-- In a run in which every write committed to a position was computed from the row it replaces, whatever
sessions were at work when it began, the position holds the quantities of the last of them, both, and its
version counts them all. -/
theorem position_is_register {env : Env} {start hub : Hub} {warehouseId productId : Id}
    {first : InventoryPosition} (reached : Hub.Reachable env start)
    (present : start.db.position warehouseId productId = some first)
    (run : Hub.Run env (CommitsCurrent (warehouseId, productId)) start hub) :
    ∃ row writes, hub.db.position warehouseId productId = some row ∧
      hub.positionLog = start.positionLog ++ writes ∧
      row.version = first.version + (writesAt (warehouseId, productId) writes).length ∧
      (row.onHandQuantity, row.reservedQuantity) =
        ((writesAt (warehouseId, productId) writes).map PositionWrite.pair).getLast?.getD
          (first.onHandQuantity, first.reservedQuantity) := by
  have register : ∃ row writes, hub.db.position warehouseId productId = some row ∧
      hub.positionLog = start.positionLog ++ writes ∧ row.register =
        first.register.writes ((writesAt (warehouseId, productId) writes).map PositionWrite.pair) := by
    refine run.invariant_reachable (P := fun hub => ∃ row writes,
      hub.db.position warehouseId productId = some row ∧ hub.positionLog = start.positionLog ++ writes ∧
      row.register = first.register.writes ((writesAt (warehouseId, productId) writes).map PositionWrite.pair))
      ?_ reached ⟨first, [], present, (List.append_nil _).symm, rfl⟩
    rintro s l t reached ⟨row, writes, found, logged, same⟩ met step
    obtain ⟨positions, log⟩ := effect_positions (reachable_ledger reached) (step_effect step)
    obtain ⟨after, updated, written⟩ := current_register found met
    refine ⟨after, writes ++ s.commits l, ?_, ?_, ?_⟩
    · rw [Database.position, positions]
      exact updated
    · rw [log, logged, List.append_assoc]
    · rw [written, same, ← Register.writes_append, writesAt, writesAt, writesAt, List.filter_append,
        List.map_append]
  obtain ⟨row, writes, found, logged, same⟩ := register
  refine ⟨row, writes, found, logged, ?_, ?_⟩
  · have counted := congrArg Register.version same
    rw [Register.writes_version, List.length_map] at counted
    exact counted
  · have stored := congrArg Register.value same
    rw [Register.writes_value] at stored
    exact stored

/-- A `set_inventory` call in the middle of an execution, which looks the position up after it. -/
def Small.interrupted : List Label :=
  submitted ++ claimed 0 (moment 1) ++ [.adapt 0 true (moment 1), .start 0, .record 0, .record 0,
    .inventoryRead 20 10 ⟨7, 2⟩, .record 0, .inventoryCommit 0, .record 0, .record 0, .summarise 0,
    .complete 0 (moment 2)]

theorem position_is_register_once : ∃ hub row, Hub.Run Small.env (CommitsCurrent (20, 10)) Small.hub hub ∧
    hub.db.position 20 10 = some row ∧ row.version = 3 ∧
    (row.onHandQuantity, row.reservedQuantity) = (Small.numeric 36000, Small.numeric 0) := by
  have shown : (Machine.exec (Machine.checked (Hub.step Small.env) fun hub l =>
      decide (CommitsCurrent (20, 10) hub l)) Small.hub Small.interrupted).any
        (fun hub => (writesAt (20, 10) hub.positionLog).map PositionWrite.pair =
          [(Small.numeric 7000, Small.numeric 2000), (Small.numeric 36000, Small.numeric 0)]) = true := by
    decide +kernel
  simp only [Option.any_eq_true, decide_eq_true_eq] at shown
  obtain ⟨hub, steps, pairs⟩ := shown
  have run : Hub.Run Small.env (CommitsCurrent (20, 10)) Small.hub hub :=
    Machine.exec_run_checked (fun _ _ => of_decide_eq_true) steps
  have stocked : Small.hub.db.position 20 10 = some ⟨20, 10, Small.numeric 10000, Small.numeric 2000, 1⟩ := by
    decide
  obtain ⟨row, writes, found, logged, version, quantities⟩ :=
    position_is_register (.start Small.initial) stocked run
  rw [logged, Small.initial.positionLog, List.nil_append] at pairs
  have counted : (writesAt (20, 10) writes).length = 2 := by
    rw [← List.length_map (f := PositionWrite.pair), pairs]
    rfl
  refine ⟨hub, row, run, found, ?_, ?_⟩
  · rw [version, counted]
  · rw [quantities, pairs]
    rfl

/-- Two calls read the same row. The second finds its reserved quantity unchanged and leaves that column
out of its UPDATE: the row holds the on-hand quantity of one request and the reserved quantity of the
other, and counts one write of the two. -/
theorem concurrent_writes_tear : ∃ hub row, Hub.Reachable Small.env hub ∧ hub.db.position 20 10 = some row ∧
    (writesAt (20, 10) hub.positionLog).map PositionWrite.pair =
      [(Small.numeric 10000, Small.numeric 5000), (Small.numeric 7000, Small.numeric 2000)] ∧
    (row.onHandQuantity, row.reservedQuantity) = (Small.numeric 7000, Small.numeric 5000) ∧
    row.version = 2 := by
  obtain ⟨hub, -, reached, shown⟩ := Small.reaches
    [.inventoryRead 20 10 ⟨10, 5⟩, .inventoryRead 20 10 ⟨7, 2⟩, .inventoryCommit 0, .inventoryCommit 1]
    (fun hub => (hub.db.position 20 10).any fun row =>
      (writesAt (20, 10) hub.positionLog).map PositionWrite.pair =
        [(Small.numeric 10000, Small.numeric 5000), (Small.numeric 7000, Small.numeric 2000)] &&
      (row.onHandQuantity, row.reservedQuantity) = (Small.numeric 7000, Small.numeric 5000) &&
      row.version = 2)
    (by decide +kernel)
  simp only [Option.any_eq_true, Bool.and_eq_true, decide_eq_true_eq] at shown
  obtain ⟨row, found, ⟨pairs, quantities⟩, version⟩ := shown
  exact ⟨hub, row, reached, found, pairs, quantities, version⟩

end SupplyChainHub
