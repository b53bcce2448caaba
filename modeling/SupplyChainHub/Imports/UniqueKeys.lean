import SupplyChainHub.Imports.Idempotency
import SupplyChainHub.Imports.Sources
import SupplyChainHub.Inventory.PartnerKeys

/-!
The unique constraints of `infrastructure/db/models.py`, for the tables of the imports. Positions are inserted
from two sides: an open import inserts a position it did not find, and so does `set_inventory`. Neither sees what
the other has not committed.
-/

namespace SupplyChainHub

/-- The key of the position, where the write inserts it. -/
def PositionWrite.inserted (w : PositionWrite) : List (Id × Id) := if w.loaded.isNone then [w.key] else []

def insertedPlaces (writes : List PositionWrite) : List (Id × Id) := writes.flatMap PositionWrite.inserted

def Delivery.insertedPlaces (x : Delivery) : List (Id × Id) := SupplyChainHub.insertedPlaces x.writes

def places (db : Database) : List (Id × Id) := db.positions.map InventoryPosition.key

/-- Positions are distinct, and open imports insert others, each its own. -/
def Hub.PlacesExclusive (hub : Hub) : Prop :=
  Pool.Exclusive Delivery.insertedPlaces (places hub.db) hub.deliveries

section
variable {env : Env} {hub next : Hub} {l : Label} {d : Nat} {w : PositionWrite} {place : Id × Id}
    {positions : List InventoryPosition} {writes : List PositionWrite}

theorem inserted_none (inserts : w.loaded = none) : w.inserted = [w.key] := by simp [PositionWrite.inserted, inserts]

theorem inserted_some {row : InventoryPosition} (updates : w.loaded = some row) : w.inserted = [] := by
  simp [PositionWrite.inserted, updates]

theorem apply_keys : (w.apply positions).map InventoryPosition.key =
    positions.map InventoryPosition.key ++ w.inserted := by
  unfold PositionWrite.apply
  split
  · rename_i inserts
    rw [inserted_none inserts, List.map_append]
    rfl
  · rename_i updates
    rw [inserted_some updates, List.append_nil]
    exact Table.modify_keys fun _ same => same

theorem applyWrites_keys : (applyWrites positions writes).map InventoryPosition.key =
    positions.map InventoryPosition.key ++ insertedPlaces writes := by
  induction writes generalizing positions with
  | nil => exact (List.append_nil _).symm
  | cons w rest ih =>
    have first : (applyWrites positions (w :: rest)).map InventoryPosition.key =
        (w.apply positions).map InventoryPosition.key ++ insertedPlaces rest := ih
    rw [first, apply_keys, List.append_assoc]
    rfl

theorem insertedPlaces_push : insertedPlaces (writes ++ [w]) = insertedPlaces writes ++ w.inserted := by
  simp [insertedPlaces]

theorem inserted_held {x : Delivery} (member : place ∈ x.insertedPlaces) : x.holdsPosition place = true := by
  obtain ⟨w, sent, mine⟩ := List.mem_flatMap.mp member
  refine List.any_eq_true.mpr ⟨w, sent, decide_eq_true ?_⟩
  unfold PositionWrite.inserted at mine
  split at mine
  · exact (List.mem_singleton.mp mine).symm
  · contradiction

theorem unlocked_places (unlocked : (hub.locks d).position place = false) :
    ∀ j x, hub.deliveries[j]? = some x → j ≠ d → place ∉ x.insertedPlaces := by
  intro j x present other member
  have free := Pool.elsewhere_false.mp unlocked j x present other
  rw [inserted_held member] at free
  contradiction

/-- What an import does not find, neither the table nor its own inserts have. -/
theorem not_positioned {db : Database} {a : Applying} (absent : ∀ p ∈ a.positions db, p.key ≠ place) :
    place ∉ places db ∧ place ∉ insertedPlaces a.writes := by
  have keys : (a.positions db).map InventoryPosition.key = places db ++ insertedPlaces a.writes := applyWrites_keys
  have nowhere : place ∉ (a.positions db).map InventoryPosition.key := by
    intro member
    obtain ⟨p, present, same⟩ := List.mem_map.mp member
    exact absent p present same
  rw [keys, List.mem_append, not_or] at nowhere
  exact nowhere

theorem advance_insertedPlaces {x y : Delivery} (exclusive : hub.PlacesExclusive)
    (present : hub.deliveries[d]? = some x) (advance : Advance hub d x y) :
    Pool.Exclusive Delivery.insertedPlaces (places hub.db) (hub.deliveries.set d y) := by
  have none (empty : y.insertedPlaces = []) :
      Pool.Exclusive Delivery.insertedPlaces (places hub.db) (hub.deliveries.set d y) :=
    exclusive.keep present (by rw [empty]; exact List.nil_sublist _)
  have same (kept : y.insertedPlaces = x.insertedPlaces) :
      Pool.Exclusive Delivery.insertedPlaces (places hub.db) (hub.deliveries.set d y) :=
    exclusive.keep present (by rw [kept])
  cases advance with
  | adapted | raised | done => exact none rfl
  | started w result events =>
    have empty := (start_work hub.db w result events).2.2.2
    exact none (congrArg insertedPlaces empty)
  | summarised => exact same rfl
  | @recorded a b head rest _ applied =>
    cases record_progress applied with
    | rejected | unseen | product | warehouse | position => exact same rfl
    | @flushed m w found b phase _ _ _ _ _ _ write writes _ place _ _ _ loaded _ _ _ free _ absent =>
      have sent : Delivery.insertedPlaces (.applying b) = insertedPlaces a.writes ++ write.inserted := by
        show insertedPlaces b.writes = _
        rw [writes]
        exact insertedPlaces_push
      cases found with
      | some row => exact same (by rw [sent, inserted_some loaded, List.append_nil]; rfl)
      | none =>
        obtain ⟨new, mine⟩ := not_positioned (absent rfl)
        rw [inserted_none loaded, place] at sent
        exact exclusive.take present sent new mine (unlocked_places free)

theorem setInventoryCommit_absent {db : Database} {warehouseId productId : Id} {request : InventorySet}
    (h : setInventoryCommit db warehouseId productId request none = .ok w) : (warehouseId, productId) ∉ places db := by
  unfold setInventoryCommit at h
  split at h
  · contradiction
  · split at h
    · contradiction
    · rename_i free
      intro member
      obtain ⟨p, present, same⟩ := List.mem_map.mp member
      have taken : db.positions.any (fun p => p.key = (warehouseId, productId)) = true :=
        List.any_eq_true.mpr ⟨p, present, decide_eq_true same⟩
      exact free (Bool.and_eq_true_iff.mpr ⟨rfl, taken⟩)

/-- Whatever `set_inventory` commits waits for the imports that hold the position. -/
theorem setInventory_places {call : Nat} (exclusive : hub.PlacesExclusive)
    (h : Hub.step env hub (.inventoryCommit call) = some next) : next.PlacesExclusive := by
  simp only [Hub.step, Hub.inventoryCommit] at h
  split at h
  · rename_i warehouseId productId request position _
    split at h
    · contradiction
    · rename_i unheld
      split at h
      · cases h
        exact exclusive
      · rename_i write committed
        cases h
        have keys : places { hub.db with positions := write.apply hub.db.positions } =
            places hub.db ++ write.inserted := apply_keys
        show Pool.Exclusive Delivery.insertedPlaces _ hub.deliveries
        rw [keys]
        obtain ⟨-, loaded, same⟩ := setInventoryCommit_origin committed
        cases position with
        | some row =>
          rw [inserted_some loaded, List.append_nil]
          exact exclusive
        | none =>
          rw [inserted_none loaded, same]
          refine exclusive.grow (setInventoryCommit_absent committed) ?_
          intro j x present member
          exact unheld (List.any_eq_true.mpr ⟨x, List.mem_of_getElem? present, inserted_held member⟩)
  · contradiction

theorem effect_placesExclusive (ledger : Ledger hub.db) (exclusive : hub.PlacesExclusive)
    (quiet : ∀ call, l ≠ .inventoryCommit call) (effect : Effect env hub next l) : next.PlacesExclusive := by
  obtain ⟨positions, -⟩ := effect_positions ledger effect
  have keys : places next.db = places hub.db ++ insertedPlaces (hub.commits l) := by
    show next.db.positions.map _ = _
    rw [positions, applyWrites_keys]
    rfl
  have unsent (moves : Moves hub next.deliveries) (none : hub.commits l = []) : next.PlacesExclusive := by
    unfold Hub.PlacesExclusive
    rw [keys, none, insertedPlaces, List.flatMap_nil, List.append_nil]
    generalize next.deliveries = after at moves
    cases moves with
    | same => exact exclusive
    | delivered => exact exclusive.push rfl
    | advanced present advance => exact advance_insertedPlaces exclusive present advance
  have still (same : next.deliveries = hub.deliveries) (none : hub.commits l = []) : next.PlacesExclusive :=
    unsent (same ▸ .same) none
  cases effect with
  | reads _ _ log _ moves worker =>
    refine unsent moves ?_
    cases l with
    | complete d now =>
      rw [(worker rfl).2] at log
      exact List.self_eq_append_right.mp log
    | inventoryCommit call => exact absurd rfl (quiet call)
    | _ => rfl
  | submitted _ _ _ deliveries | dispatched _ _ deliveries | recovered _ _ deliveries => exact still deliveries rfl
  | claimed received _ _ deliveries =>
    unfold Hub.PlacesExclusive
    rw [keys, deliveries]
    exact (List.append_nil _).symm ▸ exclusive.keep received (List.Sublist.refl [])
  | reported raised _ _ deliveries => exact unsent (deliveries ▸ .advanced raised (.done _)) rfl
  | @completed d now a rejected closing current _ _ deliveries =>
    have sent : hub.commits (.complete d now) = a.writes := by simp [Hub.commits, closing, current]
    unfold Hub.PlacesExclusive
    rw [keys, deliveries, sent]
    exact exclusive.commit closing rfl

theorem reachable_placesExclusive (reached : Hub.Reachable env hub) : hub.PlacesExclusive := by
  obtain ⟨start, begins, run⟩ := reached
  refine run.invariant_reachable (P := Hub.PlacesExclusive) ?_ (.start begins) ?_
  · intro s l t reached exclusive _ step
    by_cases commit : ∃ call, l = .inventoryCommit call
    · obtain ⟨call, rfl⟩ := commit
      exact setInventory_places exclusive step
    · have quiet (call : Nat) (same : l = .inventoryCommit call) : False := commit ⟨call, same⟩
      exact effect_placesExclusive (reachable_ledger reached) exclusive quiet (step_effect step)
  · unfold Hub.PlacesExclusive
    rw [begins.deliveries]
    exact .opening begins.positions

/-! ### Every table -/

/-- The primary key of jobs and the unique constraints of the tables. -/
structure Database.UniqueKeys (db : Database) : Prop extends db.MappingsUnique where
  positions : (db.positions.map InventoryPosition.key).Nodup
  jobIds : (db.jobs.map ImportJob.id).Nodup
  jobs : (db.jobs.map ImportJob.idempotency).Nodup
  attempts : (db.attempts.map ImportAttempt.key).Nodup
  snapshots : (db.snapshots.map InventorySnapshot.sourceKey).Nodup

theorem submissions_unique (ledger : Ledger hub.db) (submitted : SubmissionLedger hub) :
    (hub.db.jobs.map ImportJob.idempotency).Nodup := by
  refine (List.nodup_map_iff_inj_on (ledger.ids.of_map _)).mpr ?_
  intro j mine j' other same
  have known (x : ImportJob) (present : x ∈ hub.db.jobs) :
      hub.db.identity x.id = some (x.idempotency, x.contentSha256) :=
    congrArg (Option.map ImportJob.identity) (Table.lookup_of_mem ledger.ids present)
  have ids := submitted.unique j.id j'.id j.idempotency _ _ (known j mine) (same ▸ known j' other)
  exact List.inj_on_of_nodup_map ledger.ids mine other ids

/-- Every commit keeps the unique constraints, however the sessions interleave. -/
theorem unique_keys_hold (reached : Hub.Reachable env hub) : hub.db.UniqueKeys where
  toMappingsUnique := reachable_unique reached
  positions := (reachable_placesExclusive reached).distinct
  jobIds := (reachable_ledger reached).ids
  jobs := submissions_unique (reachable_ledger reached) (reachable_submissions reached)
  attempts := (reachable_ledger reached).keys
  snapshots := (reachable_exclusive reached).distinct

end

/-- The one line of the file, imported. -/
theorem unique_keys_hold_stocked : ∃ hub, Hub.Reachable Small.env hub ∧ hub.db.UniqueKeys ∧
    hub.positionLog.length = 1 ∧ hub.db.snapshots.length = 1 := by
  obtain ⟨hub, -, reached, shown⟩ := Small.reaches (Small.submitted ++ Small.claimed 0 (Small.moment 1) ++
    Small.applied 0 (Small.moment 1) ++ Small.completed 0 (Small.moment 2))
    (fun hub => decide (hub.positionLog.length = 1) && decide (hub.db.snapshots.length = 1)) (by decide +kernel)
  simp only [Bool.and_eq_true, decide_eq_true_eq] at shown
  exact ⟨hub, reached, unique_keys_hold reached, shown.1, shown.2⟩

end SupplyChainHub
