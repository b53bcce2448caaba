import SupplyChainHub.Shipments.Sending

/-!
Pick-up and delivery. The transition table sees the current status alone, and DELAYED is entered both
before the pick-up and after it: from there IN_TRANSIT and DELIVERED are allowed either way.
-/

namespace SupplyChainHub

/-! ### Events one after another -/

/-- Calls of `add_shipment_event` one after another, whatever each of them answers. -/
def addShipmentEvents (db : ShipmentDatabase) (shipmentId : Id) (requests : List ShipmentEventCreate) :
    ShipmentDatabase :=
  requests.foldl (fun db request => (addShipmentEvent db shipmentId request).db) db

theorem addShipmentEvents_run (hub : ShipmentHub) (id : Id) (requests : List ShipmentEventCreate) :
    ∃ next, ShipmentHub.Run Machine.unguarded hub next ∧ next.db = addShipmentEvents hub.db id requests := by
  induction requests generalizing hub with
  | nil => exact ⟨hub, .refl hub, rfl⟩
  | cons request rest ih =>
    obtain ⟨middle, first, db⟩ := addShipmentEvent_run hub id request
    obtain ⟨next, later, db'⟩ := ih middle
    refine ⟨next, first.trans later, ?_⟩
    rw [db', db]
    rfl

/-- The columns take the text and the reason of the event. -/
def ShipmentEventCreate.storable (request : ShipmentEventCreate) : Bool :=
  !hasNul request.externalEventId.text && !request.reasonCode.any hasNul

/-! ### What a shipment has been through -/

/-- A status and the events accepted on the way to it, by external id and type, and whether the shipment can
be loaded for another. -/
structure Voyage where
  status : ShipmentStatus
  events : List (String × ShipmentEventType)
  loads : Bool
  deriving DecidableEq

namespace Voyage

def knows (v : Voyage) (externalEventId : String) : Bool := v.events.any fun e => e.1 = externalEventId

/-- An event whose time cannot be read back is accepted, and no other after it. -/
def add (v : Voyage) (request : ShipmentEventCreate) : Voyage :=
  if !v.loads || !request.storable || v.knows request.externalEventId.text then v
  else
    match allowedTransitions v.status request.eventType with
    | none => v
    | some status =>
      ⟨status, v.events ++ [(request.externalEventId.text, request.eventType)], readable request.occurredAt⟩

def picked (v : Voyage) : Bool := v.events.any fun e => e.2 = .pickedUp

/-- On its way or delivered only after a pick-up. -/
def Honest (v : Voyage) : Prop := v.status = .inTransit ∨ v.status = .delivered → v.picked = true

end Voyage

def ShipmentDatabase.voyage (db : ShipmentDatabase) (id : Id) : Option Voyage :=
  (db.shipment id).map fun row =>
    ⟨row.status, (db.eventsOf id).map (fun e => (e.externalEventId, e.eventType)), db.loads id⟩

section
variable {hub next : ShipmentHub} {db after : ShipmentDatabase} {id : Id} {row : Shipment} {v : Voyage}
    {l : ShipmentLabel} {request : ShipmentEventCreate} {requests : List ShipmentEventCreate}

theorem hasEvent_iff (text : String) :
    db.hasEvent (id, text) = ((db.eventsOf id).map fun e => (e.externalEventId, e.eventType)).any fun e =>
      e.1 = text := by
  rw [Bool.eq_iff_iff]
  simp [ShipmentDatabase.hasEvent, ShipmentDatabase.eventsOf, ShipmentEvent.key]

theorem written_voyage {p : PendingEvent} (present : db.shipment id = some p.loaded) (loads : db.loads id = true) :
    (p.written db).voyage id = some ⟨p.status,
      ((db.eventsOf id).map fun e => (e.externalEventId, e.eventType)) ++
        [(p.request.externalEventId.text, p.request.eventType)], readable p.request.occurredAt⟩ := by
  have owner : p.loaded.id = id := Table.lookup_key present
  rw [ShipmentDatabase.voyage, shipment_written, if_pos owner.symm, present, Option.map_some, Option.map_some,
    eventsOf_commit, if_pos owner, commit_status p.allowed, List.map_append, loads_written present loads]
  rfl

/-- One call takes the voyage of its shipment one event further. -/
theorem addShipmentEvent_voyage (found : db.voyage id = some v) :
    (addShipmentEvent db id request).db.voyage id = some (v.add request) := by
  have kept := found
  obtain ⟨row, present, rfl⟩ := Option.map_eq_some_iff.mp found
  obtain rfl : row.id = id := Table.lookup_key present
  unfold Voyage.add Voyage.knows ShipmentEventCreate.storable
  rw [← hasEvent_iff]
  cases loads : db.loads row.id with
  | false =>
    rw [addShipmentEvent_unloadable loads]
    simpa [loads] using kept
  | true =>
    rw [loads] at kept
    have effect := addShipmentEvent_effect request present loads
    generalize addShipmentEvent db row.id request = outcome at effect
    cases effect with
    | unsent broken => simpa [broken] using kept
    | refused plain kind cause =>
      rcases cause with taken | stuck
      · simpa [taken] using kept
      · simpa [stuck] using kept
    | unwritten plain free allowed broken => simpa [broken] using kept
    | committed p loaded asked plain free allowed clean =>
      subst loaded asked
      rw [written_voyage present loads]
      simp [plain, free, clean, allowed]

theorem addShipmentEvents_voyage (found : db.voyage id = some v) :
    (addShipmentEvents db id requests).voyage id = some (requests.foldl Voyage.add v) := by
  induction requests generalizing db v with
  | nil => exact found
  | cons request rest ih => exact ih (addShipmentEvent_voyage found)

/-! ### A planned shipment has been nowhere -/

theorem target_planned (e : ShipmentEventType) : e.target ≠ .planned := by
  cases e <;> decide

theorem planned_step (ledger : hub.Ledger) (effect : ShipmentEffect hub l next)
    (untouched : ∀ id row, hub.db.shipment id = some row → row.status = .planned → hub.db.eventsOf id = [])
    (present : next.db.shipment id = some row) (planned : row.status = .planned) : next.db.eventsOf id = [] := by
  cases effect with
  | @created _ new fresh =>
    rw [ShipmentDatabase.shipment, shipment_append fresh] at present
    split at present
    · rename_i same
      subst same
      show hub.db.eventsOf new = []
      exact eventsOf_absent ledger fresh
    · exact untouched id row present planned
  | refused | opened | moved => exact untouched id row present planned
  | @committed call p =>
    rw [shipment_written] at present
    rw [eventsOf_commit]
    split at present
    · obtain ⟨old, found, rfl⟩ := Option.map_eq_some_iff.mp present
      have written : (p.loaded.writeBack p.changed old).status = p.status :=
        Columns.writeBack_dirty (statusAfterEvent_moves p.allowed) old.status
      rw [written, statusAfterEvent_target p.allowed] at planned
      exact absurd planned (target_planned _)
    · rename_i other
      rw [if_neg (Ne.symm other)]
      exact untouched id row present planned

theorem planned_untouched (reached : hub.Reachable) (present : hub.db.shipment id = some row)
    (planned : row.status = .planned) : hub.db.eventsOf id = [] := by
  obtain ⟨start, begins, run⟩ := reached
  refine run.invariant_reachable (P := fun hub => ∀ id row, hub.db.shipment id = some row →
    row.status = .planned → hub.db.eventsOf id = []) ?_ (.start begins) ?_ id row present planned
  · intro s l t reached untouched _ step id row present planned
    exact planned_step (shipment_ledger reached) (shipment_step step) untouched present planned
  · intro id row present
    rw [ShipmentDatabase.shipment, begins.shipments] at present
    cases present

/-! ### Where the pick-up can be left out -/

/-- Of the events after the delay `delayed`, the first that is accepted is a departure or a delivery. -/
def departs (delayed : ShipmentEventCreate) : List ShipmentEventCreate → Bool
  | [] => false
  | request :: rest =>
    if !request.storable || request.externalEventId.text = delayed.externalEventId.text then departs delayed rest
    else
      match allowedTransitions .delayed request.eventType with
      | none => departs delayed rest
      | some status => status = .inTransit || status = .delivered

/-- The first event that a planned shipment accepts is a delay, its time can be read back, and the shipment
departs from there. -/
def skipsPickUp : List ShipmentEventCreate → Bool
  | [] => false
  | request :: rest =>
    if !request.storable then skipsPickUp rest
    else
      match allowedTransitions .planned request.eventType with
      | none => skipsPickUp rest
      | some status => status = .delayed && readable request.occurredAt && departs request rest

/-- Honest at every step of the way. -/
def Voyage.Always (v : Voyage) (requests : List ShipmentEventCreate) : Prop :=
  ∀ before, before <+: requests → (before.foldl Voyage.add v).Honest

theorem always_cons (rest : List ShipmentEventCreate) :
    v.Always (request :: rest) ↔ v.Honest ∧ (v.add request).Always rest := by
  constructor
  · intro always
    refine ⟨always [] List.nil_prefix, ?_⟩
    intro before inside
    exact always (request :: before) (List.cons_prefix_cons.mpr ⟨rfl, inside⟩)
  · rintro ⟨now, later⟩ before inside
    rcases List.prefix_cons_iff.mp inside with rfl | ⟨tail, rfl, shorter⟩
    · exact now
    · exact later tail shorter

theorem picked_add (picked : v.picked = true) : (v.add request).picked = true := by
  unfold Voyage.add
  split
  · exact picked
  · split
    · exact picked
    · unfold Voyage.picked at *
      rw [List.any_append, picked, Bool.true_or]

theorem always_picked (picked : v.picked = true) : v.Always requests := by
  rintro before -
  have kept : (before.foldl Voyage.add v).picked = true := by
    induction before generalizing v with
    | nil => exact picked
    | cons request rest ih => exact ih (picked_add picked)
  exact fun _ => kept

/-- What accepts nothing more stays as honest as it is. -/
theorem always_still (still : ∀ request, v.add request = v) (honest : v.Honest) : v.Always requests := by
  rintro before -
  have same : before.foldl Voyage.add v = v := by
    induction before with
    | nil => rfl
    | cons request rest ih => rw [List.foldl_cons, still, ih]
  rw [same]
  exact honest

theorem always_cancelled (cancelled : v.status = .cancelled) : v.Always requests := by
  refine always_still (fun request => ?_) ?_
  · unfold Voyage.add
    rw [cancelled]
    split <;> rfl
  · rw [Voyage.Honest, cancelled]
    rintro (moving | there) <;> contradiction

theorem always_unloadable (stuck : v.loads = false) (honest : v.Honest) : v.Always requests := by
  refine always_still (fun request => ?_) honest
  rw [Voyage.add, stuck]
  rfl

def delayedBy (request : ShipmentEventCreate) (loads : Bool) : Voyage :=
  ⟨.delayed, [(request.externalEventId.text, .delayed)], loads⟩

theorem delayed_honest (delayed : ShipmentEventCreate) (loads : Bool) : (delayedBy delayed loads).Honest := by
  rintro (moving | there) <;> contradiction

theorem delayed_knows (delayed : ShipmentEventCreate) (loads : Bool) (text : String) :
    (delayedBy delayed loads).knows text = decide (text = delayed.externalEventId.text) := by
  simp [delayedBy, Voyage.knows, eq_comm]

/-- A voyage that left the delay without a pick-up. -/
theorem departed_dishonest {status : ShipmentStatus} {events : List (String × ShipmentEventType)} {loads : Bool}
    (moved : status = .inTransit ∨ status = .delivered) (none : events.any (fun e => e.2 = .pickedUp) = false) :
    ¬Voyage.Always ⟨status, events, loads⟩ requests := by
  intro always
  have picked : events.any (fun e => e.2 = .pickedUp) = true := always [] List.nil_prefix moved
  rw [none] at picked
  contradiction

theorem departs_iff (delayed : ShipmentEventCreate) :
    (delayedBy delayed true).Always requests ↔ departs delayed requests = false := by
  induction requests with
  | nil =>
    refine iff_of_true ?_ rfl
    intro before inside
    rw [List.prefix_nil.mp inside]
    exact delayed_honest delayed true
  | cons request rest ih =>
    rw [always_cons, and_iff_right (delayed_honest delayed true)]
    unfold departs Voyage.add
    rw [delayed_knows]
    by_cases skipped :
        (!request.storable || decide (request.externalEventId.text = delayed.externalEventId.text)) = true
    · rw [if_pos (by simpa [delayedBy] using skipped), if_pos skipped]
      exact ih
    · rw [if_neg (by simpa [delayedBy] using skipped), if_neg skipped]
      cases type : request.eventType with
      | pickedUp | delayed => exact ih
      | cancelled => exact iff_of_true (always_cancelled rfl) rfl
      | inTransit => exact iff_of_false (departed_dishonest (.inl rfl) rfl) nofun
      | delivered => exact iff_of_false (departed_dishonest (.inr rfl) rfl) nofun

theorem skipsPickUp_iff : Voyage.Always ⟨.planned, [], true⟩ requests ↔ skipsPickUp requests = false := by
  have planned : Voyage.Honest ⟨.planned, [], true⟩ := by
    rintro (moving | there) <;> contradiction
  induction requests with
  | nil =>
    refine iff_of_true ?_ rfl
    intro before inside
    rw [List.prefix_nil.mp inside]
    exact planned
  | cons request rest ih =>
    rw [always_cons, and_iff_right planned]
    unfold skipsPickUp Voyage.add
    by_cases skipped : (!request.storable) = true
    · rw [if_pos (by simp [skipped]), if_pos skipped]
      exact ih
    · rw [if_neg (by simpa [Voyage.knows] using skipped), if_neg skipped]
      cases type : request.eventType with
      | pickedUp => exact iff_of_true (always_picked rfl) rfl
      | inTransit | delivered => exact ih
      | cancelled => exact iff_of_true (always_cancelled rfl) rfl
      | delayed =>
        show (delayedBy request (readable request.occurredAt)).Always rest ↔
          (true && readable request.occurredAt && departs request rest) = false
        cases now : readable request.occurredAt with
        | true => exact departs_iff request
        | false => exact iff_of_true (always_unloadable rfl (delayed_honest request false)) rfl

/-- A shipment that is on its way or delivered has an accepted pick-up. -/
def PickedUp (db : ShipmentDatabase) (id : Id) : Prop :=
  ∀ row, db.shipment id = some row → row.status = .inTransit ∨ row.status = .delivered →
    ∃ e ∈ db.eventsOf id, e.eventType = .pickedUp

theorem pickedUp_iff (found : db.voyage id = some v) : PickedUp db id ↔ v.Honest := by
  obtain ⟨row, present, rfl⟩ := Option.map_eq_some_iff.mp found
  unfold PickedUp Voyage.Honest Voyage.picked
  rw [present]
  simp

theorem planned_voyage (reached : hub.Reachable) (present : hub.db.shipment id = some row)
    (planned : row.status = .planned) : hub.db.voyage id = some ⟨.planned, [], row.readable⟩ := by
  have nowhere := planned_untouched reached present planned
  have loads : hub.db.loads id = row.readable := by
    rw [ShipmentDatabase.loads, present, Option.all_some, nowhere, List.all_nil, Bool.and_true]
  rw [ShipmentDatabase.voyage, present, Option.map_some, planned, nowhere, loads]
  rfl

/-- Events sent in turn to a planned shipment keep the promise at every step just when they do not go around
the pick-up: a delay first, and a departure or a delivery from there. A shipment that cannot be loaded takes
no event at all. -/
theorem delivered_was_picked_up (requests : List ShipmentEventCreate) (reached : hub.Reachable)
    (present : hub.db.shipment id = some row) (planned : row.status = .planned) :
    (∀ before, before <+: requests → PickedUp (addShipmentEvents hub.db id before) id) ↔
      ¬(row.readable = true ∧ skipsPickUp requests = true) := by
  have start := planned_voyage reached present planned
  have always : (∀ before, before <+: requests → PickedUp (addShipmentEvents hub.db id before) id) ↔
      Voyage.Always ⟨.planned, [], row.readable⟩ requests :=
    forall_congr' fun before => imp_congr_right fun _ => pickedUp_iff (addShipmentEvents_voyage start)
  rw [always]
  cases row.readable with
  | false =>
    refine iff_of_true (always_unloadable rfl ?_) (by simp)
    rintro (moving | there) <;> contradiction
  | true =>
    rw [skipsPickUp_iff]
    simp

end

namespace SmallYard

def usual : List ShipmentEventCreate := [pickedUp, event ⟨"C-EVT-3", by decide⟩ .inTransit]

def aroundPickUp : List ShipmentEventCreate :=
  [event ⟨"C-EVT-3", by decide⟩ .delayed, event ⟨"C-EVT-4", by decide⟩ .delivered]

end SmallYard

/-- Picked up and then on its way. -/
theorem delivered_was_picked_up_usual : ∃ (hub : ShipmentHub) (row : Shipment), hub.Reachable ∧
    (addShipmentEvents hub.db 3 SmallYard.usual).shipment 3 = some row ∧ row.status = .inTransit ∧
    PickedUp (addShipmentEvents hub.db 3 SmallYard.usual) 3 := by
  obtain ⟨hub, -, reached, shown⟩ := SmallYard.reaches [.create SmallYard.shipment 3]
    (fun hub => (hub.db.shipment 3).any (fun row => row.status = .planned) &&
      ((addShipmentEvents hub.db 3 SmallYard.usual).shipment 3).any fun row => row.status = .inTransit)
    (by decide +kernel)
  simp only [Bool.and_eq_true, Option.any_eq_true, decide_eq_true_eq] at shown
  obtain ⟨⟨row, present, planned⟩, after, found, moving⟩ := shown
  have kept := (delivered_was_picked_up SmallYard.usual reached present planned).mpr fun skips =>
    absurd skips.2 (by decide)
  exact ⟨hub, after, reached, found, moving, kept _ List.prefix_rfl⟩

/-- Delayed while planned, and delivered from there: nothing was ever picked up. -/
theorem delivered_without_pick_up : ∃ (hub : ShipmentHub) (row after : Shipment), hub.Reachable ∧
    hub.db.shipment 3 = some row ∧ row.status = .planned ∧
    (addShipmentEvents hub.db 3 SmallYard.aroundPickUp).shipment 3 = some after ∧ after.status = .delivered ∧
    ((addShipmentEvents hub.db 3 SmallYard.aroundPickUp).eventsOf 3).map (·.eventType) = [.delayed, .delivered] := by
  obtain ⟨hub, -, reached, shown⟩ := SmallYard.reaches [.create SmallYard.shipment 3]
    (fun hub => (hub.db.shipment 3).any (fun row => row.status = .planned) &&
      ((addShipmentEvents hub.db 3 SmallYard.aroundPickUp).shipment 3).any (fun row => row.status = .delivered) &&
      ((addShipmentEvents hub.db 3 SmallYard.aroundPickUp).eventsOf 3).map (·.eventType) = [.delayed, .delivered])
    (by decide +kernel)
  simp only [Bool.and_eq_true, Option.any_eq_true, decide_eq_true_eq] at shown
  obtain ⟨⟨⟨row, present, planned⟩, after, found, delivered⟩, events⟩ := shown
  exact ⟨hub, row, after, reached, present, planned, found, delivered, events⟩

end SupplyChainHub
