import SupplyChainHub.Shipments.Origins
import SupplyChainHub.Shipments.Sending

/-!
The carrier webhook beside the event API. Both end in `add_shipment_event`, but the webhook finds its
shipment by a string it does not strip, and its request was not validated as one of the API before.
-/

namespace SupplyChainHub

/-! ### The two endpoints -/

/-- `receive_carrier_c_event` with no other call at work. The row that its session holds is then the one that
`get_shipment` finds. -/
def receiveCarrierEvent (db : ShipmentDatabase) (payload : CarrierCEvent) : CallOutcome ShipmentDatabase :=
  match receiveCarrierCEvent payload with
  | .received event =>
    match processCarrierEvent db event with
    | .requested shipmentId request _ => addShipmentEvent db shipmentId request
    | call => ⟨db, call.error⟩
  | call => ⟨db, call.error⟩

def AwareDatetime.instant (t : AwareDatetime) : Moment := t.clock - t.offset

/-- The same event sent to a shipment by hand; `none` is a request that does not pass validation. -/
def manualEvent (db : ShipmentDatabase) (shipmentId : Id) (payload : CarrierCEvent) :
    Option (CallOutcome ShipmentDatabase) :=
  (ShipmentEventCreate.validate payload.eventId payload.event payload.eventTime.instant payload.reasonCode).map
    (addShipmentEvent db shipmentId)

/-! ### When they agree -/

namespace CarrierCEvent

/-- The event is the request that the API would make of it, for this shipment and no other; or neither
gets as far as that, for both load a row that cannot be read. -/
structure Addresses (payload : CarrierCEvent) (db : ShipmentDatabase) (s : Shipment) : Prop where
  unpadded : ¬ Padded payload.trackingNumber
  converts : payload.eventTime.Converts
  named : stripWhitespace payload.eventId ≠ ""
  single : (∀ other ∈ db.shipments, other.trackingReference = s.trackingReference → other = s) ∨
    (∃ other ∈ db.shipments, other.trackingReference = s.trackingReference ∧ other.readable = false) ∧
      db.loads s.id = false

/-- Nothing in the event or in the shipment is refused by the program or the database on the way. -/
structure Sound (payload : CarrierCEvent) (db : ShipmentDatabase) : Prop where
  converts : payload.eventTime.Converts
  plain : hasNul payload.trackingNumber = false
  rows : ∀ s ∈ db.tracked payload.trackingNumber, s.readable = true
  loads : ∀ s, db.tracked payload.trackingNumber = [s] → db.loads s.id = true
  named : ∀ s, db.tracked payload.trackingNumber = [s] →
    stripWhitespace payload.eventId ≠ "" ∧ hasNul payload.eventId = false
  reasoned : ∀ s, db.tracked payload.trackingNumber = [s] →
    db.hasEvent (s.id, stripWhitespace payload.eventId) = true ∨
      allowedTransitions s.status payload.event = none ∨ payload.reasonCode.any hasNul = false

end CarrierCEvent

section
variable {hub : ShipmentHub} {db : ShipmentDatabase} {asked : Id → String} {id : Id} {s : Shipment}
    {request : ShipmentEventCreate} {payload : CarrierCEvent}

/-! ### Finding the shipment -/

theorem receive_converted (converts : payload.eventTime.Converts) : receiveCarrierCEvent payload = .received {
    externalEventId := payload.eventId
    trackingReference := payload.trackingNumber
    eventType := payload.event
    occurredAt := payload.eventTime.instant
    reasonCode := payload.reasonCode } := by
  rw [receiveCarrierCEvent, CarrierCEvent.adapt, AwareDatetime.astimezone, if_pos converts]
  rfl

theorem receive_unconverted (fails : ¬ payload.eventTime.Converts) :
    receiveCarrierEvent db payload = ⟨db, some (.unmapped ⟨[], "date value out of range"⟩)⟩ := by
  rw [receiveCarrierEvent, receiveCarrierCEvent, CarrierCEvent.adapt, AwareDatetime.astimezone, if_neg fails]
  rfl

theorem eventCreate_none (payload : CarrierCEvent) (occurredAt : Moment) :
    ShipmentEventCreate.validate payload.eventId payload.event occurredAt payload.reasonCode = none ↔
      stripWhitespace payload.eventId = "" := by
  rw [ShipmentEventCreate.validate, dif_pos payload.reasonCode_fits, Option.map_eq_none_iff]
  exact validate_none_iff payload.eventId_bounds.2

theorem eventCreate_some {occurredAt : Moment}
    (h : ShipmentEventCreate.validate payload.eventId payload.event occurredAt payload.reasonCode = some request) :
    request.externalEventId.text = stripWhitespace payload.eventId ∧ request.eventType = payload.event ∧
      request.occurredAt = occurredAt ∧ request.reasonCode = payload.reasonCode := by
  rw [ShipmentEventCreate.validate, dif_pos payload.reasonCode_fits] at h
  obtain ⟨reference, accepted, rfl⟩ := Option.map_eq_some_iff.mp h
  exact ⟨validate_text accepted, rfl, rfl, rfl⟩

section
variable (converts : payload.eventTime.Converts)
include converts

theorem receive_nul (broken : hasNul payload.trackingNumber = true) :
    receiveCarrierEvent db payload = ⟨db, some (.unmapped nulError)⟩ := by
  rw [receiveCarrierEvent, receive_converted converts]
  dsimp only
  rw [processCarrierEvent, broken]
  rfl

variable (plain : hasNul payload.trackingNumber = false)
include plain

theorem receive_unreadable (fails : (db.tracked payload.trackingNumber).all Shipment.readable = false) :
    receiveCarrierEvent db payload = ⟨db, some (.unmapped timestampError)⟩ := by
  rw [receiveCarrierEvent, receive_converted converts]
  dsimp only
  rw [processCarrierEvent, plain, fails]
  rfl

variable (rows : (db.tracked payload.trackingNumber).all Shipment.readable = true)
include rows

theorem receive_untracked (found : db.tracked payload.trackingNumber = []) :
    ∃ text, receiveCarrierEvent db payload = ⟨db, some (.domain (.resourceNotFound text))⟩ := by
  rw [receiveCarrierEvent, receive_converted converts]
  dsimp only
  rw [processCarrierEvent, plain, rows, found]
  exact ⟨_, rfl⟩

theorem receive_tracked (found : db.tracked payload.trackingNumber = [s]) :
    receiveCarrierEvent db payload = (manualEvent db s.id payload).getD
      ⟨db, some (.unmapped ⟨[], "validation error for ShipmentEventCreate"⟩)⟩ := by
  rw [receiveCarrierEvent, receive_converted converts]
  dsimp only
  rw [processCarrierEvent, plain, rows, found, manualEvent]
  dsimp only
  cases ShipmentEventCreate.validate payload.eventId payload.event payload.eventTime.instant payload.reasonCode with
  | none => rfl
  | some request => rfl

theorem receive_ambiguous {first second : Shipment} {rest : List Shipment}
    (found : db.tracked payload.trackingNumber = first :: second :: rest) :
    receiveCarrierEvent db payload = ⟨db, some (.domain (.resourceConflict
      "The tracking reference matches multiple suppliers; the Carrier C event is ambiguous."))⟩ := by
  rw [receiveCarrierEvent, receive_converted converts]
  dsimp only
  rw [processCarrierEvent, plain, rows, found]
  rfl

end

theorem tracked_single (created : db.CreatedFrom asked) (present : s ∈ db.shipments)
    (single : ∀ other ∈ db.shipments, other.trackingReference = s.trackingReference → other = s) :
    db.tracked s.trackingReference = [s] := by
  have distinct : (db.tracked s.trackingReference).Nodup := created.ids.of_map.filter _
  rw [← List.perm_singleton, List.perm_ext_iff_of_nodup distinct (List.nodup_singleton s)]
  intro other
  rw [ShipmentDatabase.tracked, List.mem_filter, List.mem_singleton, decide_eq_true_eq]
  constructor
  · rintro ⟨member, same⟩
    exact single other member same
  · rintro rfl
    exact ⟨present, rfl⟩

theorem mem_tracked {text : String} : s ∈ db.tracked text ↔ s ∈ db.shipments ∧ s.trackingReference = text := by
  rw [ShipmentDatabase.tracked, List.mem_filter, decide_eq_true_eq]

theorem conflicts_differ (request : ShipmentEventCreate) : eventExists request ≠ .resourceConflict
    "The tracking reference matches multiple suppliers; the Carrier C event is ambiguous." := by
  intro same
  have texts := congrArg String.toList (DomainError.resourceConflict.inj same)
  have heads := congrArg List.head? texts
  rw [String.toList_append, String.toList_append] at heads
  exact absurd heads (by simp)

/-! ### Refinement -/

theorem readable_instant (converts : payload.eventTime.Converts) : readable payload.eventTime.instant = true := by
  rw [readable, Bool.and_eq_true, decide_eq_true_eq, decide_eq_true_eq]
  exact converts

theorem receive_manual_iff (created : db.CreatedFrom asked) (present : s ∈ db.shipments)
    (named : asked s.id = payload.trackingNumber) :
    some (receiveCarrierEvent db payload) = manualEvent db s.id payload ↔ payload.Addresses db s := by
  have plain : hasNul payload.trackingNumber = false := named ▸ created.storable s present
  have stored : s.trackingReference = stripWhitespace payload.trackingNumber :=
    named ▸ reference_stripped created present
  have found : db.shipment s.id = some s := Table.lookup_of_mem created.ids present
  have unstripped (unpadded : ¬ Padded payload.trackingNumber) : s.trackingReference = payload.trackingNumber :=
    stored.trans ((stripped_iff _).mpr unpadded)
  constructor
  · intro same
    obtain ⟨request, accepted, sent⟩ := Option.map_eq_some_iff.mp same.symm
    have nonblank : stripWhitespace payload.eventId ≠ "" := by
      intro blank
      rw [(eventCreate_none payload _).mpr blank] at accepted
      cases accepted
    have converts : payload.eventTime.Converts := by
      by_contra fails
      rw [receive_unconverted fails] at sent
      rcases addShipmentEvent_error found (congrArg CallOutcome.error sent) with ⟨_, same, kind⟩ | ⟨_, same, -⟩
      · cases same
        exact absurd kind (by decide)
      · cases same
    have unpadded_of {other : Shipment} (member : other ∈ db.tracked payload.trackingNumber) :
        ¬ Padded payload.trackingNumber := by
      obtain ⟨there, same⟩ := mem_tracked.mp member
      rw [← same, reference_stripped created there]
      exact strip_not_padded _
    cases rows : (db.tracked payload.trackingNumber).all Shipment.readable with
    | false =>
      rw [receive_unreadable converts plain rows] at sent
      obtain ⟨other, member, fails⟩ := List.all_eq_false.mp rows
      have unpadded := unpadded_of member
      obtain ⟨there, same⟩ := mem_tracked.mp member
      exact ⟨unpadded, converts, nonblank, .inr ⟨⟨other, there, same.trans (unstripped unpadded).symm,
        Bool.eq_false_of_not_eq_true fails⟩, addShipmentEvent_timestamp found sent⟩⟩
    | true =>
      have domain {d : DomainError} (refused : receiveCarrierEvent db payload = ⟨db, some (.domain d)⟩) :
          d = eventExists request ∨ ∃ text, d = .domainValidation text := by
        rw [refused] at sent
        rcases addShipmentEvent_error found (congrArg CallOutcome.error sent) with ⟨_, same, -⟩ | ⟨_, same, kind⟩
        · cases same
        · cases same
          exact kind
      match tracked : db.tracked payload.trackingNumber with
      | [] =>
        obtain ⟨text, refused⟩ := receive_untracked converts plain rows tracked
        rcases domain refused with other | ⟨_, other⟩ <;> cases other
      | [only] =>
        have unpadded := unpadded_of (tracked ▸ List.mem_singleton_self only)
        have its {other : Shipment} (there : other ∈ db.shipments)
            (same : other.trackingReference = s.trackingReference) : other = only := by
          have member := mem_tracked.mpr ⟨there, same.trans (unstripped unpadded)⟩
          rw [tracked] at member
          exact List.mem_singleton.mp member
        refine ⟨unpadded, converts, nonblank, .inl fun other there same => ?_⟩
        rw [its there same, its present rfl]
      | _ :: _ :: _ =>
        rcases domain (receive_ambiguous converts plain rows tracked) with conflict | ⟨_, invalid⟩
        · exact absurd conflict.symm (conflicts_differ request)
        · cases invalid
  · rintro ⟨unpadded, converts, nonblank, single⟩
    have reference := unstripped unpadded
    cases manual : manualEvent db s.id payload with
    | none => exact absurd ((eventCreate_none payload _).mp (Option.map_eq_none_iff.mp manual)) nonblank
    | some outcome =>
      cases rows : (db.tracked payload.trackingNumber).all Shipment.readable with
      | true =>
        rcases single with single | ⟨⟨other, there, same, fails⟩, -⟩
        · have only := tracked_single created present single
          rw [reference] at only
          rw [receive_tracked converts plain rows only, manual]
          rfl
        · have read := List.all_eq_true.mp rows other (mem_tracked.mpr ⟨there, same.trans reference⟩)
          rw [fails] at read
          cases read
      | false =>
        have fails : db.loads s.id = false := by
          rcases single with single | ⟨-, fails⟩
          · obtain ⟨other, member, unreadable⟩ := List.all_eq_false.mp rows
            obtain ⟨there, same⟩ := mem_tracked.mp member
            obtain rfl := single other there (same.trans reference.symm)
            exact loads_row found (Bool.eq_false_of_not_eq_true unreadable)
          · exact fails
        obtain ⟨request, -, rfl⟩ := Option.map_eq_some_iff.mp manual
        rw [receive_unreadable converts plain rows, addShipmentEvent_unloadable fails]

theorem receive_tracked_answered (created : db.CreatedFrom asked) (converts : payload.eventTime.Converts)
    (plain : hasNul payload.trackingNumber = false)
    (rows : (db.tracked payload.trackingNumber).all Shipment.readable = true)
    (only : db.tracked payload.trackingNumber = [s]) :
    (receiveCarrierEvent db payload).Answered [404, 409, 422] db ↔
      db.loads s.id = true ∧ (stripWhitespace payload.eventId ≠ "" ∧ hasNul payload.eventId = false) ∧
        (db.hasEvent (s.id, stripWhitespace payload.eventId) = true ∨
          allowedTransitions s.status payload.event = none ∨ payload.reasonCode.any hasNul = false) := by
  have present : s ∈ db.shipments := (mem_tracked.mp (only ▸ List.mem_singleton_self s)).1
  have found : db.shipment s.id = some s := Table.lookup_of_mem created.ids present
  rw [receive_tracked converts plain rows only]
  cases manual : manualEvent db s.id payload with
  | none =>
    have blank := (eventCreate_none payload _).mp (Option.map_eq_none_iff.mp manual)
    exact iff_of_false (CallOutcome.not_answered _ _ _ _) (by simp [blank])
  | some outcome =>
    obtain ⟨request, accepted, rfl⟩ := Option.map_eq_some_iff.mp manual
    obtain ⟨text, type, time, reason⟩ := eventCreate_some accepted
    have nonblank : stripWhitespace payload.eventId ≠ "" := by
      intro blank
      rw [(eventCreate_none payload _).mpr blank] at accepted
      cases accepted
    have covered : ∀ code ∈ [404, 409, 422], code ∈ [404, 409, 422] := fun _ member => member
    have mapped := addShipmentEvent_mapped request found covered
    rw [text, type, time, reason, strip_hasNul, readable_instant converts] at mapped
    rw [Option.getD_some, CallOutcome.Answered, and_iff_left_of_imp addShipmentEvent_unchanged, mapped]
    simp only [ne_eq, nonblank, not_false_eq_true, true_and, and_true]

theorem receive_answered_iff (created : db.CreatedFrom asked) :
    (receiveCarrierEvent db payload).Answered [404, 409, 422] db ↔ payload.Sound db := by
  by_cases converts : payload.eventTime.Converts
  case neg =>
    rw [receive_unconverted converts]
    exact iff_of_false (CallOutcome.not_answered _ _ _ _) fun sound => converts sound.converts
  cases plain : hasNul payload.trackingNumber with
  | true =>
    rw [receive_nul converts plain]
    refine iff_of_false (CallOutcome.not_answered _ _ _ _) fun sound => ?_
    rw [sound.plain] at plain
    cases plain
  | false =>
    cases rows : (db.tracked payload.trackingNumber).all Shipment.readable with
    | false =>
      rw [receive_unreadable converts plain rows]
      refine iff_of_false (CallOutcome.not_answered _ _ _ _) fun sound => ?_
      rw [List.all_eq_true.mpr sound.rows] at rows
      cases rows
    | true =>
      have read := List.all_eq_true.mp rows
      match tracked : db.tracked payload.trackingNumber with
      | [] =>
        obtain ⟨text, refused⟩ := receive_untracked converts plain rows tracked
        rw [refused]
        refine iff_of_true (CallOutcome.answered_domain db (by simp [DomainError.statusCode])) ?_
        exact ⟨converts, plain, read, by simp [tracked], by simp [tracked], by simp [tracked]⟩
      | [only] =>
        rw [receive_tracked_answered created converts plain rows tracked]
        constructor
        · rintro ⟨loads, named, reasoned⟩
          have mine (s : Shipment) (same : db.tracked payload.trackingNumber = [s]) : only = s := by
            simpa using tracked.symm.trans same
          refine ⟨converts, plain, read, fun s same => ?_, fun s same => named, fun s same => ?_⟩
          · rw [← mine s same]
            exact loads
          · rw [← mine s same]
            exact reasoned
        · exact fun sound => ⟨sound.loads only tracked, sound.named only tracked, sound.reasoned only tracked⟩
      | _ :: _ :: _ =>
        rw [receive_ambiguous converts plain rows tracked]
        refine iff_of_true (CallOutcome.answered_domain db (by simp [DomainError.statusCode])) ?_
        exact ⟨converts, plain, read, by simp [tracked], by simp [tracked], by simp [tracked]⟩

/-! ### The machine does the same -/

theorem proceed_received {call : Nat} {event : CanonicalShipmentEvent}
    (present : hub.calls[call]? = some (.received event)) :
    hub.step (.proceed call) = some (hub.setCall call (processCarrierEvent hub.db event)) := by
  simp only [ShipmentHub.step, ShipmentHub.proceed, present]

theorem processCarrierEvent_requested {event : CanonicalShipmentEvent} {held : Option Shipment}
    (h : processCarrierEvent db event = .requested id request held) :
    ∃ s ∈ db.shipments, held = some s ∧ s.id = id := by
  have holds (s : Shipment) (mine : held = some s) : s ∈ db.shipments := by
    have asks : (processCarrierEvent db event).shipment? = some s := by
      rw [h]
      exact mine
    exact processCarrierEvent_holds asks
  unfold processCarrierEvent at h
  split at h
  · cases h
  · split at h
    · cases h
    · split at h
      · cases h
      · split at h
        · cases h
        · cases h
          exact ⟨_, holds _ rfl, rfl, rfl⟩
      · cases h

/-- The call with no other at work comes to the same. -/
theorem receiveCarrierEvent_run (reached : hub.Reachable) (payload : CarrierCEvent) :
    ∃ next, ShipmentHub.Run Machine.unguarded hub next ∧ next.db = (receiveCarrierEvent hub.db payload).db := by
  let opened : ShipmentHub := { hub with calls := hub.calls ++ [receiveCarrierCEvent payload] }
  have opens : ShipmentHub.Run Machine.unguarded hub opened := .single (l := .carrierEvent payload) trivial rfl
  have last : opened.calls[hub.calls.length]? = some (receiveCarrierCEvent payload) :=
    List.getElem?_concat_length
  unfold receiveCarrierEvent
  cases asked : receiveCarrierCEvent payload with
  | received event =>
    rw [asked] at last
    obtain ⟨processed, now⟩ := proceed_run last (proceed_received last)
    have before := opens.trans processed
    have same : opened.db = hub.db := rfl
    rw [same] at now before
    dsimp only
    cases outcome : processCarrierEvent hub.db event with
    | requested shipmentId request held =>
      rw [outcome] at now before
      have current (row : Shipment) (holds : held = some row) : hub.db.shipment shipmentId = some row := by
        obtain ⟨s, present, held, rfl⟩ := processCarrierEvent_requested outcome
        obtain rfl := Option.some.inj (held.symm.trans holds)
        exact Table.lookup_of_mem (shipment_ledger reached).ids present
      obtain ⟨next, run, db⟩ := requested_run now current
      exact ⟨next, before.trans run, db⟩
    | _ => exact ⟨_, before, rfl⟩
  | _ => exact ⟨opened, opens, rfl⟩

end

/-- The webhook does what the event API does for the shipment created from the tracking number just
when the event addresses it, and is answered just when the event is sound. -/
theorem carrier_event_refines_iff {db : ShipmentDatabase} {asked : Id → String} (created : db.CreatedFrom asked)
    (payload : CarrierCEvent) :
    (∀ s ∈ db.shipments, asked s.id = payload.trackingNumber →
      (∀ other ∈ db.shipments, asked other.id = payload.trackingNumber → other = s) →
      (some (receiveCarrierEvent db payload) = manualEvent db s.id payload ↔ payload.Addresses db s)) ∧
    ((receiveCarrierEvent db payload).Answered [404, 409, 422] db ↔ payload.Sound db) :=
  ⟨fun _ present named _ => receive_manual_iff created present named, receive_answered_iff created⟩

namespace SmallYard

/-- The state after the shipment was created from the string. -/
def shipped : ShipmentDatabase :=
  { hub.db with shipments := [
      { id := 3, supplierId := 1, purchaseOrderId := 2, trackingReference := "C-123456" }] }

theorem eventTime_years : datetimeMin ≤ 1785337200 * 1000000 ∧ 1785337200 * 1000000 ≤ datetimeMax := by decide

theorem eventTime_day : (0 : Int).natAbs < 86400 * 1000000 := by decide

theorem carrierEventId_bounds : 1 ≤ "C-EVT-1".length ∧ "C-EVT-1".length ≤ 100 := by decide

theorem noReason_fits : reasonFits none = true := rfl

def carrierEvent (trackingNumber : String)
    (bounds : 1 ≤ trackingNumber.length ∧ trackingNumber.length ≤ 100) : CarrierCEvent where
  eventId := "C-EVT-1"
  trackingNumber
  event := .pickedUp
  eventTime := ⟨1785337200 * 1000000, 0, eventTime_years, eventTime_day⟩
  eventId_bounds := carrierEventId_bounds
  trackingNumber_bounds := bounds
  reasonCode_fits := noReason_fits

theorem created (raw : String) (same : stripWhitespace raw = "C-123456") (storable : hasNul raw = false) :
    shipped.CreatedFrom fun _ => raw := by
  have row (s : Shipment) (present : s ∈ shipped.shipments) : s.trackingReference = "C-123456" := by
    rw [List.mem_singleton.mp present]
  have accepted : ExternalReference.validate raw = some ⟨"C-123456", by decide⟩ := validate_some same
  exact ⟨by decide, fun s present => ⟨_, accepted, row s present⟩, fun _ _ => storable⟩

end SmallYard

/-- A pick-up of a shipment under its own tracking reference. -/
theorem carrier_event_refines_plain :
    (receiveCarrierEvent SmallYard.shipped (SmallYard.carrierEvent "C-123456" (by decide))).Answered
      [404, 409, 422] SmallYard.shipped ∧
    some (receiveCarrierEvent SmallYard.shipped (SmallYard.carrierEvent "C-123456" (by decide))) =
      manualEvent SmallYard.shipped 3 (SmallYard.carrierEvent "C-123456" (by decide)) := by
  have created := SmallYard.created "C-123456" (by decide) (by decide)
  have refines := carrier_event_refines_iff created (SmallYard.carrierEvent "C-123456" (by decide))
  have alone (other : Shipment) (there : other ∈ SmallYard.shipped.shipments) :
      other = { id := 3, supplierId := 1, purchaseOrderId := 2, trackingReference := "C-123456" } :=
    List.mem_singleton.mp there
  constructor
  · refine refines.2.mpr ⟨by decide, by decide, by decide, fun s same => ?_, fun s same => by decide, fun s same => ?_⟩
    · have present := (mem_tracked.mp (same ▸ List.mem_singleton_self s)).1
      rw [alone s present]
      decide
    · exact .inr (.inr rfl)
  · refine (refines.1 _ (List.mem_singleton_self _) rfl fun other there _ => alone other there).mpr ?_
    exact ⟨by decide, by decide, by decide, .inl fun other there _ => alone other there⟩

/-- The carrier pads the reference as the request that created the shipment did: the API strips it and
takes the event, and the webhook does not know the shipment. -/
theorem padded_tracking_number_not_found :
    SmallYard.shipped.CreatedFrom (fun _ => " C-123456") ∧
    (∃ after, manualEvent SmallYard.shipped 3 (SmallYard.carrierEvent " C-123456" (by decide)) =
      some ⟨after, none⟩) ∧
    ∃ text, receiveCarrierEvent SmallYard.shipped (SmallYard.carrierEvent " C-123456" (by decide)) =
      ⟨SmallYard.shipped, some (.domain (.resourceNotFound text))⟩ := by
  refine ⟨SmallYard.created _ (by decide) (by decide), ?_, ?_⟩
  · have shown : (manualEvent SmallYard.shipped 3 (SmallYard.carrierEvent " C-123456" (by decide))).any
        (fun outcome => outcome.error = none) = true := by decide +kernel
    obtain ⟨⟨after, error⟩, sent, ended⟩ := (Option.any_eq_true _ _).mp shown
    obtain rfl : error = none := of_decide_eq_true ended
    exact ⟨after, sent⟩
  · exact receive_untracked (by decide) (by decide) (by decide) (by decide)

end SupplyChainHub
