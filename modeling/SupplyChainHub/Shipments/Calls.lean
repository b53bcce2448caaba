import SupplyChainHub.Database.Schema
import SupplyChainHub.Domain.Shipments
import SupplyChainHub.Integrations.Adapters
import SupplyChainHub.Library.Columns
import SupplyChainHub.Library.Machines
import SupplyChainHub.Library.Pools
import SupplyChainHub.Library.Tables

/-!
Shipments and their events: `create_shipment`, `add_shipment_event` and `process_carrier_event`, as
calls that interleave at their statements. No statement locks the shipment's row before the commit. What a
query cannot send, a row that cannot be read back and a value that its column refuses end the call.
-/

namespace SupplyChainHub

structure PurchaseOrder where
  id : Id
  supplierId : Id
  deriving DecidableEq

structure Shipment where
  id : Id
  supplierId : Id
  purchaseOrderId : Id
  trackingReference : String
  status : ShipmentStatus := .planned
  shippedAt : Option Moment := none
  deliveredAt : Option Moment := none
  deriving DecidableEq

def Shipment.writeBack (loaded new current : Shipment) : Shipment :=
  { current with
    status := Columns.writeBack loaded.status new.status current.status
    shippedAt := Columns.writeBack loaded.shippedAt new.shippedAt current.shippedAt
    deliveredAt := Columns.writeBack loaded.deliveredAt new.deliveredAt current.deliveredAt }

/-- psycopg makes no `datetime` of a time that is not in the years 1 to 9999 of UTC. -/
def timestampError : Raised := ⟨[.dataError], "timestamp outside the years 1 to 9999"⟩

def readable (t : Moment) : Bool := datetimeMin ≤ t && t ≤ datetimeMax

def Shipment.readable (s : Shipment) : Bool :=
  s.shippedAt.all SupplyChainHub.readable && s.deliveredAt.all SupplyChainHub.readable

structure ShipmentEvent where
  shipmentId : Id
  externalEventId : String
  eventType : ShipmentEventType
  occurredAt : Moment
  reasonCode : Option String
  deriving DecidableEq

/-- The columns of `uq_shipment_events_shipment_external_event`. -/
def ShipmentEvent.key (e : ShipmentEvent) : Id × String := (e.shipmentId, e.externalEventId)

/-- The committed rows. Events stand in the order they were committed. -/
structure ShipmentDatabase where
  suppliers : List Id := []
  purchaseOrders : List PurchaseOrder := []
  shipments : List Shipment := []
  shipmentEvents : List ShipmentEvent := []

namespace ShipmentDatabase

def shipment (db : ShipmentDatabase) (id : Id) : Option Shipment := Table.lookup Shipment.id id db.shipments

def hasEvent (db : ShipmentDatabase) (key : Id × String) : Bool := db.shipmentEvents.any fun e => e.key = key

def eventsOf (db : ShipmentDatabase) (id : Id) : List ShipmentEvent :=
  db.shipmentEvents.filter fun e => e.shipmentId = id

/-- `get_shipment` can load the row, if it is there, and its events. -/
def loads (db : ShipmentDatabase) (id : Id) : Bool :=
  (db.shipment id).all fun s => s.readable && (db.eventsOf id).all fun e => readable e.occurredAt

/-- The rows that `process_carrier_event` loads. -/
def tracked (db : ShipmentDatabase) (trackingReference : String) : List Shipment :=
  db.shipments.filter fun s => s.trackingReference = trackingReference

end ShipmentDatabase

/-! ### Requests -/

structure ShipmentCreate where
  supplierId : Id
  purchaseOrderId : Id
  trackingReference : ExternalReference
  shippedAt : Option Moment := none

def reasonFits (reasonCode : Option String) : Bool := reasonCode.all fun r => r.length ≤ 100

structure ShipmentEventCreate where
  externalEventId : ExternalReference
  eventType : ShipmentEventType
  occurredAt : Moment
  reasonCode : Option String := none
  reasonCode_fits : reasonFits reasonCode = true := by decide

/-- The constructor as code calls it; `none` is its validation error. -/
def ShipmentEventCreate.validate (externalEventId : String) (eventType : ShipmentEventType)
    (occurredAt : Moment) (reasonCode : Option String) : Option ShipmentEventCreate :=
  if reasonCode_fits : reasonFits reasonCode = true then
    (ExternalReference.validate externalEventId).map fun externalEventId =>
      { externalEventId, eventType, occurredAt, reasonCode, reasonCode_fits }
  else none

/-- A webhook payload that passed its own validation, which strips nothing. -/
structure CarrierCEvent where
  eventId : String
  trackingNumber : String
  event : ShipmentEventType
  eventTime : AwareDatetime
  reasonCode : Option String := none
  eventId_bounds : 1 ≤ eventId.length ∧ eventId.length ≤ 100
  trackingNumber_bounds : 1 ≤ trackingNumber.length ∧ trackingNumber.length ≤ 100
  reasonCode_fits : reasonFits reasonCode = true

structure CanonicalShipmentEvent where
  externalEventId : String
  trackingReference : String
  eventType : ShipmentEventType
  occurredAt : Moment
  reasonCode : Option String

/-- `CarrierCAdapter.adapt` -/
def CarrierCEvent.adapt (payload : CarrierCEvent) : Except Raised CanonicalShipmentEvent :=
  match payload.eventTime.astimezone with
  | .error e => .error e
  | .ok occurredAt => .ok {
      externalEventId := payload.eventId
      trackingReference := payload.trackingNumber
      eventType := payload.event
      occurredAt
      reasonCode := payload.reasonCode }

/-! ### `create_shipment` -/

/-- The row it inserts. -/
def newShipment (request : ShipmentCreate) (id : Id) : Shipment where
  id
  supplierId := request.supplierId
  purchaseOrderId := request.purchaseOrderId
  trackingReference := request.trackingReference.text
  shippedAt := request.shippedAt

def Shipment.row (s : Shipment) : Storage.Row := [
  ("id", .other),
  ("supplier_id", .other),
  ("purchase_order_id", .other),
  ("tracking_reference", .text s.trackingReference),
  ("status", .text s.status.value),
  ("shipped_at", otherOrNull s.shippedAt),
  ("delivered_at", otherOrNull s.deliveredAt)]

/-- What the call refuses before it writes. -/
def shipmentRefused (db : ShipmentDatabase) (request : ShipmentCreate) : Option DomainError :=
  if !db.suppliers.contains request.supplierId then
    some (.resourceNotFound ("Supplier '" ++ request.supplierId.repr ++ "' was not found."))
  else
    match db.purchaseOrders.find? fun p => p.id = request.purchaseOrderId with
    | none => some (.resourceNotFound
        ("Purchase order '" ++ request.purchaseOrderId.repr ++ "' was not found."))
    | some purchaseOrder =>
      if purchaseOrder.supplierId ≠ request.supplierId then
        some (.resourceConflict "The shipment supplier must match the purchase-order supplier.")
      else none

/-- The supplier already has a shipment under the reference. -/
def ShipmentCreate.taken (request : ShipmentCreate) (db : ShipmentDatabase) : Bool :=
  db.shipments.any fun s => s.supplierId = request.supplierId && s.trackingReference = request.trackingReference.text

/-- The whole call. It reads master data, which no call changes, inserts one row, and loads the row again
after the commit. -/
def createShipment (db : ShipmentDatabase) (request : ShipmentCreate) (id : Id) : CallOutcome ShipmentDatabase :=
  match shipmentRefused db request with
  | some e => ⟨db, some (.domain e)⟩
  | none =>
    let shipment := newShipment request id
    let committed := commit db { db with shipments := db.shipments ++ [shipment] }
      [{ table := Schema.shipments, row := shipment.row, violates := request.taken db }]
      ("This supplier already has a shipment with tracking reference '" ++ request.trackingReference.text ++ "'.")
    if committed.error = none && !shipment.readable then ⟨committed.db, some (.unmapped timestampError)⟩
    else committed

/-! ### `add_shipment_event` -/

/-- An event about to be committed: the shipment as the session loaded it, and the status it computed. -/
structure PendingEvent where
  loaded : Shipment
  request : ShipmentEventCreate
  status : ShipmentStatus
  allowed : statusAfterEvent loaded.status request.eventType = .ok status

namespace PendingEvent

def changed (p : PendingEvent) : Shipment :=
  { p.loaded with
    status := p.status
    shippedAt :=
      if p.request.eventType = .pickedUp ∧ p.loaded.shippedAt = none then some p.request.occurredAt
      else p.loaded.shippedAt
    deliveredAt :=
      if p.request.eventType = .delivered then some p.request.occurredAt else p.loaded.deliveredAt }

def event (p : PendingEvent) : ShipmentEvent where
  shipmentId := p.loaded.id
  externalEventId := p.request.externalEventId.text
  eventType := p.request.eventType
  occurredAt := p.request.occurredAt
  reasonCode := p.request.reasonCode

end PendingEvent

/-- The values of the INSERT. -/
def ShipmentEventCreate.row (request : ShipmentEventCreate) : Storage.Row := [
  ("shipment_id", .other),
  ("external_event_id", .text request.externalEventId.text),
  ("event_type", .text request.eventType.value),
  ("occurred_at", .other),
  ("reason_code", textOrNull request.reasonCode)]

/-- A call that adds an event, by the statement it comes to next. -/
inductive EventCall where
  /-- `process_carrier_event`, before its query. -/
  | received (event : CanonicalShipmentEvent)
  /-- `add_shipment_event`; `held` is the row its session has loaded before, if it has. -/
  | requested (shipmentId : Id) (request : ShipmentEventCreate) (held : Option Shipment)
  | loaded (shipment : Shipment) (request : ShipmentEventCreate)
  | pending (p : PendingEvent)
  /-- After the commit, before the shipment is loaded for the answer. -/
  | committed (shipmentId : Id)
  | returned
  | raised (error : CallError)

/-- What the call has ended with, if with an error. -/
def EventCall.error : EventCall → Option CallError
  | .raised e => some e
  | _ => none

def eventExists (request : ShipmentEventCreate) : DomainError :=
  .resourceConflict ("Shipment event '" ++ request.externalEventId.text ++ "' already exists.")

/-- `receive_carrier_c_event` up to its call of `process_carrier_event`. -/
def receiveCarrierCEvent (payload : CarrierCEvent) : EventCall :=
  match payload.adapt with
  | .error e => .raised (.unmapped e)
  | .ok event => .received event

/-- The request is built inside the call, so what its validation raises is no answer of the API. -/
def processCarrierEvent (db : ShipmentDatabase) (event : CanonicalShipmentEvent) : EventCall :=
  if hasNul event.trackingReference then .raised (.unmapped nulError)
  else if !(db.tracked event.trackingReference).all Shipment.readable then .raised (.unmapped timestampError)
  else
    match db.tracked event.trackingReference with
    | [] => .raised (.domain (.resourceNotFound
        ("Shipment tracking reference '" ++ event.trackingReference ++ "' was not found.")))
    | [shipment] =>
      match ShipmentEventCreate.validate event.externalEventId event.eventType event.occurredAt
          event.reasonCode with
      | none => .raised (.unmapped ⟨[], "validation error for ShipmentEventCreate"⟩)
      | some request => .requested shipment.id request (some shipment)
    | _ => .raised (.domain (.resourceConflict
        "The tracking reference matches multiple suppliers; the Carrier C event is ambiguous."))

/-- `get_shipment`. A row the session holds already is not overwritten by what the query returns. -/
def getShipment (db : ShipmentDatabase) (shipmentId : Id) (request : ShipmentEventCreate)
    (held : Option Shipment) : EventCall :=
  if !db.loads shipmentId then .raised (.unmapped timestampError)
  else
    match db.shipment shipmentId with
    | none => .raised (.domain (.resourceNotFound ("Shipment '" ++ shipmentId.repr ++ "' was not found.")))
    | some row => .loaded (held.getD row) request

/-- The query for a duplicate, which sends the id of the event, and the transition. -/
def checkEvent (db : ShipmentDatabase) (shipment : Shipment) (request : ShipmentEventCreate) : EventCall :=
  if hasNul request.externalEventId.text then .raised (.unmapped nulError)
  else if db.hasEvent (shipment.id, request.externalEventId.text) then .raised (.domain (eventExists request))
  else
    match allowed : statusAfterEvent shipment.status request.eventType with
    | .error e => .raised (.domain e)
    | .ok status => .pending { loaded := shipment, request, status, allowed }

/-- `_commit`: one UPDATE of the changed columns, one INSERT. -/
def commitEvent (db : ShipmentDatabase) (p : PendingEvent) : CallOutcome ShipmentDatabase :=
  commit db { db with
      shipments := Table.modify Shipment.id p.loaded.id (p.loaded.writeBack p.changed) db.shipments
      shipmentEvents := db.shipmentEvents ++ [p.event] }
    [{ table := Schema.shipmentEvents, row := p.request.row, violates := db.hasEvent p.event.key }]
    ("Shipment event '" ++ p.request.externalEventId.text ++ "' already exists.")

/-- `get_shipment` for the answer. No call removes a shipment. -/
def loadAgain (db : ShipmentDatabase) (shipmentId : Id) : EventCall :=
  if db.loads shipmentId then .returned else .raised (.unmapped timestampError)

/-! ### The machine -/

structure ShipmentHub where
  db : ShipmentDatabase := {}
  calls : List EventCall := []

inductive ShipmentLabel where
  | create (request : ShipmentCreate) (id : Id)
  | addShipmentEvent (shipmentId : Id) (request : ShipmentEventCreate)
  | carrierEvent (payload : CarrierCEvent)
  | proceed (call : Nat)

namespace ShipmentHub

/-- `id` is the fresh `uuid4` of the new row. -/
def create (hub : ShipmentHub) (request : ShipmentCreate) (id : Id) : Option ShipmentHub :=
  match hub.db.shipment id with
  | some _ => none
  | none => some { hub with db := (createShipment hub.db request id).db }

def setCall (hub : ShipmentHub) (call : Nat) (x : EventCall) : ShipmentHub :=
  { hub with calls := hub.calls.set call x }

def proceed (hub : ShipmentHub) (call : Nat) : Option ShipmentHub :=
  match hub.calls[call]? with
  | some (.received event) => some (hub.setCall call (processCarrierEvent hub.db event))
  | some (.requested shipmentId request held) =>
    some (hub.setCall call (getShipment hub.db shipmentId request held))
  | some (.loaded shipment request) => some (hub.setCall call (checkEvent hub.db shipment request))
  | some (.pending p) =>
    match commitEvent hub.db p with
    | ⟨_, some e⟩ => some (hub.setCall call (.raised e))
    | ⟨db, none⟩ => some { hub.setCall call (.committed p.loaded.id) with db }
  | some (.committed shipmentId) => some (hub.setCall call (loadAgain hub.db shipmentId))
  | _ => none

def step (hub : ShipmentHub) : ShipmentLabel → Option ShipmentHub
  | .create request id => hub.create request id
  | .addShipmentEvent shipmentId request =>
    some { hub with calls := hub.calls ++ [.requested shipmentId request none] }
  | .carrierEvent payload => some { hub with calls := hub.calls ++ [receiveCarrierCEvent payload] }
  | .proceed call => hub.proceed call

/-- Suppliers and purchase orders of any kind, and no shipment yet. -/
structure Initial (hub : ShipmentHub) : Prop where
  shipments : hub.db.shipments = []
  shipmentEvents : hub.db.shipmentEvents = []
  calls : hub.calls = []

abbrev Reachable : ShipmentHub → Prop := Machine.Reachable step Initial

abbrev Run (guard : ShipmentHub → ShipmentLabel → Prop) : ShipmentHub → ShipmentHub → Prop :=
  Machine.Run step guard

end ShipmentHub

/-! ### A small yard

One supplier with one purchase order, and the shipment created for it. -/

namespace SmallYard

def hub : ShipmentHub where
  db := { suppliers := [1], purchaseOrders := [⟨2, 1⟩] }

theorem initial : hub.Initial := ⟨rfl, rfl, rfl⟩

def shipment : ShipmentCreate where
  supplierId := 1
  purchaseOrderId := 2
  trackingReference := ⟨"C-123456", by decide⟩

def event (externalEventId : ExternalReference) (eventType : ShipmentEventType) : ShipmentEventCreate where
  externalEventId
  eventType
  occurredAt := seconds 1785337200

def cancelled : ShipmentEventCreate := event ⟨"C-EVT-1", by decide⟩ .cancelled

def pickedUp : ShipmentEventCreate := event ⟨"C-EVT-2", by decide⟩ .pickedUp

/-- Both calls check their event against the planned shipment before either commits. -/
def raced : List ShipmentLabel :=
  [.create shipment 3, .addShipmentEvent 3 cancelled, .addShipmentEvent 3 pickedUp, .proceed 0, .proceed 0,
    .proceed 1, .proceed 1]

theorem reaches (labels : List ShipmentLabel) (p : ShipmentHub → Bool)
    (h : (Machine.exec ShipmentHub.step hub labels).any p = true) :
    ∃ next, Machine.exec ShipmentHub.step hub labels = some next ∧ next.Reachable ∧ p next = true := by
  obtain ⟨next, run, holds⟩ := (Option.any_eq_true _ _).mp h
  exact ⟨next, run, ⟨hub, initial, Machine.exec_run (fun _ _ _ => trivial) run⟩, holds⟩

end SmallYard

end SupplyChainHub
