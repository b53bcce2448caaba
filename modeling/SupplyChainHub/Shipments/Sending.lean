import SupplyChainHub.Shipments.Lifecycle

/-!
`create_shipment` and `add_shipment_event` with no other call at work: what they answer, what they leave, and
that the machine comes to the same.
-/

namespace SupplyChainHub

/-- The whole of `add_shipment_event`, statement by statement. -/
def addShipmentEvent (db : ShipmentDatabase) (shipmentId : Id) (request : ShipmentEventCreate) :
    CallOutcome ShipmentDatabase :=
  match getShipment db shipmentId request none with
  | .loaded shipment request =>
    match checkEvent db shipment request with
    | .pending p =>
      match commitEvent db p with
      | ⟨_, some e⟩ => ⟨db, some e⟩
      | ⟨after, none⟩ => ⟨after, (loadAgain after shipment.id).error⟩
    | call => ⟨db, call.error⟩
  | call => ⟨db, call.error⟩

section
variable {db after : ShipmentDatabase} {id : Id} {request : ShipmentCreate}

theorem shipmentRefused_code {e : DomainError} (refused : shipmentRefused db request = some e) :
    e.statusCode ∈ [404, 409] := by
  unfold shipmentRefused at refused
  split at refused
  · cases refused
    simp [DomainError.statusCode]
  · split at refused
    · cases refused
      simp [DomainError.statusCode]
    · split at refused
      · cases refused
        simp [DomainError.statusCode]
      · cases refused

/-- The supplier and the purchase order are there, and the order is the supplier's. -/
def ShipmentCreate.Writes (request : ShipmentCreate) (db : ShipmentDatabase) : Prop :=
  request.supplierId ∈ db.suppliers ∧
    ∃ order, (db.purchaseOrders.find? fun p => p.id = request.purchaseOrderId) = some order ∧
      order.supplierId = request.supplierId

theorem shipment_writes : shipmentRefused db request = none ↔ request.Writes db := by
  unfold shipmentRefused ShipmentCreate.Writes
  by_cases known : request.supplierId ∈ db.suppliers
  · rw [if_neg (by simp [known])]
    cases ordered : db.purchaseOrders.find? fun p => p.id = request.purchaseOrderId with
    | none => exact iff_of_false nofun (by simp)
    | some order => by_cases same : order.supplierId = request.supplierId <;> simp [known, same]
  · rw [if_pos (by simp [known])]
    exact iff_of_false nofun fun writes => known writes.1

theorem shipment_row_holds (request : ShipmentCreate) (id : Id) :
    Schema.shipments.holds (newShipment request id).row = !hasNul request.trackingReference.text := by
  have planned : ShipmentStatus.planned.value.length ≤ 30 ∧ hasNul ShipmentStatus.planned.value = false := by decide
  simp [Schema.shipments, Shipment.row, newShipment, request.trackingReference.bounds, planned]

theorem newShipment_readable (request : ShipmentCreate) (id : Id) :
    (newShipment request id).readable = request.shippedAt.all readable := by
  simp [Shipment.readable, newShipment]

/-- Where the call writes, the row is inserted if the column takes its reference and the supplier has no
other under it, and it is read back after that. -/
theorem createShipment_writes (writes : request.Writes db) : createShipment db request id =
    if hasNul request.trackingReference.text then ⟨db, some (.unmapped valueError)⟩
    else if request.taken db then
      ⟨db, some (.domain (.resourceConflict ("This supplier already has a shipment with tracking reference '" ++
        request.trackingReference.text ++ "'.")))⟩
    else ⟨{ db with shipments := db.shipments ++ [newShipment request id] },
      if request.shippedAt.all readable then none else some (.unmapped timestampError)⟩ := by
  unfold createShipment
  rw [shipment_writes.mpr writes]
  dsimp only
  unfold commit Storage.flush Storage.Statement.run
  rw [shipment_row_holds, newShipment_readable]
  cases hasNul request.trackingReference.text with
  | true => rfl
  | false =>
    cases request.taken db with
    | true => rfl
    | false => cases request.shippedAt.all readable <;> rfl

theorem createShipment_refused {e : DomainError} (refused : (createShipment db request id).error = some (.domain e)) :
    (createShipment db request id).db = db := by
  unfold createShipment at *
  split
  · rfl
  · rename_i writes
    rw [writes] at refused
    dsimp only at refused ⊢
    split
    · rename_i unreadable
      rw [if_pos unreadable] at refused
      cases refused
    · rename_i read
      rw [if_neg read] at refused
      exact commit_failed (by simp [refused])

theorem createShipment_mapped (request : ShipmentCreate) {statusCodes : List Nat}
    (covered : ∀ code ∈ [404, 409], code ∈ statusCodes) :
    (createShipment db request id).Mapped statusCodes ↔
      (request.Writes db → hasNul request.trackingReference.text = false ∧
        (request.taken db = true ∨ request.shippedAt.all readable = true)) := by
  by_cases writes : request.Writes db
  · rw [createShipment_writes writes]
    cases plain : hasNul request.trackingReference.text with
    | true => exact iff_of_false (CallOutcome.not_mapped _ _ _) (by simp [writes])
    | false =>
      cases taken : request.taken db with
      | true => exact iff_of_true (CallOutcome.mapped_domain _ (covered 409 (by simp))) fun _ => ⟨rfl, .inl rfl⟩
      | false =>
        cases read : request.shippedAt.all readable with
        | true => exact iff_of_true (CallOutcome.mapped_returned _ _) fun _ => ⟨rfl, .inr rfl⟩
        | false => exact iff_of_false (CallOutcome.not_mapped _ _ _) (by simp [writes])
  · obtain ⟨e, refused⟩ := Option.ne_none_iff_exists'.mp (mt shipment_writes.mp writes)
    have outcome : createShipment db request id = ⟨db, some (.domain e)⟩ := by rw [createShipment, refused]
    rw [outcome]
    exact iff_of_true (CallOutcome.mapped_domain _ (covered _ (shipmentRefused_code refused)))
      fun holds => absurd holds writes

end

section
variable {db after : ShipmentDatabase} {id : Id} {s : Shipment} {request : ShipmentEventCreate}

/-! ### One event -/

/-- A row that an event was written to can be read if it could before and the time of the event can. -/
theorem changed_readable (p : PendingEvent) (before : p.loaded.readable = true)
    (now : readable p.request.occurredAt = true) : (p.loaded.writeBack p.changed p.loaded).readable = true := by
  unfold Shipment.readable at before ⊢
  rw [Bool.and_eq_true] at before ⊢
  simp only [Shipment.writeBack, Columns.writeBack_fresh, PendingEvent.changed]
  constructor
  · split
    · exact now
    · exact before.1
  · split
    · exact now
    · exact before.2

/-- After the commit the shipment can be loaded just when the time of the event can be read. -/
theorem loads_written {p : PendingEvent} (found : db.shipment id = some p.loaded) (loads : db.loads id = true) :
    (p.written db).loads id = readable p.request.occurredAt := by
  have owner : p.loaded.id = id := Table.lookup_key found
  unfold ShipmentDatabase.loads at loads ⊢
  rw [found, Option.all_some, Bool.and_eq_true] at loads
  rw [shipment_written, if_pos owner.symm, found, Option.map_some, Option.all_some, eventsOf_commit,
    if_pos owner, List.all_append, loads.2]
  show (_ && (true && (readable p.request.occurredAt && true))) = readable p.request.occurredAt
  cases now : readable p.request.occurredAt with
  | false => simp
  | true => rw [changed_readable p loads.1 now]; rfl

theorem event_row_holds (request : ShipmentEventCreate) : Schema.shipmentEvents.holds request.row =
    (!hasNul request.externalEventId.text && !request.reasonCode.any hasNul) := by
  have type : request.eventType.value.length ≤ 30 ∧ hasNul request.eventType.value = false := by
    cases request.eventType <;> decide
  have reason := request.reasonCode_fits
  unfold reasonFits at reason
  cases given : request.reasonCode with
  | none => simp [Schema.shipmentEvents, ShipmentEventCreate.row, given, textOrNull, type,
      request.externalEventId.bounds]
  | some text =>
    rw [given] at reason
    have short : text.length ≤ 100 := by simpa using reason
    simp [Schema.shipmentEvents, ShipmentEventCreate.row, given, textOrNull, type, request.externalEventId.bounds,
      short]

theorem addShipmentEvent_unloadable (fails : db.loads id = false) (request : ShipmentEventCreate) :
    addShipmentEvent db id request = ⟨db, some (.unmapped timestampError)⟩ := by
  rw [addShipmentEvent, getShipment, fails]
  rfl

theorem addShipmentEvent_absent (absent : db.shipment id = none) (request : ShipmentEventCreate) :
    ∃ e, addShipmentEvent db id request = ⟨db, some (.domain e)⟩ := by
  have loads : db.loads id = true := by rw [ShipmentDatabase.loads, absent, Option.all_none]
  refine ⟨.resourceNotFound ("Shipment '" ++ id.repr ++ "' was not found."), ?_⟩
  rw [addShipmentEvent, getShipment, loads, absent]
  rfl

theorem getShipment_loaded (request : ShipmentEventCreate) (found : db.shipment id = some s)
    (loads : db.loads id = true) : getShipment db id request none = .loaded s request := by
  rw [getShipment, loads, found]
  rfl

/-- The check leaves the call with an error or with the event to be committed. -/
inductive CheckEffect (db : ShipmentDatabase) (s : Shipment) (request : ShipmentEventCreate) : EventCall → Prop where
  | unsent (broken : hasNul request.externalEventId.text = true) :
      CheckEffect db s request (.raised (.unmapped nulError))
  | refused {e : DomainError} (plain : hasNul request.externalEventId.text = false)
      (kind : e = eventExists request ∨ ∃ text, e = .domainValidation text)
      (cause : db.hasEvent (s.id, request.externalEventId.text) = true ∨
        allowedTransitions s.status request.eventType = none) : CheckEffect db s request (.raised (.domain e))
  | allowed (p : PendingEvent) (loaded : p.loaded = s) (asked : p.request = request)
      (plain : hasNul request.externalEventId.text = false)
      (free : db.hasEvent (s.id, request.externalEventId.text) = false) : CheckEffect db s request (.pending p)

theorem checkEvent_effect (db : ShipmentDatabase) (s : Shipment) (request : ShipmentEventCreate) :
    CheckEffect db s request (checkEvent db s request) := by
  unfold checkEvent
  cases plain : hasNul request.externalEventId.text with
  | true => exact .unsent plain
  | false =>
    rw [if_neg (by simp)]
    cases taken : db.hasEvent (s.id, request.externalEventId.text) with
    | true => exact .refused plain (.inl rfl) (.inl taken)
    | false =>
      rw [if_neg (by simp)]
      split
      · rename_i e refused
        unfold statusAfterEvent at refused
        split at refused
        · cases refused
        · rename_i none
          cases refused
          exact .refused plain (.inr ⟨_, rfl⟩) (.inr none)
      · rename_i status allowed
        exact .allowed _ rfl rfl plain taken

/-- What the call comes to, for a shipment that can be loaded. -/
inductive SendEffect (db : ShipmentDatabase) (s : Shipment) (request : ShipmentEventCreate) :
    CallOutcome ShipmentDatabase → Prop where
  | unsent (broken : hasNul request.externalEventId.text = true) :
      SendEffect db s request ⟨db, some (.unmapped nulError)⟩
  | refused {e : DomainError} (plain : hasNul request.externalEventId.text = false)
      (kind : e = eventExists request ∨ ∃ text, e = .domainValidation text)
      (cause : db.hasEvent (s.id, request.externalEventId.text) = true ∨
        allowedTransitions s.status request.eventType = none) : SendEffect db s request ⟨db, some (.domain e)⟩
  | unwritten (plain : hasNul request.externalEventId.text = false)
      (free : db.hasEvent (s.id, request.externalEventId.text) = false)
      (allowed : allowedTransitions s.status request.eventType ≠ none)
      (broken : request.reasonCode.any hasNul = true) : SendEffect db s request ⟨db, some (.unmapped valueError)⟩
  | committed (p : PendingEvent) (loaded : p.loaded = s) (asked : p.request = request)
      (plain : hasNul request.externalEventId.text = false)
      (free : db.hasEvent (s.id, request.externalEventId.text) = false)
      (allowed : allowedTransitions s.status request.eventType = some p.status)
      (clean : request.reasonCode.any hasNul = false) :
      SendEffect db s request
        ⟨p.written db, if readable request.occurredAt then none else some (.unmapped timestampError)⟩

theorem addShipmentEvent_effect (request : ShipmentEventCreate) (found : db.shipment id = some s)
    (loads : db.loads id = true) : SendEffect db s request (addShipmentEvent db id request) := by
  unfold addShipmentEvent
  rw [getShipment_loaded request found loads]
  dsimp only
  have check := checkEvent_effect db s request
  generalize checkEvent db s request = call at check
  cases check with
  | unsent broken => exact .unsent broken
  | refused plain kind cause => exact .refused plain kind cause
  | allowed p loaded asked plain free =>
    subst loaded asked
    have owner : p.loaded.id = id := Table.lookup_key found
    have allowed := statusAfterEvent_ok.mp p.allowed
    have fits := event_row_holds p.request
    rw [plain, Bool.not_false, Bool.true_and] at fits
    dsimp only
    cases clean : p.request.reasonCode.any hasNul with
    | false =>
      rw [clean] at fits
      rw [commitEvent_inserts ⟨fits, free⟩]
      dsimp only
      rw [owner, loadAgain, loads_written found loads]
      have committed := SendEffect.committed p rfl rfl plain free allowed clean
      cases now : readable p.request.occurredAt with
      | true => simpa [now, EventCall.error] using committed
      | false => simpa [now, EventCall.error] using committed
    | true =>
      rw [clean] at fits
      have misfit : commitEvent db p = ⟨db, some (.unmapped valueError)⟩ := commit_misfit fits
      rw [misfit]
      exact .unwritten plain free (by simp [allowed]) clean

/-- The condition under which the call answers, whatever the status codes besides its own. -/
theorem addShipmentEvent_mapped (request : ShipmentEventCreate) (found : db.shipment id = some s)
    {statusCodes : List Nat} (covered : ∀ code ∈ [404, 409, 422], code ∈ statusCodes) :
    (addShipmentEvent db id request).Mapped statusCodes ↔
      db.loads id = true ∧ hasNul request.externalEventId.text = false ∧
        (db.hasEvent (s.id, request.externalEventId.text) = true ∨
          allowedTransitions s.status request.eventType = none ∨
          request.reasonCode.any hasNul = false ∧ readable request.occurredAt = true) := by
  cases loads : db.loads id with
  | false =>
    rw [addShipmentEvent_unloadable loads]
    exact iff_of_false (CallOutcome.not_mapped _ _ _) (by simp)
  | true =>
    have effect := addShipmentEvent_effect request found loads
    generalize addShipmentEvent db id request = outcome at effect ⊢
    cases effect with
    | unsent broken => exact iff_of_false (CallOutcome.not_mapped _ _ _) (by simp [broken])
    | refused plain kind cause =>
      refine iff_of_true (CallOutcome.mapped_domain _ (covered _ ?_)) ⟨rfl, plain, cause.imp_right .inl⟩
      rcases kind with rfl | ⟨text, rfl⟩ <;> simp [eventExists, DomainError.statusCode]
    | unwritten plain free allowed broken =>
      exact iff_of_false (CallOutcome.not_mapped _ _ _) (by simp [free, allowed, broken])
    | committed p _ _ plain free allowed clean =>
      cases now : readable request.occurredAt with
      | false => exact iff_of_false (CallOutcome.not_mapped _ _ _) (by simp [free, allowed])
      | true => exact iff_of_true (CallOutcome.mapped_returned _ _) ⟨rfl, plain, .inr (.inr ⟨clean, rfl⟩)⟩

theorem addShipmentEvent_refused {e : DomainError}
    (refused : (addShipmentEvent db id request).error = some (.domain e)) :
    (addShipmentEvent db id request).db = db := by
  cases found : db.shipment id with
  | none =>
    obtain ⟨_, ended⟩ := addShipmentEvent_absent found request
    rw [ended]
  | some s =>
    cases loads : db.loads id with
    | false => rw [addShipmentEvent_unloadable loads]
    | true =>
      have effect := addShipmentEvent_effect request found loads
      generalize addShipmentEvent db id request = outcome at effect refused ⊢
      cases effect with
      | unsent | refused | unwritten => rfl
      | committed after =>
        dsimp only at refused
        split at refused <;> cases refused

/-- An error that the API answers leaves the database as it was. -/
theorem addShipmentEvent_unchanged {statusCodes : List Nat}
    (mapped : (addShipmentEvent db id request).Mapped statusCodes)
    (failed : (addShipmentEvent db id request).error ≠ none) : (addShipmentEvent db id request).db = db := by
  obtain ⟨e, ended⟩ := Option.ne_none_iff_exists'.mp failed
  obtain ⟨d, rfl, -⟩ := mapped e ended
  exact addShipmentEvent_refused ended

/-- The errors of the call, for a shipment that is there. -/
theorem addShipmentEvent_error {e : CallError} (found : db.shipment id = some s)
    (h : (addShipmentEvent db id request).error = some e) :
    (∃ raised, e = .unmapped raised ∧ raised.classes = [.dataError]) ∨
      ∃ d, e = .domain d ∧ (d = eventExists request ∨ ∃ text, d = .domainValidation text) := by
  cases loads : db.loads id with
  | false =>
    rw [addShipmentEvent_unloadable loads] at h
    cases h
    exact .inl ⟨_, rfl, rfl⟩
  | true =>
    have effect := addShipmentEvent_effect request found loads
    generalize addShipmentEvent db id request = outcome at effect h
    cases effect with
    | unsent | unwritten =>
      cases h
      exact .inl ⟨_, rfl, rfl⟩
    | refused _ kind =>
      cases h
      exact .inr ⟨_, rfl, kind⟩
    | committed =>
      dsimp only at h
      split at h
      · cases h
      · cases h
        exact .inl ⟨_, rfl, rfl⟩

theorem errors_differ : timestampError ≠ nulError ∧ timestampError ≠ valueError := by decide

/-- A time that cannot be read while nothing is written was in the database already. -/
theorem addShipmentEvent_timestamp (found : db.shipment id = some s)
    (h : addShipmentEvent db id request = ⟨db, some (.unmapped timestampError)⟩) : db.loads id = false := by
  by_contra loads
  have effect := addShipmentEvent_effect request found (Bool.eq_true_of_not_eq_false loads)
  have error : (addShipmentEvent db id request).error = some (.unmapped timestampError) := by rw [h]
  have same : (addShipmentEvent db id request).db = db := by rw [h]
  generalize addShipmentEvent db id request = outcome at effect error same
  cases effect with
  | unsent => exact errors_differ.1 (CallError.unmapped.inj (Option.some.inj error)).symm
  | unwritten => exact errors_differ.2 (CallError.unmapped.inj (Option.some.inj error)).symm
  | refused => cases error
  | committed p =>
    have grown : (p.written db).shipmentEvents.length = db.shipmentEvents.length + 1 := List.length_append
    rw [show p.written db = db from same] at grown
    omega

theorem loads_row (found : db.shipment id = some s) (fails : s.readable = false) : db.loads id = false := by
  rw [ShipmentDatabase.loads, found, Option.all_some, fails, Bool.false_and]

end

/-! ### The machine does the same -/

section
variable {hub : ShipmentHub} {id : Id} {row : Shipment} {request : ShipmentEventCreate} {call : Nat}

theorem proceed_run {x y : EventCall} (present : hub.calls[call]? = some x)
    (step : hub.step (.proceed call) = some (hub.setCall call y)) :
    ShipmentHub.Run Machine.unguarded hub (hub.setCall call y) ∧ (hub.setCall call y).calls[call]? = some y :=
  ⟨.single trivial step, Pool.set_present present⟩

theorem proceed_requested {held : Option Shipment} (present : hub.calls[call]? = some (.requested id request held)) :
    hub.step (.proceed call) = some (hub.setCall call (getShipment hub.db id request held)) := by
  simp only [ShipmentHub.step, ShipmentHub.proceed, present]

theorem proceed_loaded (present : hub.calls[call]? = some (.loaded row request)) :
    hub.step (.proceed call) = some (hub.setCall call (checkEvent hub.db row request)) := by
  simp only [ShipmentHub.step, ShipmentHub.proceed, present]

theorem commit_run {p : PendingEvent} (present : hub.calls[call]? = some (.pending p)) :
    ∃ next, ShipmentHub.Run Machine.unguarded hub next ∧ next.db = (commitEvent hub.db p).db := by
  by_cases inserts : p.Inserts hub.db
  · have committed := commitEvent_inserts inserts
    have step : hub.step (.proceed call) =
        some { hub.setCall call (.committed p.loaded.id) with db := p.written hub.db } := by
      simp only [ShipmentHub.step, ShipmentHub.proceed, present, committed]
    rw [committed]
    exact ⟨_, .single trivial step, rfl⟩
  · obtain ⟨e, fails⟩ := commitEvent_fails inserts
    have step : hub.step (.proceed call) = some (hub.setCall call (.raised e)) := by
      simp only [ShipmentHub.step, ShipmentHub.proceed, present, fails]
    rw [fails]
    exact ⟨_, .single trivial step, rfl⟩

theorem addShipmentEvent_checked {db : ShipmentDatabase} (found : db.shipment id = some row)
    (loads : db.loads id = true) :
    (addShipmentEvent db id request).db =
      match checkEvent db row request with
      | .pending p => (commitEvent db p).db
      | _ => db := by
  unfold addShipmentEvent
  rw [getShipment_loaded request found loads]
  dsimp only
  have check := checkEvent_effect db row request
  generalize checkEvent db row request = call at check
  cases check with
  | unsent | refused => rfl
  | allowed p =>
    dsimp only
    by_cases inserts : p.Inserts db
    · rw [commitEvent_inserts inserts]
    · obtain ⟨e, fails⟩ := commitEvent_fails inserts
      rw [fails]

/-- From its first statement on, a call with no other at work commits what `add_shipment_event` says. -/
theorem requested_run {held : Option Shipment} (present : hub.calls[call]? = some (.requested id request held))
    (current : ∀ row, held = some row → hub.db.shipment id = some row) :
    ∃ next, ShipmentHub.Run Machine.unguarded hub next ∧ next.db = (addShipmentEvent hub.db id request).db := by
  obtain ⟨read, loaded⟩ := proceed_run present (proceed_requested present)
  cases loads : hub.db.loads id with
  | false =>
    rw [addShipmentEvent_unloadable loads]
    exact ⟨_, read, rfl⟩
  | true =>
    cases found : hub.db.shipment id with
    | none =>
      obtain ⟨e, ended⟩ := addShipmentEvent_absent found request
      rw [ended]
      exact ⟨_, read, rfl⟩
    | some row =>
      have kept : getShipment hub.db id request held = .loaded row request := by
        rw [getShipment, loads, found]
        cases held with
        | none => rfl
        | some mine => rw [Option.some.inj ((current mine rfl).symm.trans found)]; rfl
      rw [kept] at read loaded
      obtain ⟨checked, decided⟩ := proceed_run loaded (proceed_loaded loaded)
      have before := read.trans checked
      rw [addShipmentEvent_checked found loads]
      have same : (hub.setCall call (.loaded row request)).db = hub.db := rfl
      rw [same] at decided before
      cases outcome : checkEvent hub.db row request with
      | pending p =>
        rw [outcome] at decided before
        obtain ⟨next, commits, db⟩ := commit_run decided
        exact ⟨next, before.trans commits, db⟩
      | _ => exact ⟨_, before, rfl⟩

theorem addShipmentEvent_run (hub : ShipmentHub) (id : Id) (request : ShipmentEventCreate) :
    ∃ next, ShipmentHub.Run Machine.unguarded hub next ∧ next.db = (addShipmentEvent hub.db id request).db := by
  let asked : ShipmentHub := { hub with calls := hub.calls ++ [.requested id request none] }
  have opened : ShipmentHub.Run Machine.unguarded hub asked :=
    .single (l := .addShipmentEvent id request) trivial rfl
  have present : asked.calls[hub.calls.length]? = some (.requested id request none) :=
    List.getElem?_concat_length
  obtain ⟨next, run, db⟩ := requested_run present nofun
  exact ⟨next, opened.trans run, db⟩

end

end SupplyChainHub
