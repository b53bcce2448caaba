import SupplyChainHub.Shipments.Calls

/-!
A shipment as the fold of its events. A call checks its event against the status it read and writes
the status that event leads to, so the row says what its events say just as long as each of them was
still allowed at the moment it was committed.
-/

namespace SupplyChainHub

/-! ### What a step does -/

def EventCall.shipment? : EventCall → Option Shipment
  | .requested _ _ held => held
  | .loaded shipment _ => some shipment
  | .pending p => some p.loaded
  | _ => none

/-- The columns take the values of the event, and its key is free. -/
structure PendingEvent.Inserts (p : PendingEvent) (db : ShipmentDatabase) : Prop where
  held : Schema.shipmentEvents.holds p.request.row = true
  free : db.hasEvent p.event.key = false

/-- The rows after the commit. -/
def PendingEvent.written (p : PendingEvent) (db : ShipmentDatabase) : ShipmentDatabase :=
  { db with
    shipments := Table.modify Shipment.id p.loaded.id (p.loaded.writeBack p.changed) db.shipments
    shipmentEvents := db.shipmentEvents ++ [p.event] }

inductive ShipmentEffect (hub : ShipmentHub) : ShipmentLabel → ShipmentHub → Prop where
  | created {request : ShipmentCreate} {id : Id} (fresh : hub.db.shipment id = none) :
      ShipmentEffect hub (.create request id)
        { hub with db := { hub.db with shipments := hub.db.shipments ++ [newShipment request id] } }
  | refused {l : ShipmentLabel} : ShipmentEffect hub l hub
  | opened {l : ShipmentLabel} {x : EventCall} (empty : x.shipment? = none) :
      ShipmentEffect hub l { hub with calls := hub.calls ++ [x] }
  | moved {l : ShipmentLabel} {call : Nat} {old x : EventCall} (present : hub.calls[call]? = some old)
      (holds : ∀ s, x.shipment? = some s → old.shipment? = some s ∨ s ∈ hub.db.shipments) :
      ShipmentEffect hub l (hub.setCall call x)
  | committed {call : Nat} {p : PendingEvent} (present : hub.calls[call]? = some (.pending p))
      (new : p.Inserts hub.db) :
      ShipmentEffect hub (.proceed call) { hub.setCall call (.committed p.loaded.id) with db := p.written hub.db }

section
variable {hub next : ShipmentHub} {db after : ShipmentDatabase} {l : ShipmentLabel} {id : Id}
    {row : Shipment} {p : PendingEvent} {status : ShipmentStatus}

/-- The call inserts its row, or it leaves the database as it was. -/
theorem createShipment_db (db : ShipmentDatabase) (id : Id) (request : ShipmentCreate) :
    (createShipment db request id).db = db ∨
      (createShipment db request id).db = { db with shipments := db.shipments ++ [newShipment request id] } := by
  unfold createShipment
  cases shipmentRefused db request with
  | some e => exact .inl rfl
  | none =>
    dsimp only
    split <;> exact commit_db _ _ _ _

theorem commitEvent_inserts (inserts : p.Inserts db) : commitEvent db p = ⟨p.written db, none⟩ := by
  rw [commitEvent, commit_held inserts.held (List.forall_mem_nil _), inserts.free]
  rfl

theorem commitEvent_fails (fails : ¬ p.Inserts db) : ∃ e, commitEvent db p = ⟨db, some e⟩ := by
  unfold commitEvent
  by_cases held : Schema.shipmentEvents.holds p.request.row = true
  · have taken : db.hasEvent p.event.key = true :=
      Bool.eq_true_of_not_eq_false fun free => fails ⟨held, free⟩
    rw [commit_held held (List.forall_mem_nil _), taken]
    exact ⟨_, rfl⟩
  · rw [commit_misfit (Bool.eq_false_of_not_eq_true held)]
    exact ⟨_, rfl⟩

theorem receiveCarrierCEvent_empty (payload : CarrierCEvent) : (receiveCarrierCEvent payload).shipment? = none := by
  unfold receiveCarrierCEvent
  split <;> rfl

theorem processCarrierEvent_holds {event : CanonicalShipmentEvent} {s : Shipment}
    (h : (processCarrierEvent db event).shipment? = some s) : s ∈ db.shipments := by
  unfold processCarrierEvent at h
  split at h
  · cases h
  · split at h
    · cases h
    · split at h
      · cases h
      · rename_i shipment found
        split at h
        · cases h
        · obtain rfl := Option.some.inj h
          have member : shipment ∈ db.tracked event.trackingReference := by
            rw [found]
            exact List.mem_singleton_self shipment
          exact List.mem_of_mem_filter member
      · cases h

theorem getShipment_holds {request : ShipmentEventCreate} {held : Option Shipment} {s : Shipment}
    (h : (getShipment db id request held).shipment? = some s) : held = some s ∨ s ∈ db.shipments := by
  unfold getShipment at h
  split at h
  · cases h
  · split at h
    · cases h
    · rename_i row found
      cases held with
      | none =>
        obtain rfl := Option.some.inj h
        exact .inr (Table.lookup_mem found)
      | some kept => exact .inl h

theorem checkEvent_holds {shipment s : Shipment} {request : ShipmentEventCreate}
    (h : (checkEvent db shipment request).shipment? = some s) : shipment = s := by
  unfold checkEvent at h
  split at h
  · cases h
  · split at h
    · cases h
    · split at h
      · cases h
      · exact Option.some.inj h

theorem loadAgain_empty (db : ShipmentDatabase) (id : Id) : (loadAgain db id).shipment? = none := by
  unfold loadAgain
  split <;> rfl

theorem shipment_step (h : hub.step l = some next) : ShipmentEffect hub l next := by
  cases l with
  | create request id =>
    simp only [ShipmentHub.step, ShipmentHub.create] at h
    split at h
    · cases h
    · rename_i fresh
      obtain rfl := Option.some.inj h
      rcases createShipment_db hub.db id request with same | created
      · rw [same]
        exact .refused
      · rw [created]
        exact .created fresh
  | addShipmentEvent shipmentId request =>
    obtain rfl := Option.some.inj h
    exact .opened rfl
  | carrierEvent payload =>
    obtain rfl := Option.some.inj h
    exact .opened (receiveCarrierCEvent_empty payload)
  | proceed call =>
    simp only [ShipmentHub.step, ShipmentHub.proceed] at h
    split at h
    · rename_i present
      obtain rfl := Option.some.inj h
      exact .moved present fun s held => .inr (processCarrierEvent_holds held)
    · rename_i present
      obtain rfl := Option.some.inj h
      exact .moved present fun s held => getShipment_holds held
    · rename_i present
      obtain rfl := Option.some.inj h
      exact .moved present fun s held => .inl (congrArg some (checkEvent_holds held))
    · rename_i p present
      by_cases inserts : p.Inserts hub.db
      · rw [commitEvent_inserts inserts] at h
        obtain rfl := Option.some.inj h
        exact .committed present inserts
      · obtain ⟨e, fails⟩ := commitEvent_fails inserts
        rw [fails] at h
        obtain rfl := Option.some.inj h
        exact .moved present nofun
    · rename_i shipmentId present
      obtain rfl := Option.some.inj h
      refine .moved present fun s held => ?_
      rw [loadAgain_empty] at held
      cases held
    · cases h

/-! ### Whatever the order of the calls -/

/-- Shipments have distinct ids, and a shipment that an event or a session refers to is there. -/
structure ShipmentHub.Ledger (hub : ShipmentHub) : Prop where
  ids : (hub.db.shipments.map Shipment.id).Nodup
  events : ∀ e ∈ hub.db.shipmentEvents, ∃ row, hub.db.shipment e.shipmentId = some row
  held : ∀ (call : Nat) (x : EventCall), hub.calls[call]? = some x → ∀ s, x.shipment? = some s →
    ∃ row, hub.db.shipment s.id = some row

theorem shipment_append (fresh : db.shipment row.id = none) (id : Id) :
    Table.lookup Shipment.id id (db.shipments ++ [row]) = if row.id = id then some row else db.shipment id := by
  rw [Table.lookup_append, Table.lookup_cons, Table.lookup_nil]
  split
  · rename_i same
    subst same
    exact congrArg (Option.or · (some row)) fresh
  · exact Option.or_none

theorem shipment_modify (f : Shipment → Shipment) (keeps : ∀ row, (f row).id = row.id) (k : Id) :
    Table.lookup Shipment.id id (Table.modify Shipment.id k f db.shipments) =
      if id = k then (db.shipment id).map f else db.shipment id := by
  have kept (row : Shipment) (mine : row.id = k) : (f row).id = k := (keeps row).trans mine
  split
  · rename_i same
    subst same
    exact Table.lookup_modify_self kept
  · rename_i other
    exact Table.lookup_modify_other kept other

theorem writeBack_id (p : PendingEvent) (row : Shipment) : (p.loaded.writeBack p.changed row).id = row.id := rfl

theorem shipment_written (p : PendingEvent) : (p.written db).shipment id =
    if id = p.loaded.id then (db.shipment id).map (p.loaded.writeBack p.changed) else db.shipment id :=
  shipment_modify _ (writeBack_id p) p.loaded.id

theorem ShipmentEffect.present (effect : ShipmentEffect hub l next) (present : hub.db.shipment id = some row) :
    ∃ after, next.db.shipment id = some after := by
  cases effect with
  | created fresh =>
    refine ⟨row, ?_⟩
    rw [ShipmentDatabase.shipment, shipment_append fresh, if_neg, present]
    rintro rfl
    cases fresh.symm.trans present
  | refused => exact ⟨row, present⟩
  | opened => exact ⟨row, present⟩
  | moved => exact ⟨row, present⟩
  | @committed call p =>
    rw [shipment_written, present]
    split
    · exact ⟨_, rfl⟩
    · exact ⟨row, rfl⟩

theorem ShipmentEffect.held (effect : ShipmentEffect hub l next) {call : Nat} {x : EventCall} {s : Shipment}
    (present : next.calls[call]? = some x) (holds : x.shipment? = some s) :
    (∃ old, hub.calls[call]? = some old ∧ old.shipment? = some s) ∨ s ∈ hub.db.shipments := by
  cases effect with
  | created => exact .inl ⟨x, present, holds⟩
  | refused => exact .inl ⟨x, present, holds⟩
  | opened empty =>
    rcases Pool.push_cases present with old | ⟨-, rfl⟩
    · exact .inl ⟨x, old, holds⟩
    · rw [empty] at holds
      cases holds
  | moved before follows =>
    rcases Pool.set_cases present with ⟨rfl, rfl⟩ | ⟨-, old⟩
    · rcases follows s holds with held | read
      · exact .inl ⟨_, before, held⟩
      · exact .inr read
    · exact .inl ⟨x, old, holds⟩
  | committed =>
    rcases Pool.set_cases present with ⟨-, rfl⟩ | ⟨-, old⟩
    · cases holds
    · exact .inl ⟨x, old, holds⟩

theorem ShipmentEffect.ledger (effect : ShipmentEffect hub l next) (ledger : hub.Ledger) : next.Ledger := by
  have listed (s : Shipment) (member : s ∈ hub.db.shipments) : hub.db.shipment s.id = some s :=
    Table.lookup_of_mem ledger.ids member
  refine ⟨?_, ?_, ?_⟩
  · cases effect with
    | created fresh =>
      rw [List.map_append, List.nodup_append]
      refine ⟨ledger.ids, by simp, ?_⟩
      intro k old k' new same
      obtain ⟨s, member, rfl⟩ := List.mem_map.mp old
      obtain rfl := List.mem_singleton.mp new
      exact Table.lookup_none.mp fresh s member same
    | @committed call p =>
      have keys : (Table.modify Shipment.id p.loaded.id (p.loaded.writeBack p.changed)
          hub.db.shipments).map Shipment.id = hub.db.shipments.map Shipment.id :=
        Table.modify_keys fun _ same => same
      have distinct := ledger.ids
      rw [← keys] at distinct
      exact distinct
    | _ => exact ledger.ids
  · have events : ∀ e ∈ next.db.shipmentEvents, ∃ row, hub.db.shipment e.shipmentId = some row := by
      cases effect with
      | @committed call p present =>
        intro e member
        rcases List.mem_append.mp member with old | new
        · exact ledger.events e old
        · obtain rfl := List.mem_singleton.mp new
          exact ledger.held call _ present _ rfl
      | _ => exact ledger.events
    intro e member
    obtain ⟨row, present⟩ := events e member
    exact effect.present present
  · intro call x present s holds
    rcases effect.held present holds with ⟨old, before, held⟩ | read
    · obtain ⟨row, there⟩ := ledger.held call old before s held
      exact effect.present there
    · exact effect.present (listed s read)

theorem ShipmentHub.Initial.ledger (begins : hub.Initial) : hub.Ledger where
  ids := by simp [begins.shipments]
  events := by simp [begins.shipmentEvents]
  held := by simp [begins.calls]

theorem shipment_ledger (reached : hub.Reachable) : hub.Ledger :=
  reached.invariant (fun _ begins => begins.ledger)
    fun _ _ _ ledger step => (shipment_step step).ledger ledger

/-! ### One committed event -/

def Shipment.Dated (s : Shipment) : Prop := s.deliveredAt.isSome = true ↔ s.status = .delivered

theorem allowed_undelivered {s t : ShipmentStatus} {e : ShipmentEventType}
    (allowed : statusAfterEvent s e = .ok t) : s ≠ .delivered := by
  rintro rfl
  exact delivered_dead e t allowed

theorem Shipment.Dated.open (dated : row.Dated) (undelivered : row.status ≠ .delivered) :
    row.deliveredAt = none := by
  rw [← Option.not_isSome_iff_eq_none]
  exact fun present => undelivered (dated.mp present)

theorem commit_status (allowed : statusAfterEvent row.status p.request.eventType = .ok status) :
    (p.loaded.writeBack p.changed row).status = status := by
  have written : (p.loaded.writeBack p.changed row).status = p.status :=
    Columns.writeBack_dirty (statusAfterEvent_moves p.allowed) row.status
  rw [written, statusAfterEvent_target p.allowed, statusAfterEvent_target allowed]

theorem commit_dated (loaded : p.loaded.Dated) (dated : row.Dated)
    (allowed : statusAfterEvent row.status p.request.eventType = .ok status) :
    (p.loaded.writeBack p.changed row).Dated := by
  have unset := loaded.open (allowed_undelivered p.allowed)
  have still := dated.open (allowed_undelivered allowed)
  rw [Shipment.Dated, commit_status allowed, statusAfterEvent_target allowed]
  by_cases delivers : p.request.eventType = .delivered
  · have written : (p.loaded.writeBack p.changed row).deliveredAt = some p.request.occurredAt := by
      simp only [Shipment.writeBack, PendingEvent.changed, if_pos delivers, unset]
      exact Columns.writeBack_dirty (by simp) _
    rw [written, delivers]
    simp [ShipmentEventType.target]
  · have written : (p.loaded.writeBack p.changed row).deliveredAt = none := by
      simp only [Shipment.writeBack, PendingEvent.changed, if_neg delivers, still]
      exact Columns.writeBack_clean _ _
    rw [written]
    cases type : p.request.eventType with
    | delivered => exact absurd type delivers
    | _ => simp [ShipmentEventType.target]

theorem eventsOf_commit : (p.written db).eventsOf id =
    if p.loaded.id = id then db.eventsOf id ++ [p.event] else db.eventsOf id := by
  rw [PendingEvent.written, ShipmentDatabase.eventsOf, List.filter_append]
  have mine : p.event.shipmentId = p.loaded.id := rfl
  by_cases same : p.loaded.id = id <;> simp [ShipmentDatabase.eventsOf, mine, same]

/-! ### The fold of the events -/

/-- The row says what its events, in commit order, make of a planned shipment. -/
structure Shipment.Folds (row : Shipment) (events : List ShipmentEvent) : Prop where
  status : Automaton.fold statusAfterEvent .planned (events.map (·.eventType)) = .ok row.status
  deliveredAt : row.deliveredAt.isSome = true ↔ row.status = .delivered
  closed : ∀ (before after : List ShipmentEvent) (e : ShipmentEvent), events = before ++ e :: after →
    e.eventType = .delivered ∨ e.eventType = .cancelled → after = []

theorem folds_of_status {events : List ShipmentEvent}
    (status : Automaton.fold statusAfterEvent .planned (events.map (·.eventType)) = .ok row.status)
    (dated : row.Dated) : row.Folds events := by
  refine ⟨status, dated, ?_⟩
  intro before after e split closing
  rw [split, List.map_append, List.map_cons] at status
  exact List.map_eq_nil_iff.mp (Automaton.dead_last (closing_dead closing) status)

/-- The shipment, if it is there, is the fold of its events. -/
def ShipmentHub.Settled (id : Id) (hub : ShipmentHub) : Prop :=
  ∀ row, hub.db.shipment id = some row → row.Folds (hub.db.eventsOf id)

/-- An event committed to the shipment is allowed by the status its row has by then. -/
def CommitsAllowed (id : Id) (hub : ShipmentHub) : ShipmentLabel → Prop
  | .proceed call => ∀ p row, hub.calls[call]? = some (.pending p) → p.loaded.id = id →
      p.Inserts hub.db → hub.db.shipment id = some row →
      ∃ status, statusAfterEvent row.status p.request.eventType = .ok status
  | _ => True

/-- What a run carries: the shipment is settled, and so was every row of it that a session holds. -/
structure ShipmentHub.Orderly (id : Id) (hub : ShipmentHub) : Prop where
  settled : hub.Settled id
  held : ∀ (call : Nat) (x : EventCall) (s : Shipment), hub.calls[call]? = some x → x.shipment? = some s →
    s.id = id → s.Dated

theorem eventsOf_absent (ledger : hub.Ledger) (absent : hub.db.shipment id = none) : hub.db.eventsOf id = [] := by
  rw [ShipmentDatabase.eventsOf, List.filter_eq_nil_iff]
  intro e member mine
  obtain ⟨row, present⟩ := ledger.events e member
  rw [of_decide_eq_true mine, absent] at present
  cases present

theorem orderly_step (ledger : hub.Ledger) (orderly : hub.Orderly id) (met : CommitsAllowed id hub l)
    (h : hub.step l = some next) : next.Orderly id := by
  have effect := shipment_step h
  refine ⟨?_, ?_⟩
  · intro row present
    cases effect with
    | @created request new fresh =>
      rw [ShipmentDatabase.shipment, shipment_append fresh] at present
      split at present
      · rename_i mine
        obtain rfl := Option.some.inj present
        subst mine
        refine folds_of_status ?_ (by simp [Shipment.Dated, newShipment])
        have none : hub.db.eventsOf new = [] := eventsOf_absent ledger fresh
        show Automaton.fold statusAfterEvent .planned ((hub.db.eventsOf new).map (·.eventType)) = _
        rw [none]
        rfl
      · exact orderly.settled row present
    | refused => exact orderly.settled row present
    | opened => exact orderly.settled row present
    | moved => exact orderly.settled row present
    | @committed call p pending new =>
      rw [shipment_written] at present
      rw [eventsOf_commit]
      by_cases mine : p.loaded.id = id
      · rw [if_pos mine.symm] at present
        obtain ⟨before, found, rfl⟩ := Option.map_eq_some_iff.mp present
        obtain ⟨status, allowed⟩ := met p before pending mine new found
        have folds := orderly.settled before found
        have loaded := orderly.held call _ p.loaded pending rfl mine
        refine folds_of_status ?_ (commit_dated loaded folds.deliveredAt allowed)
        rw [if_pos mine, List.map_append, commit_status allowed, ← allowed]
        exact Automaton.fold_snoc folds.status
      · rw [if_neg (Ne.symm mine)] at present
        rw [if_neg mine]
        exact orderly.settled row present
  · intro call x s present holds mine
    rcases effect.held present holds with ⟨old, before, held⟩ | read
    · exact orderly.held call old s before held mine
    · have listed := Table.lookup_of_mem ledger.ids read
      rw [mine] at listed
      exact (orderly.settled s listed).deliveredAt

def StaysSettled (id : Id) (hub : ShipmentHub) (l : ShipmentLabel) : Prop :=
  ∀ next, hub.step l = some next → next.Settled id

theorem allowed_of_settled (orderly : hub.Orderly id) (h : hub.step l = some next) (settled : next.Settled id) :
    CommitsAllowed id hub l := by
  cases l with
  | proceed call =>
    intro p row pending mine inserts found
    simp only [ShipmentHub.step, ShipmentHub.proceed, pending, commitEvent_inserts inserts,
      Option.some.injEq] at h
    subst h
    have present : (p.written hub.db).shipment id = some (p.loaded.writeBack p.changed row) := by
      rw [shipment_written, if_pos mine.symm, found]
      rfl
    have after := (settled _ present).status
    rw [eventsOf_commit, if_pos mine, List.map_append] at after
    have before := (orderly.settled row found).status
    exact ⟨_, (Automaton.fold_snoc before).symm.trans after⟩
  | _ => trivial

theorem orderly_run {start : ShipmentHub} (begins : start.Initial)
    (run : ShipmentHub.Run (CommitsAllowed id) start hub) : hub.Orderly id := by
  refine run.invariant_reachable
    (fun _ _ _ reached orderly met step => orderly_step (shipment_ledger reached) orderly met step)
    (.start begins) ⟨?_, ?_⟩
  · intro row present
    rw [ShipmentDatabase.shipment, begins.shipments] at present
    cases present
  · intro call x s present
    rw [begins.calls] at present
    cases present

/-- Along a run whose events of a shipment are each allowed by its status when they are committed, the
shipment is the fold of its events: its status, the presence of `delivered_at`, and nothing after a
delivery or a cancellation. And a run along which it stays so is such a run. -/
theorem shipment_state_is_fold {start : ShipmentHub} (begins : start.Initial) (id : Id) :
    (ShipmentHub.Run (CommitsAllowed id) start hub → hub.Settled id) ∧
      (ShipmentHub.Run (StaysSettled id) start hub → ShipmentHub.Run (CommitsAllowed id) start hub) := by
  constructor
  · intro run
    exact (orderly_run begins run).settled
  · intro run
    refine run.strengthen (fun _ allowed => orderly_run begins allowed) ?_ (.start begins)
    intro s l t _ orderly stays step
    exact allowed_of_settled orderly step (stays t step)

end

/-- `CommitsAllowed`, of whichever shipment the step is about, as it can be computed. -/
def allowedNow (hub : ShipmentHub) : ShipmentLabel → Bool
  | .proceed call =>
    match hub.calls[call]? with
    | some (.pending p) =>
      (hub.db.shipment p.loaded.id).all fun row => (statusAfterEvent row.status p.request.eventType).isOk
    | _ => true
  | _ => true

theorem allowedNow_sound (id : Id) (hub : ShipmentHub) (l : ShipmentLabel) (h : allowedNow hub l = true) :
    CommitsAllowed id hub l := by
  cases l with
  | proceed call =>
    intro p row pending mine _ found
    subst mine
    simp only [allowedNow, pending, found, Option.all_some] at h
    cases allowed : statusAfterEvent row.status p.request.eventType with
    | ok status => exact ⟨status, rfl⟩
    | error e =>
      rw [allowed] at h
      cases h
  | _ => trivial

namespace SmallYard

theorem delayed_bounds : 1 ≤ "C-EVT-2".length ∧ "C-EVT-2".length ≤ 100 := by decide

def delayed : ShipmentEventCreate := event ⟨"C-EVT-2", delayed_bounds⟩ .delayed

/-- Both calls check their event against the planned shipment, and both events are committed. -/
def crossed : List ShipmentLabel :=
  [.create shipment 3, .addShipmentEvent 3 delayed, .addShipmentEvent 3 cancelled, .proceed 0, .proceed 1,
    .proceed 0, .proceed 1, .proceed 0, .proceed 1, .proceed 0, .proceed 1]

end SmallYard

/-- Two calls at once, from the same planned status: the delay and, after it, the cancellation, which a delayed
shipment allows too. -/
theorem shipment_state_is_fold_crossed : ∃ (hub : ShipmentHub) (row : Shipment),
    ShipmentHub.Run (CommitsAllowed 3) SmallYard.hub hub ∧ hub.db.shipment 3 = some row ∧
    row.status = .cancelled ∧ (hub.db.eventsOf 3).map (·.eventType) = [.delayed, .cancelled] ∧
    row.Folds (hub.db.eventsOf 3) := by
  have shown : (Machine.exec (Machine.checked ShipmentHub.step allowedNow) SmallYard.hub SmallYard.crossed).any
      (fun hub => (hub.db.shipment 3).any fun row => row.status = .cancelled &&
        (hub.db.eventsOf 3).map (·.eventType) = [.delayed, .cancelled]) = true := by
    decide +kernel
  simp only [Option.any_eq_true, Bool.and_eq_true, decide_eq_true_eq] at shown
  obtain ⟨hub, steps, row, present, status, events⟩ := shown
  have run : ShipmentHub.Run (CommitsAllowed 3) SmallYard.hub hub :=
    Machine.exec_run_checked (allowedNow_sound 3) steps
  exact ⟨hub, row, run, present, status, events, (shipment_state_is_fold SmallYard.initial 3).1 run row present⟩

/-- Two calls pass the check from the same planned status. The cancellation commits first, and the pick-up
after it leaves a picked-up shipment. -/
theorem event_after_cancellation : ∃ (hub : ShipmentHub) (row : Shipment), hub.Reachable ∧
    hub.db.shipment 3 = some row ∧ row.status = .pickedUp ∧
    (hub.db.eventsOf 3).map (·.eventType) = [.cancelled, .pickedUp] ∧ ¬ row.Folds (hub.db.eventsOf 3) := by
  obtain ⟨hub, -, reached, shown⟩ := SmallYard.reaches (SmallYard.raced ++ [.proceed 0, .proceed 1])
    (fun hub => (hub.db.shipment 3).any fun row => row.status = .pickedUp &&
      (hub.db.eventsOf 3).map (·.eventType) = [.cancelled, .pickedUp])
    (by decide +kernel)
  simp only [Option.any_eq_true, Bool.and_eq_true, decide_eq_true_eq] at shown
  obtain ⟨row, present, status, events⟩ := shown
  refine ⟨hub, row, reached, present, status, events, ?_⟩
  intro folds
  have accepted := folds.status
  rw [events] at accepted
  cases accepted

end SupplyChainHub
