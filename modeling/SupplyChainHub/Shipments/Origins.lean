import SupplyChainHub.Shipments.Lifecycle

/-!
Where the tracking references of the shipments come from: the requests that created them, which validation
has stripped.
-/

namespace SupplyChainHub

/-- `asked` has, for each shipment, the tracking reference of the request that created it. -/
structure ShipmentDatabase.CreatedFrom (db : ShipmentDatabase) (asked : Id → String) : Prop where
  ids : (db.shipments.map Shipment.id).Nodup
  references : ∀ s ∈ db.shipments, ∃ reference, ExternalReference.validate (asked s.id) = some reference ∧
    s.trackingReference = reference.text
  storable : ∀ s ∈ db.shipments, hasNul (asked s.id) = false

section
variable {hub next : ShipmentHub} {db after : ShipmentDatabase} {asked : Id → String} {id : Id} {s : Shipment}

/-- A reference that came to the database is stripped. -/
theorem reference_stripped (created : db.CreatedFrom asked) (present : s ∈ db.shipments) :
    s.trackingReference = stripWhitespace (asked s.id) := by
  obtain ⟨reference, accepted, same⟩ := created.references s present
  rw [same, validate_text accepted]

/-- A shipment is created from a string that passes validation and that the database can store. -/
def CreatesFromStrings (_ : ShipmentHub) : ShipmentLabel → Prop
  | .create request _ =>
    ∃ raw, ExternalReference.validate raw = some request.trackingReference ∧ hasNul raw = false
  | _ => True

theorem created_append {request : ShipmentCreate} {raw : String} (created : db.CreatedFrom asked)
    (fresh : db.shipment id = none) (accepted : ExternalReference.validate raw = some request.trackingReference)
    (storable : hasNul raw = false) :
    ({ db with shipments := db.shipments ++ [newShipment request id] } : ShipmentDatabase).CreatedFrom
      (Function.update asked id raw) := by
  have other (s : Shipment) (present : s ∈ db.shipments) : Function.update asked id raw s.id = asked s.id :=
    Function.update_of_ne (Table.lookup_none.mp fresh s present) _ _
  have mine : Function.update asked id raw (newShipment request id).id = raw := Function.update_self ..
  constructor
  · rw [List.map_append, List.nodup_append]
    refine ⟨created.ids, List.nodup_singleton _, ?_⟩
    intro k old k' new same
    obtain ⟨s, member, rfl⟩ := List.mem_map.mp old
    obtain rfl := List.mem_singleton.mp new
    exact Table.lookup_none.mp fresh s member same
  · intro s member
    rcases List.mem_append.mp member with old | new
    · rw [other s old]
      exact created.references s old
    · obtain rfl := List.mem_singleton.mp new
      rw [mine]
      exact ⟨request.trackingReference, accepted, rfl⟩
  · intro s member
    rcases List.mem_append.mp member with old | new
    · rw [other s old]
      exact created.storable s old
    · obtain rfl := List.mem_singleton.mp new
      rw [mine]
      exact storable

theorem created_modify {p : PendingEvent} (created : db.CreatedFrom asked)
    (written : after.shipments = Table.modify Shipment.id p.loaded.id (p.loaded.writeBack p.changed) db.shipments) :
    after.CreatedFrom asked := by
  have kept (s : Shipment) (member : s ∈ after.shipments) :
      ∃ old ∈ db.shipments, s.id = old.id ∧ s.trackingReference = old.trackingReference := by
    rw [written, Table.modify, List.mem_map] at member
    obtain ⟨old, present, rfl⟩ := member
    refine ⟨old, present, ?_⟩
    split <;> exact ⟨rfl, rfl⟩
  constructor
  · have keys : (Table.modify Shipment.id p.loaded.id (p.loaded.writeBack p.changed) db.shipments).map Shipment.id =
        db.shipments.map Shipment.id := Table.modify_keys fun _ same => same
    rw [written, keys]
    exact created.ids
  · intro s member
    obtain ⟨old, present, id, reference⟩ := kept s member
    rw [id, reference]
    exact created.references old present
  · intro s member
    obtain ⟨old, present, id, -⟩ := kept s member
    rw [id]
    exact created.storable old present

theorem created_step {l : ShipmentLabel} (created : hub.db.CreatedFrom asked) (strings : CreatesFromStrings hub l)
    (h : hub.step l = some next) : ∃ asked, next.db.CreatedFrom asked := by
  cases l with
  | create request id =>
    obtain ⟨raw, accepted, storable⟩ := strings
    simp only [ShipmentHub.step, ShipmentHub.create] at h
    split at h
    · cases h
    · rename_i fresh
      obtain rfl := Option.some.inj h
      rcases createShipment_db hub.db id request with same | inserted
      · rw [same]
        exact ⟨asked, created⟩
      · rw [inserted]
        exact ⟨_, created_append created fresh accepted storable⟩
  | addShipmentEvent shipmentId request => exact ⟨asked, Option.some.inj h ▸ created⟩
  | carrierEvent payload => exact ⟨asked, Option.some.inj h ▸ created⟩
  | proceed call =>
    cases shipment_step h with
    | refused | opened | moved => exact ⟨asked, created⟩
    | committed => exact ⟨asked, created_modify created rfl⟩

/-- Whatever the order of the calls, every shipment has its reference from the string it was created from. -/
theorem created_run (begins : hub.Initial) (run : ShipmentHub.Run CreatesFromStrings hub next) :
    ∃ asked, next.db.CreatedFrom asked := by
  refine run.invariant (P := fun hub => ∃ asked, hub.db.CreatedFrom asked) ?_ ?_
  · rintro s l t ⟨asked, created⟩ strings step
    exact created_step created strings step
  · exact ⟨fun _ => "", by simp [begins.shipments], by simp [begins.shipments], by simp [begins.shipments]⟩

end

end SupplyChainHub
