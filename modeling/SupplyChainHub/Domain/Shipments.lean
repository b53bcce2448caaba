import SupplyChainHub.Domain.Values
import SupplyChainHub.Imports.Failures
import SupplyChainHub.Library.Automata

/-!
The shipment lifecycle of `domain/shipments.py`.
-/

namespace SupplyChainHub

inductive ShipmentStatus where
  | planned | pickedUp | inTransit | delayed | delivered | cancelled
  deriving DecidableEq

def ShipmentStatus.value : ShipmentStatus → String
  | .planned => "planned"
  | .pickedUp => "picked_up"
  | .inTransit => "in_transit"
  | .delayed => "delayed"
  | .delivered => "delivered"
  | .cancelled => "cancelled"

inductive ShipmentEventType where
  | pickedUp | inTransit | delayed | delivered | cancelled
  deriving DecidableEq

def ShipmentEventType.value : ShipmentEventType → String
  | .pickedUp => "picked_up"
  | .inTransit => "in_transit"
  | .delayed => "delayed"
  | .delivered => "delivered"
  | .cancelled => "cancelled"

def allowedTransitions : ShipmentStatus → ShipmentEventType → Option ShipmentStatus
  | .planned, .pickedUp => some .pickedUp
  | .planned, .delayed => some .delayed
  | .planned, .cancelled => some .cancelled
  | .pickedUp, .inTransit => some .inTransit
  | .pickedUp, .delayed => some .delayed
  | .pickedUp, .delivered => some .delivered
  | .pickedUp, .cancelled => some .cancelled
  | .inTransit, .delayed => some .delayed
  | .inTransit, .delivered => some .delivered
  | .inTransit, .cancelled => some .cancelled
  | .delayed, .inTransit => some .inTransit
  | .delayed, .delivered => some .delivered
  | .delayed, .cancelled => some .cancelled
  | _, _ => none

def statusAfterEvent (currentStatus : ShipmentStatus) (eventType : ShipmentEventType) :
    Except DomainError ShipmentStatus :=
  match allowedTransitions currentStatus eventType with
  | some nextStatus => .ok nextStatus
  | none => .error (.domainValidation
      ("Event '" ++ eventType.value ++ "' is invalid when a shipment is '" ++ currentStatus.value ++ "'."))

def ShipmentEventType.target : ShipmentEventType → ShipmentStatus
  | .pickedUp => .pickedUp
  | .inTransit => .inTransit
  | .delayed => .delayed
  | .delivered => .delivered
  | .cancelled => .cancelled

section
variable {s t : ShipmentStatus} {e : ShipmentEventType}

theorem statusAfterEvent_ok : statusAfterEvent s e = .ok t ↔ allowedTransitions s e = some t := by
  unfold statusAfterEvent
  split
  · rename_i nextStatus allowed
    rw [allowed, Except.ok.injEq, Option.some.injEq]
  · rename_i refused
    simp [refused]

theorem statusAfterEvent_target (allowed : statusAfterEvent s e = .ok t) : t = e.target := by
  rw [statusAfterEvent_ok] at allowed
  cases s <;> cases e <;> first | exact (Option.some.inj allowed).symm | cases allowed

theorem statusAfterEvent_moves (allowed : statusAfterEvent s e = .ok t) : t ≠ s := by
  have target := statusAfterEvent_target allowed
  rw [statusAfterEvent_ok] at allowed
  subst target
  cases s <;> cases e <;> first | decide | cases allowed

theorem delivered_dead : Automaton.Dead statusAfterEvent .delivered := by
  intro e t allowed
  cases statusAfterEvent_ok.mp allowed

theorem cancelled_dead : Automaton.Dead statusAfterEvent .cancelled := by
  intro e t allowed
  cases statusAfterEvent_ok.mp allowed

theorem closing_dead (closing : e = .delivered ∨ e = .cancelled) (s t : ShipmentStatus)
    (allowed : statusAfterEvent s e = .ok t) : Automaton.Dead statusAfterEvent t := by
  rw [statusAfterEvent_target allowed]
  rcases closing with rfl | rfl
  · exact delivered_dead
  · exact cancelled_dead

end

end SupplyChainHub
