import Mathlib.Data.List.Basic

/-!
A reader that is handed the same things again and again and passes each of them on once.
-/

namespace Polling

structure Reader (α : Type*) where
  seen : List α := []
  sent : List α := []

variable {α : Type*}

/-- What was seen was sent, and sent once. -/
structure Reader.Sound (r : Reader α) : Prop where
  once : r.sent.Nodup
  same : ∀ x, x ∈ r.seen ↔ x ∈ r.sent

theorem fresh_sound : ({} : Reader α).Sound := ⟨List.nodup_nil, fun _ => Iff.rfl⟩

section
variable [DecidableEq α] {r : Reader α} {x y : α} {xs : List α}

def Reader.offer (r : Reader α) (x : α) : Reader α :=
  if x ∈ r.seen then r else { seen := x :: r.seen, sent := r.sent ++ [x] }

def Reader.poll (r : Reader α) (xs : List α) : Reader α := xs.foldl Reader.offer r

theorem offer_sound (sound : r.Sound) : (r.offer x).Sound := by
  unfold Reader.offer
  split
  · exact sound
  · rename_i unseen
    have unsent : x ∉ r.sent := fun sent => unseen ((sound.same x).mpr sent)
    constructor
    · apply List.nodup_append.mpr
      refine ⟨sound.once, by simp, ?_⟩
      rintro y member z found rfl
      rw [List.mem_singleton] at found
      exact unsent (found ▸ member)
    · intro y
      rw [List.mem_cons, List.mem_append, List.mem_singleton, sound.same y]
      exact or_comm

theorem offer_sent (sound : r.Sound) : y ∈ (r.offer x).sent ↔ y ∈ r.sent ∨ y = x := by
  unfold Reader.offer
  split
  · rename_i seen
    have sent := (sound.same x).mp seen
    constructor
    · exact .inl
    · rintro (member | rfl)
      · exact member
      · exact sent
  · simp

theorem poll_sound (sound : r.Sound) : (r.poll xs).Sound := by
  induction xs generalizing r with
  | nil => exact sound
  | cons x rest ih => exact ih (offer_sound sound)

theorem poll_sent (sound : r.Sound) : y ∈ (r.poll xs).sent ↔ y ∈ r.sent ∨ y ∈ xs := by
  induction xs generalizing r with
  | nil => simp [Reader.poll]
  | cons x rest ih =>
    have step : (r.poll (x :: rest)) = (r.offer x).poll rest := rfl
    rw [step, ih (offer_sound sound), offer_sent sound, List.mem_cons, or_assoc]

end

end Polling
