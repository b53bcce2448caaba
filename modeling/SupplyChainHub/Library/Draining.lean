import Mathlib.Data.List.Nodup
import Mathlib.Data.List.Perm.Subperm

/-!
A queue that is emptied in passes. Each pass picks, of the items that are due and were not taken before, the first by
some order, no more than a limit of them, and takes those of its picks that are accepted.
-/

namespace Drain

variable {α τ κ : Type*} [DecidableEq κ]

section
variable (key : α → κ) (due accepts : τ → α → Bool) (le : α → α → Bool) (limit : Nat) (items : List α)

def waiting (taken : List κ) (t : τ) : List α := items.filter fun x => due t x && decide (key x ∉ taken)

def picks (taken : List κ) (t : τ) : List α := ((waiting key due items taken t).mergeSort le).take limit

def pass (taken : List κ) (t : τ) : List κ := ((picks key due le limit items taken t).filter (accepts t)).map key

/-- What is taken after some passes, and in what order. -/
def passes : List τ → List κ → List κ
  | [], taken => taken
  | t :: ts, taken => passes ts (taken ++ pass key due accepts le limit items taken t)

end

variable {key : α → κ} {due accepts : τ → α → Bool} {le : α → α → Bool} {limit : Nat} {items : List α}
    {taken : List κ} {k : κ} {x y : α} {t first : τ} {ts : List τ}

theorem mem_waiting : x ∈ waiting key due items taken t ↔ x ∈ items ∧ due t x = true ∧ key x ∉ taken := by
  simp [waiting]

theorem picks_waiting (member : x ∈ picks key due le limit items taken t) : x ∈ waiting key due items taken t :=
  List.mem_mergeSort.mp (List.mem_of_mem_take member)

/-- A pass that picks fewer than it may has picked everything that waits. -/
theorem picks_full : (picks key due le limit items taken t).length = limit ∨
    ∀ x ∈ waiting key due items taken t, x ∈ picks key due le limit items taken t := by
  by_cases more : limit ≤ (waiting key due items taken t).length
  · left
    simp [picks, more]
  · right
    intro x waits
    rw [picks, List.take_of_length_le (by simp; omega)]
    exact List.mem_mergeSort.mpr waits

/-- What a pass leaves waiting comes after all its picks. -/
theorem picks_first (transitive : ∀ a b c, le a b = true → le b c = true → le a c = true)
    (total : ∀ a b, (le a b || le b a) = true) (picked : x ∈ picks key due le limit items taken t)
    (waits : y ∈ waiting key due items taken t) (left : y ∉ picks key due le limit items taken t) :
    le x y = true := by
  have sorted := List.pairwise_mergeSort transitive total (waiting key due items taken t)
  have present : y ∈ (waiting key due items taken t).mergeSort le := List.mem_mergeSort.mpr waits
  rw [← List.take_append_drop limit ((waiting key due items taken t).mergeSort le)] at sorted present
  rcases List.mem_append.mp present with mine | later
  · exact absurd mine left
  · exact (List.pairwise_append.mp sorted).2.2 x picked y later

theorem picks_distinct (distinct : (items.map key).Nodup) :
    ((picks key due le limit items taken t).map key).Nodup := by
  have waits : ((waiting key due items taken t).map key).Nodup := distinct.sublist (List.filter_sublist.map _)
  have sorted : (((waiting key due items taken t).mergeSort le).map key).Nodup :=
    ((List.mergeSort_perm _ le).map key).nodup_iff.mpr waits
  exact sorted.sublist ((List.take_sublist _ _).map _)

theorem mem_pass : k ∈ pass key due accepts le limit items taken t ↔
    ∃ x ∈ picks key due le limit items taken t, accepts t x = true ∧ key x = k := by
  simp [pass, and_assoc]

theorem pass_distinct (distinct : (items.map key).Nodup) :
    (pass key due accepts le limit items taken t).Nodup :=
  (picks_distinct distinct).sublist (List.filter_sublist.map _)

theorem passes_taken : taken <+: passes key due accepts le limit items ts taken := by
  induction ts generalizing taken with
  | nil => exact List.prefix_refl taken
  | cons t ts ih => exact (List.prefix_append _ _).trans ih

/-- Nothing is taken twice, whatever is accepted. -/
theorem passes_nodup (distinct : (items.map key).Nodup) (before : taken.Nodup) :
    (passes key due accepts le limit items ts taken).Nodup := by
  induction ts generalizing taken with
  | nil => exact before
  | cons t ts ih =>
    refine ih (List.nodup_append.mpr ⟨before, pass_distinct distinct, ?_⟩)
    rintro k old _ new rfl
    obtain ⟨x, picked, -, rfl⟩ := mem_pass.mp new
    exact (mem_waiting.mp (picks_waiting picked)).2.2 old

/-- Only what is due is taken. -/
theorem passes_due (member : k ∈ passes key due accepts le limit items ts taken) :
    k ∈ taken ∨ ∃ t ∈ ts, ∃ x ∈ items, key x = k ∧ due t x = true ∧ accepts t x = true := by
  induction ts generalizing taken with
  | nil => exact .inl member
  | cons t ts ih =>
    rcases ih member with old | ⟨later, among, x, known⟩
    · rcases List.mem_append.mp old with before | new
      · exact .inl before
      · obtain ⟨x, picked, accepted, same⟩ := mem_pass.mp new
        obtain ⟨present, isDue, -⟩ := mem_waiting.mp (picks_waiting picked)
        exact .inr ⟨t, List.mem_cons_self, x, present, same, isDue, accepted⟩
    · exact .inr ⟨later, List.mem_cons_of_mem _ among, x, known⟩

/-- Passes that accept everything either come to an end of what was due at first, or take all they may. -/
theorem passes_progress (accepted : ∀ t ∈ ts, ∀ x ∈ items, accepts t x = true)
    (stays : ∀ t ∈ ts, ∀ x ∈ items, due first x = true → due t x = true) :
    (∀ x ∈ items, due first x = true → key x ∈ passes key due accepts le limit items ts taken) ∨
      taken.length + limit * ts.length ≤ (passes key due accepts le limit items ts taken).length := by
  induction ts generalizing taken with
  | nil => exact .inr (by simp [passes])
  | cons t ts ih =>
    have whole : pass key due accepts le limit items taken t = (picks key due le limit items taken t).map key := by
      rw [pass, List.filter_eq_self.mpr]
      intro x picked
      exact accepted t List.mem_cons_self x (mem_waiting.mp (picks_waiting picked)).1
    have filled : (picks key due le limit items taken t).length = limit ∨
        ∀ x ∈ waiting key due items taken t, x ∈ picks key due le limit items taken t := picks_full
    rcases filled with full | all
    · rcases @ih (taken ++ pass key due accepts le limit items taken t)
        (fun t among => accepted t (List.mem_cons_of_mem _ among))
        (fun t among => stays t (List.mem_cons_of_mem _ among)) with drained | more
      · exact .inl drained
      · right
        rw [whole, List.length_append, List.length_map, full] at more
        rw [passes, whole, List.length_cons, Nat.mul_succ]
        omega
    · left
      intro x present isDue
      have after : taken ++ pass key due accepts le limit items taken t <+:
          passes key due accepts le limit items (t :: ts) taken := passes_taken
      apply after.subset
      by_cases old : key x ∈ taken
      · exact List.mem_append_left _ old
      · have waits : x ∈ waiting key due items taken t :=
          mem_waiting.mpr ⟨present, stays t List.mem_cons_self x present isDue, old⟩
        rw [whole]
        exact List.mem_append_right _ (List.mem_map_of_mem (all x waits))

/-- Enough passes take everything that was due at first. -/
theorem passes_drain (distinct : (items.map key).Nodup) (accepted : ∀ t ∈ ts, ∀ x ∈ items, accepts t x = true)
    (stays : ∀ t ∈ ts, ∀ x ∈ items, due first x = true → due t x = true)
    (enough : items.length ≤ limit * ts.length) (present : x ∈ items) (isDue : due first x = true) :
    key x ∈ passes key due accepts le limit items ts [] := by
  have progress : (∀ x ∈ items, due first x = true → key x ∈ passes key due accepts le limit items ts []) ∨
      [].length + limit * ts.length ≤ (passes key due accepts le limit items ts []).length :=
    passes_progress accepted stays
  rcases progress with drained | more
  · exact drained x present isDue
  · -- As many keys as there are items, all of items: so all keys.
    have among : passes key due accepts le limit items ts [] ⊆ items.map key := by
      intro k member
      rcases passes_due member with old | ⟨t, -, x, present, rfl, -⟩
      · exact absurd old List.not_mem_nil
      · exact List.mem_map_of_mem present
    have taken : (passes key due accepts le limit items ts []).Nodup := passes_nodup distinct List.nodup_nil
    have same := (taken.subperm among).perm_of_length_le (by simp at more ⊢; omega)
    exact same.mem_iff.mpr (List.mem_map_of_mem present)

end Drain
