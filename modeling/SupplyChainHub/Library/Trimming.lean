import Mathlib.Data.List.DropRight

/-!
Lists without what stands at their ends.
-/

namespace Trimming

variable {α : Type*} {p : α → Bool} {xs : List α}

def trim (p : α → Bool) (xs : List α) : List α := (xs.dropWhile p).rdropWhile p

/-- One of the ends is of the kind that is trimmed. -/
def Padded (p : α → Bool) (xs : List α) : Prop := xs.head?.any p = true ∨ xs.getLast?.any p = true

instance : Decidable (Padded p xs) := inferInstanceAs (Decidable (_ ∨ _))

theorem trim_sublist (p : α → Bool) (xs : List α) : (trim p xs).Sublist xs :=
  (List.rdropWhile_prefix p _).sublist.trans (List.dropWhile_suffix p).sublist

theorem mem_dropWhile {x : α} (kept : p x = false) : x ∈ xs.dropWhile p ↔ x ∈ xs := by
  induction xs with
  | nil => rfl
  | cons head rest ih =>
    rw [List.dropWhile_cons]
    split
    · rename_i dropped
      rw [ih, List.mem_cons]
      have other : x ≠ head := by
        rintro rfl
        rw [kept] at dropped
        contradiction
      simp [other]
    · rfl

/-- Whatever is not of the kind that is trimmed stays. -/
theorem mem_trim {x : α} (kept : p x = false) : x ∈ trim p xs ↔ x ∈ xs := by
  rw [trim, List.rdropWhile, List.mem_reverse, mem_dropWhile kept, List.mem_reverse, mem_dropWhile kept]

theorem dropWhile_self_iff : xs.dropWhile p = xs ↔ xs.head?.any p = false := by
  cases xs with
  | nil => simp
  | cons x rest => simp [List.dropWhile_eq_self_iff]

theorem rdropWhile_self_iff : xs.rdropWhile p = xs ↔ xs.getLast?.any p = false := by
  rw [List.rdropWhile, List.reverse_eq_iff, dropWhile_self_iff, List.head?_reverse]

/-- What stays as it is has nothing to trim at either end. -/
theorem trim_self_iff : trim p xs = xs ↔ ¬ Padded p xs := by
  unfold Padded
  rw [not_or, Bool.not_eq_true, Bool.not_eq_true, ← dropWhile_self_iff, ← rdropWhile_self_iff]
  constructor
  · intro same
    have shorter : xs.length ≤ (xs.dropWhile p).length := by
      rw [← congrArg List.length same]
      exact (List.rdropWhile_prefix p _).length_le
    have front : xs.dropWhile p = xs := (List.dropWhile_suffix p).eq_of_length_le shorter
    refine ⟨front, ?_⟩
    rw [trim, front] at same
    exact same
  · rintro ⟨front, back⟩
    rw [trim, front, back]

theorem not_padded_trim (p : α → Bool) (xs : List α) : ¬ Padded p (trim p xs) := by
  have front : (xs.dropWhile p).head?.any p = false := dropWhile_self_iff.mp (List.dropWhile_idempotent p xs)
  have back : (trim p xs).getLast?.any p = false :=
    rdropWhile_self_iff.mp (List.rdropWhile_idempotent p (xs.dropWhile p))
  rintro (first | last)
  · obtain ⟨c, head, white⟩ := (Option.any_eq_true _ _).mp first
    have kept : (xs.dropWhile p).head? = some c := by
      rw [← List.singleton_prefix_iff_head?_eq_some] at head ⊢
      exact head.trans (List.rdropWhile_prefix p _)
    rw [kept, Option.any_some, white] at front
    contradiction
  · rw [back] at last
    contradiction

end Trimming
