import Mathlib.Data.List.Nodup
import Mathlib.Data.List.Perm.Basic
import Mathlib.Data.Prod.Basic

/-!
Inner joins of two lists on a key, where no key comes twice on either side.
-/

namespace Joins

variable {α β κ : Type*} [DecidableEq κ] {left : α → κ} {right : β → κ} {xs : List α} {ys : List β} {x : α} {y : β}

def inner (left : α → κ) (right : β → κ) (xs : List α) (ys : List β) : List (α × β) :=
  xs.flatMap fun x => (ys.filter fun y => right y = left x).map (x, ·)

theorem mem_inner : (x, y) ∈ inner left right xs ys ↔ x ∈ xs ∧ y ∈ ys ∧ right y = left x := by
  unfold inner
  simp only [List.mem_flatMap, List.mem_map, List.mem_filter, decide_eq_true_eq, Prod.mk.injEq]
  constructor
  · rintro ⟨x, present, y, ⟨present', same⟩, rfl, rfl⟩
    exact ⟨present, present', same⟩
  · rintro ⟨present, present', same⟩
    exact ⟨x, present, y, ⟨present', same⟩, rfl, rfl⟩

theorem filter_key (unique : (ys.map right).Nodup) (present : y ∈ ys) :
    ys.filter (fun z => right z = right y) = [y] := by
  induction ys with
  | nil => contradiction
  | cons z rest ih =>
    rw [List.map_cons, List.nodup_cons] at unique
    rcases List.mem_cons.mp present with rfl | later
    · have none : rest.filter (fun z => right z = right y) = [] := by
        rw [List.filter_eq_nil_iff]
        intro z member same
        exact unique.1 (List.mem_map.mpr ⟨z, member, of_decide_eq_true same⟩)
      simp [none]
    · have other : right z ≠ right y := by
        intro same
        exact unique.1 (same ▸ List.mem_map_of_mem later)
      rw [List.filter_cons_of_neg (by simpa using other), ih unique.2 later]

/-- The left entries of a join are those with a key on the right, each once. -/
theorem inner_left (unique : (ys.map right).Nodup) :
    (inner left right xs ys).map Prod.fst = xs.filter fun x => left x ∈ ys.map right := by
  induction xs with
  | nil => rfl
  | cons x rest ih =>
    have first : inner left right (x :: rest) ys =
        (ys.filter fun y => right y = left x).map (x, ·) ++ inner left right rest ys := rfl
    rw [first, List.map_append, ih]
    by_cases known : left x ∈ ys.map right
    · obtain ⟨y, present, same⟩ := List.mem_map.mp known
      rw [List.filter_cons_of_pos (by simpa using known), ← same, filter_key unique present]
      rfl
    · have none : ys.filter (fun y => right y = left x) = [] := by
        rw [List.filter_eq_nil_iff]
        intro y member same
        exact known (List.mem_map.mpr ⟨y, member, of_decide_eq_true same⟩)
      rw [List.filter_cons_of_neg (by simpa using known), none]
      rfl

/-- Lists that are aligned are joined entry by entry. -/
theorem inner_aligned {ι : Type*} {f : ι → α} {g : ι → β} {is : List ι} (aligned : ∀ i, right (g i) = left (f i))
    (unique : ((is.map g).map right).Nodup) : inner left right (is.map f) (is.map g) = is.map fun i => (f i, g i) := by
  have entry : ∀ i ∈ is, ((is.map g).filter fun y => right y = left (f i)).map (f i, ·) = [(f i, g i)] := by
    intro i member
    rw [← aligned i, filter_key unique (List.mem_map_of_mem member)]
    rfl
  rw [inner, List.flatMap_map, List.flatMap_congr entry, ← List.map_eq_flatMap]

theorem inner_nodup (single : (xs.map left).Nodup) (unique : (ys.map right).Nodup) :
    (inner left right xs ys).Nodup := by
  apply List.Nodup.of_map Prod.fst
  rw [inner_left unique]
  exact single.of_map.filter _

theorem inner_swap (single : (xs.map left).Nodup) (unique : (ys.map right).Nodup) :
    ((inner left right xs ys).map Prod.swap).Perm (inner right left ys xs) := by
  rw [List.perm_ext_iff_of_nodup ((inner_nodup single unique).map Prod.swap_injective) (inner_nodup unique single)]
  rintro ⟨y, x⟩
  rw [mem_inner, List.mem_map]
  constructor
  · rintro ⟨⟨a, b⟩, member, same⟩
    obtain ⟨rfl, rfl⟩ := Prod.mk.inj same
    obtain ⟨present, present', key⟩ := mem_inner.mp member
    exact ⟨present', present, key.symm⟩
  · rintro ⟨present', present, key⟩
    exact ⟨(x, y), mem_inner.mpr ⟨present, present', key.symm⟩, rfl⟩

theorem inner_right (single : (xs.map left).Nodup) (unique : (ys.map right).Nodup) :
    ((inner left right xs ys).map Prod.snd).Perm (ys.filter fun y => right y ∈ xs.map left) := by
  have swapped := (inner_swap single unique).map Prod.fst
  rw [List.map_map, inner_left single] at swapped
  exact swapped

theorem inner_length_left (unique : (ys.map right).Nodup) :
    (inner left right xs ys).length = xs.length ↔ ∀ x ∈ xs, left x ∈ ys.map right := by
  rw [← List.length_map Prod.fst, inner_left unique, List.length_filter_eq_length_iff]
  simp only [decide_eq_true_eq]

theorem inner_length_right (single : (xs.map left).Nodup) (unique : (ys.map right).Nodup) :
    (inner left right xs ys).length = ys.length ↔ ∀ y ∈ ys, right y ∈ xs.map left := by
  rw [← List.length_map Prod.snd, (inner_right single unique).length_eq, List.length_filter_eq_length_iff]
  simp only [decide_eq_true_eq]

/-- The join has as many entries as either side just when the two sides have the same keys. -/
theorem inner_full (single : (xs.map left).Nodup) (unique : (ys.map right).Nodup) :
    ((inner left right xs ys).length = xs.length ∧ (inner left right xs ys).length = ys.length) ↔
      ∀ k, k ∈ xs.map left ↔ k ∈ ys.map right := by
  rw [inner_length_left unique, inner_length_right single unique]
  constructor
  · rintro ⟨forth, back⟩ k
    constructor
    · intro member
      obtain ⟨x, present, rfl⟩ := List.mem_map.mp member
      exact forth x present
    · intro member
      obtain ⟨y, present, rfl⟩ := List.mem_map.mp member
      exact back y present
  · intro same
    exact ⟨fun x present => (same _).mp (List.mem_map_of_mem present),
      fun y present => (same _).mpr (List.mem_map_of_mem present)⟩

/-- Then it pairs off all entries of both. -/
theorem inner_pairs (single : (xs.map left).Nodup) (unique : (ys.map right).Nodup)
    (same : ∀ k, k ∈ xs.map left ↔ k ∈ ys.map right) :
    (inner left right xs ys).map Prod.fst = xs ∧ ((inner left right xs ys).map Prod.snd).Perm ys := by
  constructor
  · rw [inner_left unique, List.filter_eq_self]
    intro x present
    exact decide_eq_true ((same _).mp (List.mem_map_of_mem present))
  · have all : ys.filter (fun y => right y ∈ xs.map left) = ys := by
      rw [List.filter_eq_self]
      intro y present
      exact decide_eq_true ((same _).mpr (List.mem_map_of_mem present))
    have pairs := inner_right single unique
    rwa [all] at pairs

end Joins
