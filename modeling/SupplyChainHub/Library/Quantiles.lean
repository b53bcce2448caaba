import Mathlib.Algebra.Order.Floor.Semiring
import Mathlib.Data.List.GetD
import Mathlib.Data.List.Sort
import Mathlib.Tactic.Linarith
import Mathlib.Tactic.Positivity
import Mathlib.Tactic.Ring

/-!
Quantiles of a list, interpolated linearly between the entries of the sorted list, and how many entries
can lie on either side of one.
-/

namespace Quantiles

variable {K : Type*} [Field K] [LinearOrder K] [FloorSemiring K]

/-- The value of a sorted list at a position between its entries. -/
def interpolate (xs : List K) (h : K) : K :=
  let lower := xs.getD ⌊h⌋₊ 0
  let upper := xs.getD (⌊h⌋₊ + 1) lower
  lower + (upper - lower) * (h - ⌊h⌋₊)

def quantile (q : K) (xs : List K) : K :=
  interpolate (xs.insertionSort (· ≤ ·)) (q * ((xs.length - 1 : ℕ) : K))

variable {xs ys : List K} {q h : K} {k : ℕ}

theorem quantile_perm (perm : xs.Perm ys) : quantile q xs = quantile q ys := by
  have sorted : xs.insertionSort (· ≤ ·) = ys.insertionSort (· ≤ ·) := by
    apply List.Perm.eq_of_pairwise' (List.pairwise_insertionSort _ _) (List.pairwise_insertionSort _ _)
    exact ((List.perm_insertionSort _ _).trans perm).trans (List.perm_insertionSort _ _).symm
  rw [quantile, quantile, sorted, perm.length_eq]

theorem sorted_getD_le {α : Type*} [Preorder α] {xs : List α} {i j : ℕ} {d : α}
    (sorted : xs.Pairwise (· ≤ ·)) (le : i ≤ j) (inside : j < xs.length) : xs.getD i d ≤ xs.getD j d := by
  rw [List.getD_eq_getElem _ _ (by omega), List.getD_eq_getElem _ _ inside]
  rcases Nat.lt_or_eq_of_le le with lt | rfl
  · exact List.pairwise_iff_getElem.mp sorted i j (by omega) inside lt
  · exact le_rfl

/-- The last entry counts as its own successor. -/
theorem getD_le_next {α : Type*} [Preorder α] {xs : List α} {i : ℕ} {d : α} (sorted : xs.Pairwise (· ≤ ·)) :
    xs.getD i d ≤ xs.getD (i + 1) (xs.getD i d) := by
  by_cases inside : i + 1 < xs.length
  · have next := sorted_getD_le (d := d) sorted (Nat.le_succ i) inside
    rwa [List.getD_eq_getElem _ _ inside] at next ⊢
  · rw [List.getD_eq_default _ _ (by omega : xs.length ≤ i + 1)]

/-- The first entries of a sorted list are at most what one of them is. -/
theorem count_le_of_getD {α : Type*} [LinearOrder α] {xs : List α} {d t : α} (sorted : xs.Pairwise (· ≤ ·))
    (inside : k < xs.length) (le : xs.getD k d ≤ t) :
    k + 1 ≤ xs.countP (· ≤ t) := by
  have all : ∀ x ∈ xs.take (k + 1), decide (x ≤ t) = true := by
    intro x member
    obtain ⟨i, bound, rfl⟩ := List.mem_take_iff_getElem.mp member
    have before := sorted_getD_le (d := d) sorted (by omega : i ≤ k) inside
    rw [List.getD_eq_getElem _ _ (by omega)] at before
    exact decide_eq_true (before.trans le)
  have first : (xs.take (k + 1)).countP (· ≤ t) = k + 1 := by
    rw [List.countP_eq_length.mpr all, List.length_take]
    omega
  rw [← first]
  exact (List.take_sublist _ _).countP_le

variable [IsStrictOrderedRing K]

/-- A value interpolated at a position is not below the entry it starts from. -/
theorem floor_le_interpolate (sorted : xs.Pairwise (· ≤ ·)) (nonnegative : 0 ≤ h) :
    xs.getD ⌊h⌋₊ 0 ≤ interpolate xs h := by
  have upward := getD_le_next (d := 0) (i := ⌊h⌋₊) sorted
  have along : 0 ≤ h - ⌊h⌋₊ := sub_nonneg.mpr (Nat.floor_le nonnegative)
  unfold interpolate
  have step := mul_nonneg (sub_nonneg.mpr upward) along
  dsimp only
  linarith

/-- Of `p` entries, at least those up to position `q * (p - 1)` are at most the quantile. -/
theorem count_le_quantile (nonempty : xs ≠ []) (nonnegative : 0 ≤ q) (le_one : q ≤ 1) :
    ⌊q * ((xs.length - 1 : ℕ) : K)⌋₊ + 1 ≤ xs.countP (· ≤ quantile q xs) := by
  have sorted := List.pairwise_insertionSort (α := K) (· ≤ ·) xs
  have positive := List.length_pos_of_ne_nil nonempty
  have position : 0 ≤ q * ((xs.length - 1 : ℕ) : K) := by positivity
  have inside : ⌊q * ((xs.length - 1 : ℕ) : K)⌋₊ ≤ xs.length - 1 := by
    apply Nat.floor_le_of_le
    exact mul_le_of_le_one_left (by positivity) le_one
  rw [← (List.perm_insertionSort (· ≤ ·) xs).countP_eq]
  apply count_le_of_getD sorted
  · rw [List.length_insertionSort]
    omega
  · exact floor_le_interpolate sorted position

/-- The others are all that can be above it. -/
theorem count_gt_quantile (nonempty : xs ≠ []) (nonnegative : 0 ≤ q) (le_one : q ≤ 1) :
    xs.countP (quantile q xs < ·) + (⌊q * ((xs.length - 1 : ℕ) : K)⌋₊ + 1) ≤ xs.length := by
  have both := List.length_eq_countP_add_countP (fun x => decide (x ≤ quantile q xs)) (l := xs)
  have above : xs.countP (quantile q xs < ·) = xs.countP fun x => ¬ decide (x ≤ quantile q xs) = true := by
    apply List.countP_congr
    intro x _
    simp
  have below := count_le_quantile nonempty nonnegative le_one
  omega

/-! ### Order -/

/-- Nor is it above the entry it leads to. -/
theorem interpolate_le_ceiling (sorted : xs.Pairwise (· ≤ ·)) (inside : ⌊h⌋₊ + 1 < xs.length) :
    interpolate xs h ≤ xs.getD (⌊h⌋₊ + 1) 0 := by
  have upward := sorted_getD_le (d := 0) sorted (Nat.le_succ ⌊h⌋₊) inside
  have same : xs.getD (⌊h⌋₊ + 1) (xs.getD ⌊h⌋₊ 0) = xs.getD (⌊h⌋₊ + 1) 0 := by
    rw [List.getD_eq_getElem _ _ inside, List.getD_eq_getElem _ _ inside]
  have along : h - ⌊h⌋₊ ≤ 1 := by
    have next := (Nat.lt_floor_add_one h).le
    linarith
  unfold interpolate
  dsimp only
  rw [same]
  have step := mul_le_of_le_one_right (sub_nonneg.mpr upward) along
  linarith

/-- Values at later positions are no smaller. -/
theorem interpolate_mono {h' : K} (sorted : xs.Pairwise (· ≤ ·)) (nonnegative : 0 ≤ h) (le : h ≤ h')
    (inside : ⌊h'⌋₊ < xs.length) : interpolate xs h ≤ interpolate xs h' := by
  have floors := Nat.floor_mono le
  rcases Nat.lt_or_eq_of_le floors with apart | same
  · calc
      interpolate xs h ≤ xs.getD (⌊h⌋₊ + 1) 0 := interpolate_le_ceiling sorted (by omega)
      _ ≤ xs.getD ⌊h'⌋₊ 0 := sorted_getD_le sorted apart inside
      _ ≤ interpolate xs h' := floor_le_interpolate sorted (nonnegative.trans le)
  · have upward := getD_le_next (d := 0) (i := ⌊h⌋₊) sorted
    unfold interpolate
    dsimp only
    rw [← same]
    have step := mul_le_mul_of_nonneg_left (sub_le_sub_right le (⌊h⌋₊ : K)) (sub_nonneg.mpr upward)
    linarith

theorem floor_position (positive : 0 < xs.length) (le_one : q ≤ 1) :
    ⌊q * ((xs.length - 1 : ℕ) : K)⌋₊ < xs.length := by
  have bound : ⌊q * ((xs.length - 1 : ℕ) : K)⌋₊ ≤ xs.length - 1 :=
    Nat.floor_le_of_le (mul_le_of_le_one_left (by positivity) le_one)
  omega

theorem quantile_mono {q' : K} (nonempty : xs ≠ []) (nonnegative : 0 ≤ q) (le : q ≤ q') (le_one : q' ≤ 1) :
    quantile q xs ≤ quantile q' xs := by
  have positive : 0 < (xs.insertionSort (· ≤ ·)).length := by
    rw [List.length_insertionSort]
    exact List.length_pos_of_ne_nil nonempty
  have inside := floor_position positive le_one
  rw [List.length_insertionSort] at inside
  refine interpolate_mono (List.pairwise_insertionSort _ _) (by positivity) ?_ (by rwa [List.length_insertionSort])
  exact mul_le_mul_of_nonneg_right le (by positivity)

/-- A quantile lies between any bounds of the entries. -/
theorem quantile_between {low high : K} (nonempty : xs ≠ []) (nonnegative : 0 ≤ q) (le_one : q ≤ 1)
    (above : ∀ x ∈ xs, low ≤ x) (below : ∀ x ∈ xs, x ≤ high) : low ≤ quantile q xs ∧ quantile q xs ≤ high := by
  have sorted := List.pairwise_insertionSort (α := K) (· ≤ ·) xs
  have length := List.length_insertionSort (· ≤ ·) xs
  have positive := List.length_pos_of_ne_nil nonempty
  have position : 0 ≤ q * ((xs.length - 1 : ℕ) : K) := by positivity
  have inside := floor_position positive le_one
  have entry {i : ℕ} (bound : i < xs.length) : (xs.insertionSort (· ≤ ·)).getD i 0 ∈ xs := by
    rw [List.getD_eq_getElem _ _ (by omega)]
    exact (List.perm_insertionSort _ _).subset (List.getElem_mem _)
  constructor
  · exact (above _ (entry inside)).trans (floor_le_interpolate sorted position)
  · by_cases next : ⌊q * ((xs.length - 1 : ℕ) : K)⌋₊ + 1 < xs.length
    · exact (interpolate_le_ceiling sorted (by omega)).trans (below _ (entry next))
    · have last : quantile q xs = (xs.insertionSort (· ≤ ·)).getD ⌊q * ((xs.length - 1 : ℕ) : K)⌋₊ 0 := by
        unfold quantile interpolate
        dsimp only
        rw [List.getD_eq_default _ _ (by omega : (xs.insertionSort (· ≤ ·)).length ≤ _ + 1)]
        ring
      rw [last]
      exact below _ (entry inside)

/-- The middle entry, or half the sum of the two in the middle. -/
def median (xs : List K) : K :=
  let sorted := xs.insertionSort (· ≤ ·)
  if xs.length % 2 = 1 then sorted.getD (xs.length / 2) 0
  else (sorted.getD (xs.length / 2 - 1) 0 + sorted.getD (xs.length / 2) 0) / 2

theorem median_eq_quantile (nonempty : xs ≠ []) : median xs = quantile (1 / 2) xs := by
  have positive := List.length_pos_of_ne_nil nonempty
  have length := List.length_insertionSort (· ≤ ·) xs
  unfold median quantile interpolate
  dsimp only
  rcases Nat.even_or_odd' xs.length with ⟨m, even | odd⟩
  · -- The position is half way between the two entries in the middle.
    have position : (1 / 2 : K) * ((xs.length - 1 : ℕ) : K) = ((m - 1 : ℕ) : K) + 1 / 2 := by
      rw [even, Nat.cast_sub (by omega), Nat.cast_sub (by omega)]
      push_cast
      ring
    have floor : ⌊((m - 1 : ℕ) : K) + 1 / 2⌋₊ = m - 1 := by
      rw [Nat.floor_eq_iff (by positivity)]
      constructor <;> linarith
    rw [if_neg (by omega), position, floor, even, Nat.mul_div_cancel_left m (by decide),
      Nat.sub_add_cancel (by omega), List.getD_eq_getElem _ (List.getD _ _ _) (by omega),
      List.getD_eq_getElem (n := m) _ _ (by omega)]
    ring
  · have position : (1 / 2 : K) * ((xs.length - 1 : ℕ) : K) = (m : K) := by
      rw [odd, Nat.add_sub_cancel]
      push_cast
      ring
    rw [if_pos (by omega), position, Nat.floor_natCast, odd, Nat.mul_add_div (by decide)]
    simp

end Quantiles
