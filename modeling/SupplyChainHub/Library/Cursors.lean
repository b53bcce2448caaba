import Mathlib.Data.List.Sort

/-!
Reading a listing page after page. The listing is ordered by a time and then by an id, and the page that
resumes from an entry holds what is not earlier than the entry, without the entry itself.
-/

namespace Cursors

/-- The two columns a listing is ordered by. -/
structure Stamps (α κ ι : Type*) where
  time : α → κ
  id : α → ι

variable {α κ ι : Type*} [LinearOrder κ] [LinearOrder ι]

namespace Stamps

variable (S : Stamps α κ ι)

def NotAfter (x y : α) : Prop := S.time x < S.time y ∨ S.time x = S.time y ∧ S.id x ≤ S.id y

instance : DecidableRel S.NotAfter := fun _ _ => inferInstanceAs (Decidable (_ ∨ _))

def ordered (xs : List α) : List α := xs.insertionSort S.NotAfter

/-- The filter a page puts on the listing it resumes. -/
def From (x y : α) : Prop := S.time x ≤ S.time y ∧ S.id y ≠ S.id x

instance (x : α) : DecidablePred (S.From x) := fun _ => inferInstanceAs (Decidable (_ ∧ _))

/-- Another entry of the same time stands before `x`. -/
def TiedBefore (xs : List α) (x : α) : Prop := ∃ y ∈ xs, S.time y = S.time x ∧ S.id y < S.id x

def Distinct (xs : List α) : Prop := ∀ x ∈ xs, ∀ y ∈ xs, S.id x = S.id y → x = y

end Stamps

section
variable {S : Stamps α κ ι} {xs before rest : List α} {x y : α}

instance : Std.Total S.NotAfter where
  total x y := by
    unfold Stamps.NotAfter
    rcases lt_trichotomy (S.time x) (S.time y) with earlier | tied | later
    · exact .inl (.inl earlier)
    · exact (le_total (S.id x) (S.id y)).imp (fun h => .inr ⟨tied, h⟩) fun h => .inr ⟨tied.symm, h⟩
    · exact .inr (.inl later)

instance : IsTrans α S.NotAfter where
  trans x y z first second := by
    rcases first with first | ⟨same, first⟩ <;> rcases second with second | ⟨tied, second⟩
    · exact .inl (first.trans second)
    · exact .inl (tied ▸ first)
    · exact .inl (same ▸ second)
    · exact .inr ⟨same.trans tied, first.trans second⟩

theorem notAfter_antisymm (first : S.NotAfter x y) (second : S.NotAfter y x) : S.id x = S.id y := by
  rcases first with first | ⟨same, first⟩ <;> rcases second with second | ⟨tied, second⟩
  · exact absurd first second.asymm
  · exact absurd tied first.ne'
  · exact absurd same second.ne'
  · exact le_antisymm first second

theorem mem_ordered : y ∈ S.ordered xs ↔ y ∈ xs := List.mem_insertionSort _

theorem ordered_pairwise (xs : List α) : (S.ordered xs).Pairwise S.NotAfter := List.pairwise_insertionSort _ xs

/-- A condition on the entries selects the same page before the listing is ordered and after. -/
theorem ordered_filter (distinct : S.Distinct xs) (p : α → Bool) :
    S.ordered (xs.filter p) = (S.ordered xs).filter p := by
  have same : (S.ordered (xs.filter p)).Perm ((S.ordered xs).filter p) :=
    (List.perm_insertionSort _ _).trans ((List.perm_insertionSort _ _).filter p).symm
  refine List.Perm.eq_of_pairwise ?_ (ordered_pairwise _) ((ordered_pairwise xs).filter p) same
  intro a b member other first second
  have here := (List.mem_filter.mp (mem_ordered.mp member)).1
  have there := mem_ordered.mp (List.mem_filter.mp other).1
  exact distinct a here b there (notAfter_antisymm first second)

theorem ordered_nodup (nodup : xs.Nodup) : (S.ordered xs).Nodup := (List.perm_insertionSort _ _).nodup_iff.mpr nodup

/-- The page is the rest of the listing, after the entries of the same time that stand before. -/
theorem filter_from (distinct : S.Distinct xs) (nodup : xs.Nodup) (split : S.ordered xs = before ++ x :: rest) :
    (S.ordered xs).filter (S.From x) = (before.filter fun y => S.time x ≤ S.time y) ++ rest := by
  have inside (y : α) (member : y ∈ before ++ x :: rest) : y ∈ xs := mem_ordered.mp (split ▸ member)
  have present : x ∈ xs := inside x (by simp)
  have order := split ▸ ordered_pairwise (S := S) xs
  have once := split ▸ ordered_nodup (S := S) nodup
  rw [List.nodup_append, List.nodup_cons] at once
  obtain ⟨-, ⟨unique, -⟩, apart⟩ := once
  rw [split, List.filter_append, List.filter_cons_of_neg (by simp [Stamps.From])]
  congr 1
  · apply List.filter_congr
    intro y member
    have other : S.id y ≠ S.id x := by
      intro same
      have equal := distinct y (inside y (List.mem_append_left _ member)) x present same
      exact apart y member x List.mem_cons_self equal
    simp [Stamps.From, other]
  · rw [List.filter_eq_self]
    intro y member
    have later : S.NotAfter x y := List.rel_of_pairwise_cons (List.pairwise_append.mp order).2.1 member
    have other : S.id y ≠ S.id x := by
      intro same
      have equal := distinct y (inside y (by simp [member])) x present same
      exact unique (equal ▸ member)
    rw [decide_eq_true_eq]
    exact ⟨later.elim le_of_lt fun tied => tied.1.le, other⟩

/-- What stands before an entry and is not earlier has its time. -/
theorem tied_iff (distinct : S.Distinct xs) (nodup : xs.Nodup) (split : S.ordered xs = before ++ x :: rest) :
    (before.filter fun y => S.time x ≤ S.time y) = [] ↔ ¬ S.TiedBefore xs x := by
  have inside (y : α) (member : y ∈ before ++ x :: rest) : y ∈ xs := mem_ordered.mp (split ▸ member)
  have present : x ∈ xs := inside x (by simp)
  have order := List.pairwise_append.mp (split ▸ ordered_pairwise (S := S) xs)
  have once := split ▸ ordered_nodup (S := S) nodup
  rw [List.nodup_append] at once
  rw [List.filter_eq_nil_iff]
  constructor
  · rintro none ⟨y, member, tied, smaller⟩
    rcases List.mem_append.mp (split ▸ mem_ordered.mpr member) with first | later
    · exact none y first (by simp [tied])
    · rcases List.mem_cons.mp later with rfl | later
      · exact lt_irrefl _ smaller
      · rcases List.rel_of_pairwise_cons order.2.1 later with after | ⟨-, larger⟩
        · exact after.ne' tied
        · exact absurd smaller larger.not_gt
  · intro untied y member found
    rw [decide_eq_true_eq] at found
    rcases order.2.2 y member x List.mem_cons_self with earlier | ⟨tied, smaller⟩
    · exact absurd earlier found.not_gt
    · refine untied ⟨y, inside y (List.mem_append_left _ member), tied, smaller.lt_of_ne fun same => ?_⟩
      have equal := distinct y (inside y (List.mem_append_left _ member)) x present same
      exact once.2.2 y member x List.mem_cons_self equal

/-- No more than the rest comes only where nothing of the same time stands before. -/
theorem from_prefix (distinct : S.Distinct xs) (nodup : xs.Nodup) (split : S.ordered xs = before ++ x :: rest)
    (short : S.ordered (xs.filter (S.From x)) <+: rest) : ¬ S.TiedBefore xs x := by
  rw [ordered_filter distinct, filter_from distinct nodup split] at short
  rw [← tied_iff distinct nodup split]
  have lengths := short.length_le
  rw [List.length_append] at lengths
  exact List.eq_nil_of_length_eq_zero (by omega)

theorem from_rest (distinct : S.Distinct xs) (nodup : xs.Nodup) (split : S.ordered xs = before ++ x :: rest)
    (untied : ¬ S.TiedBefore xs x) : S.ordered (xs.filter (S.From x)) = rest := by
  rw [ordered_filter distinct, filter_from distinct nodup split, (tied_iff distinct nodup split).mpr untied,
    List.nil_append]

end

/-! ### Page after page -/

/-- What a client has seen that takes some of the listing, and then some of what follows the last it saw. -/
inductive Reading {α : Type*} (listing : List α) (resume : α → List α) : List α → Prop where
  | first {page : List α} (taken : page <+: listing) : Reading listing resume page
  | next {seen page : List α} {last : α} (before : Reading listing resume (seen ++ [last]))
      (taken : page <+: resume last) : Reading listing resume (seen ++ [last] ++ page)

section
variable {α : Type*} {listing seen : List α} {resume : α → List α}

/-- Where every page is the rest of the listing, the client reads the listing from its start. -/
theorem reading_prefix (rest : ∀ before x after, listing = before ++ x :: after → resume x = after)
    (reading : Reading listing resume seen) : seen <+: listing := by
  induction reading with
  | first taken => exact taken
  | @next seen page last before taken ih =>
    obtain ⟨after, split⟩ := ih
    rw [List.append_assoc, List.singleton_append] at split
    rw [rest seen last after split.symm] at taken
    rw [← split, List.append_assoc, List.singleton_append]
    exact List.prefix_append_right_inj _ |>.mpr (List.cons_prefix_cons.mpr ⟨rfl, taken⟩)

/-- The client may take a whole page and the whole page after it. -/
theorem reading_resumes {before after : List α} {x : α} (split : listing = before ++ x :: after) :
    Reading listing resume (before ++ [x] ++ resume x) := by
  apply Reading.next _ (List.prefix_refl _)
  apply Reading.first
  rw [split]
  exact ⟨after, by simp⟩

end

end Cursors
