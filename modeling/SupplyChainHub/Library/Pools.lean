import Mathlib.Data.List.Basic

/-!
Pools of concurrent sessions, each known by its place in a list, and the keys they hold.
-/

namespace Pool

variable {α : Type*} {p : α → Bool} {i j : Nat} {xs : List α} {x y z : α}

/-- Some session other than the one at `i` satisfies `p`. -/
def elsewhere (p : α → Bool) (i : Nat) (xs : List α) : Bool :=
  xs.zipIdx.any fun entry => entry.2 != i && p entry.1

theorem elsewhere_false :
    elsewhere p i xs = false ↔ ∀ j x, xs[j]? = some x → j ≠ i → p x = false := by
  constructor
  · intro none j x present other
    have all := List.any_eq_false.mp none (x, j) (List.mem_zipIdx_iff_getElem?.mpr present)
    simpa [other] using all
  · intro all
    apply List.any_eq_false.mpr
    rintro ⟨x, j⟩ member
    have present := List.mem_zipIdx_iff_getElem?.mp member
    by_cases other : j = i
    · simp [other]
    · simp [all j x present other]

theorem set_cases (h : (xs.set i y)[j]? = some z) : (j = i ∧ z = y) ∨ (j ≠ i ∧ xs[j]? = some z) := by
  by_cases same : j = i
  · subst same
    rw [List.getElem?_set_self'] at h
    cases present : xs[j]? with
    | none => simp [present] at h
    | some x =>
      simp only [present, Option.map_eq_map, Option.map_some, Function.const_apply,
        Option.some.injEq] at h
      exact .inl ⟨rfl, h.symm⟩
  · rw [List.getElem?_set_ne (Ne.symm same)] at h
    exact .inr ⟨same, h⟩

theorem push_cases (h : (xs ++ [y])[j]? = some z) : xs[j]? = some z ∨ (j = xs.length ∧ z = y) := by
  rcases Nat.lt_or_ge j xs.length with inside | outside
  · rw [List.getElem?_append_left inside] at h
    exact .inl h
  · rw [List.getElem?_append_right outside] at h
    have first : j - xs.length = 0 := by
      by_contra later
      have : ([y] : List α)[j - xs.length]? = none := by
        rw [List.getElem?_eq_none]
        simp only [List.length_cons, List.length_nil]
        omega
      rw [this] at h
      cases h
    rw [first] at h
    exact .inr ⟨by omega, by simpa using h.symm⟩

theorem set_present (present : xs[i]? = some x) : (xs.set i y)[i]? = some y := by
  rw [List.getElem?_set_self']
  simp [present]

/-! ### Exclusive keys -/

section
variable {κ : Type*} {held : α → List κ} {committed : List κ} {k : κ}

/-- No key is committed and held, held by two sessions, or twice in one place. -/
structure Exclusive (held : α → List κ) (committed : List κ) (xs : List α) : Prop where
  distinct : committed.Nodup
  own : ∀ (i : Nat) (x : α), xs[i]? = some x → (held x).Nodup
  apart : ∀ (i : Nat) (x : α), xs[i]? = some x → ∀ k ∈ held x, k ∉ committed
  between : ∀ (i j : Nat) (x y : α), xs[i]? = some x → xs[j]? = some y → i ≠ j → ∀ k ∈ held x, k ∉ held y

theorem Exclusive.nil (held : α → List κ) : Exclusive held [] [] where
  distinct := List.nodup_nil
  own := nofun
  apart := nofun
  between := nofun

theorem Exclusive.opening (distinct : committed.Nodup) : Exclusive held committed [] where
  distinct := distinct
  own := nofun
  apart := nofun
  between := nofun

theorem Exclusive.keep (exclusive : Exclusive held committed xs) (present : xs[i]? = some x)
    (fewer : (held y).Sublist (held x)) : Exclusive held committed (xs.set i y) := by
  -- Whatever is in the new pool stands for a session of the old one that holds at least as much.
  have stands (j : Nat) (z : α) (found : (xs.set i y)[j]? = some z) :
      ∃ w, xs[j]? = some w ∧ (held z).Sublist (held w) := by
    rcases set_cases found with ⟨rfl, rfl⟩ | ⟨-, old⟩
    · exact ⟨x, present, fewer⟩
    · exact ⟨z, old, .refl _⟩
  refine ⟨exclusive.distinct, ?_, ?_, ?_⟩
  · intro j z found
    obtain ⟨w, old, sub⟩ := stands j z found
    exact (exclusive.own j w old).sublist sub
  · intro j z found k member
    obtain ⟨w, old, sub⟩ := stands j z found
    exact exclusive.apart j w old k (sub.subset member)
  · intro j j' z z' found found' different k member member'
    obtain ⟨w, old, sub⟩ := stands j z found
    obtain ⟨w', old', sub'⟩ := stands j' z' found'
    exact exclusive.between j j' w w' old old' different k (sub.subset member) (sub'.subset member')

theorem Exclusive.push (exclusive : Exclusive held committed xs) (empty : held y = []) :
    Exclusive held committed (xs ++ [y]) := by
  have stands (j : Nat) (z : α) (found : (xs ++ [y])[j]? = some z) : xs[j]? = some z ∨ held z = [] := by
    rcases push_cases found with old | ⟨-, rfl⟩
    · exact .inl old
    · exact .inr empty
  refine ⟨exclusive.distinct, ?_, ?_, ?_⟩
  · intro j z found
    rcases stands j z found with old | none
    · exact exclusive.own j z old
    · simp [none]
  · intro j z found k member
    rcases stands j z found with old | none
    · exact exclusive.apart j z old k member
    · simp [none] at member
  · intro j j' z z' found found' different k member member'
    rcases stands j z found with old | none
    · rcases stands j' z' found' with old' | none'
      · exact exclusive.between j j' z z' old old' different k member member'
      · simp [none'] at member'
    · simp [none] at member

theorem Exclusive.take (exclusive : Exclusive held committed xs) (present : xs[i]? = some x)
    (taken : held y = held x ++ [k]) (new : k ∉ committed) (mine : k ∉ held x)
    (free : ∀ j z, xs[j]? = some z → j ≠ i → k ∉ held z) : Exclusive held committed (xs.set i y) := by
  have others (j : Nat) (z : α) (found : (xs.set i y)[j]? = some z) (other : j ≠ i) : xs[j]? = some z := by
    rcases set_cases found with ⟨same, -⟩ | ⟨-, old⟩
    · exact absurd same other
    · exact old
  have self (z : α) (found : (xs.set i y)[i]? = some z) : z = y := by
    rcases set_cases found with ⟨-, same⟩ | ⟨other, -⟩
    · exact same
    · exact absurd rfl other
  have mixed (j : Nat) (z : α) (old : xs[j]? = some z) (other : j ≠ i) (k' : κ) (mem : k' ∈ held y) :
      k' ∉ held z := by
    rw [taken, List.mem_append, List.mem_singleton] at mem
    rcases mem with before | rfl
    · exact exclusive.between i j x z present old (Ne.symm other) k' before
    · exact free j z old other
  refine ⟨exclusive.distinct, ?_, ?_, ?_⟩
  · intro j z found
    by_cases same : j = i
    · subst same
      rw [self z found, taken, List.nodup_append]
      refine ⟨exclusive.own j x present, by simp, ?_⟩
      intro a before b last equal
      rw [List.mem_singleton.mp last] at equal
      exact mine (equal ▸ before)
    · exact exclusive.own j z (others j z found same)
  · intro j z found k' member
    by_cases same : j = i
    · subst same
      rw [self z found, taken, List.mem_append, List.mem_singleton] at member
      rcases member with before | rfl
      · exact exclusive.apart j x present k' before
      · exact new
    · exact exclusive.apart j z (others j z found same) k' member
  · intro j j' z z' found found' different k' member member'
    by_cases same : j = i
    · subst same
      have other : j' ≠ j := Ne.symm different
      rw [self z found] at member
      exact mixed j' z' (others j' z' found' other) other k' member member'
    · by_cases same' : j' = i
      · subst same'
        rw [self z' found'] at member'
        exact mixed j z (others j z found same) same k' member' member
      · exact exclusive.between j j' z z' (others j z found same) (others j' z' found' same') different k'
          member member'

theorem Exclusive.commit (exclusive : Exclusive held committed xs) (present : xs[i]? = some x)
    (empty : held y = []) : Exclusive held (committed ++ held x) (xs.set i y) := by
  have kept := exclusive.keep (y := y) present (by rw [empty]; exact List.nil_sublist _)
  refine ⟨?_, kept.own, ?_, kept.between⟩
  · rw [List.nodup_append]
    refine ⟨exclusive.distinct, exclusive.own i x present, ?_⟩
    intro a before b mine equal
    exact exclusive.apart i x present b mine (equal ▸ before)
  · intro j z found k member
    rw [List.mem_append, not_or]
    refine ⟨kept.apart j z found k member, ?_⟩
    rcases set_cases found with ⟨-, rfl⟩ | ⟨other, old⟩
    · simp [empty] at member
    · exact exclusive.between j i z x old present other k member

/-- A key that nobody holds may be committed by others than the sessions. -/
theorem Exclusive.grow (exclusive : Exclusive held committed xs) (new : k ∉ committed)
    (free : ∀ (j : Nat) (z : α), xs[j]? = some z → k ∉ held z) : Exclusive held (committed ++ [k]) xs := by
  refine ⟨?_, exclusive.own, ?_, exclusive.between⟩
  · rw [List.nodup_append]
    refine ⟨exclusive.distinct, by simp, ?_⟩
    intro a before b last equal
    rw [List.mem_singleton.mp last] at equal
    exact new (equal ▸ before)
  · intro j z found k' member
    rw [List.mem_append, List.mem_singleton, not_or]
    refine ⟨exclusive.apart j z found k' member, ?_⟩
    rintro rfl
    exact free j z found member

end

/-! ### Disjoint keys -/

/-- No two sessions hold a key in common. -/
def Disjoint {κ : Type*} (held : α → List κ) (xs : List α) : Prop :=
  ∀ (i j : Nat) (x y : α), xs[i]? = some x → xs[j]? = some y → i ≠ j → ∀ k ∈ held x, k ∉ held y

/-- A session may take keys that no other holds. -/
theorem Disjoint.take {κ : Type*} {held : α → List κ} (disjoint : Disjoint held xs) (present : xs[i]? = some x)
    (fresh : ∀ k ∈ held y, k ∈ held x ∨ ∀ j z, xs[j]? = some z → j ≠ i → k ∉ held z) :
    Disjoint held (xs.set i y) := by
  intro j l z v first second different k mine theirs
  rcases set_cases first with ⟨rfl, rfl⟩ | ⟨otherFirst, oldFirst⟩
  · rcases set_cases second with ⟨rfl, -⟩ | ⟨otherSecond, oldSecond⟩
    · exact different rfl
    · rcases fresh k mine with before | free
      · exact disjoint _ _ x v present oldSecond different k before theirs
      · exact free l v oldSecond otherSecond theirs
  · rcases set_cases second with ⟨rfl, rfl⟩ | ⟨-, oldSecond⟩
    · rcases fresh k theirs with before | free
      · exact disjoint _ _ z x oldFirst present different k mine before
      · exact free j z oldFirst otherFirst mine
    · exact disjoint _ _ z v oldFirst oldSecond different k mine theirs

theorem Disjoint.keep {κ : Type*} {held : α → List κ} (disjoint : Disjoint held xs) (present : xs[i]? = some x)
    (fewer : ∀ k ∈ held y, k ∈ held x) : Disjoint held (xs.set i y) :=
  disjoint.take present fun k mine => .inl (fewer k mine)

theorem Disjoint.push {κ : Type*} {held : α → List κ} (disjoint : Disjoint held xs) (empty : held y = []) :
    Disjoint held (xs ++ [y]) := by
  intro j l z v first second different k mine theirs
  rcases push_cases first with oldFirst | ⟨-, rfl⟩
  · rcases push_cases second with oldSecond | ⟨-, rfl⟩
    · exact disjoint j l z v oldFirst oldSecond different k mine theirs
    · simp [empty] at theirs
  · simp [empty] at mine

end Pool
