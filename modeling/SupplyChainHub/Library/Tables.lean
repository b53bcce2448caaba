import Mathlib.Data.List.Basic
import Mathlib.Data.List.Count
import Mathlib.Data.List.Nodup

/-!
Tables as lists of rows, read and updated by key.

A lookup returns the first row with the key; an update rewrites every row with it. Both agree with
a primary key when the keys are distinct.
-/

namespace Table

variable {α β κ : Type*} [DecidableEq κ] (key : α → κ)

def lookup (k : κ) (rows : List α) : Option α := rows.find? fun r => key r = k

def modify (k : κ) (f : α → α) (rows : List α) : List α :=
  rows.map fun r => if key r = k then f r else r

section
variable {key : α → κ} {k k' : κ} {f : α → α} {rows : List α} {r : α}

theorem lookup_mem (h : lookup key k rows = some r) : r ∈ rows := List.mem_of_find?_eq_some h

theorem lookup_key (h : lookup key k rows = some r) : key r = k := by
  simpa using List.find?_some h

theorem lookup_none : lookup key k rows = none ↔ ∀ r ∈ rows, key r ≠ k := by
  simp [lookup]

@[simp] theorem lookup_nil : lookup key k [] = none := rfl

theorem lookup_cons : lookup key k (r :: rows) = if key r = k then some r else lookup key k rows := by
  by_cases same : key r = k <;> simp [lookup, same]

theorem lookup_append (more : List α) :
    lookup key k (rows ++ more) = (lookup key k rows).or (lookup key k more) :=
  List.find?_append

theorem lookup_append_present (present : lookup key k rows = some r) (more : List α) :
    lookup key k (rows ++ more) = some r := by
  rw [lookup_append, present, Option.some_or]

theorem lookup_append_absent (absent : lookup key k rows = none) (more : List α) :
    lookup key k (rows ++ more) = lookup key k more := by
  rw [lookup_append, absent, Option.none_or]

/-- Where the row of a table one row longer comes from. -/
theorem lookup_push_cases {x : α} (h : lookup key k (rows ++ [x]) = some r) :
    lookup key k rows = some r ∨ key x = k ∧ r = x := by
  rw [lookup_append, lookup_cons, lookup_nil] at h
  rcases Option.or_eq_some_iff.mp h with old | ⟨-, new⟩
  · exact .inl old
  · split at new
    · rename_i same
      exact .inr ⟨same, (Option.some.inj new).symm⟩
    · contradiction

theorem lookup_of_mem (distinct : (rows.map key).Nodup) (present : r ∈ rows) :
    lookup key (key r) rows = some r := by
  induction rows with
  | nil => simp at present
  | cons head tail ih =>
    rw [List.map_cons, List.nodup_cons] at distinct
    rw [lookup_cons]
    rcases List.mem_cons.mp present with rfl | later
    · simp
    · have other : key head ≠ key r := by
        intro same
        exact distinct.1 (same ▸ List.mem_map_of_mem later)
      rw [if_neg other]
      exact ih distinct.2 later

theorem modify_cons :
    modify key k f (r :: rows) = (if key r = k then f r else r) :: modify key k f rows := rfl

theorem modify_mem (present : r ∈ rows) : f r ∈ modify key (key r) f rows :=
  List.mem_map.mpr ⟨r, present, if_pos rfl⟩

/-- What every row has, every row of a table one row longer has. -/
theorem forall_push {p : α → Prop} (rowsHave : ∀ r ∈ rows, p r) (new : p r) : ∀ x ∈ rows ++ [r], p x :=
  List.forall_mem_append.mpr ⟨rowsHave, List.forall_mem_singleton.mpr new⟩

/-- What every row has, every row of an updated table has. -/
theorem forall_modify {p : α → Prop} (rowsHave : ∀ r ∈ rows, p r) (kept : ∀ r, key r = k → p r → p (f r)) :
    ∀ r ∈ modify key k f rows, p r := by
  intro r member
  obtain ⟨old, present, rfl⟩ := List.mem_map.mp member
  have before := rowsHave old present
  split
  · rename_i same
    exact kept old same before
  · exact before

/-- What an update keeps of every row, it keeps of the table. -/
theorem map_modify {g : α → β} (keeps : ∀ r, key r = k → g (f r) = g r) : (modify key k f rows).map g = rows.map g := by
  rw [modify, List.map_map]
  refine List.map_congr_left fun r _ => ?_
  by_cases same : key r = k
  · simp [same, keeps r same]
  · simp [same]

theorem modify_keys (keeps : ∀ r, key r = k → key (f r) = k) :
    (modify key k f rows).map key = rows.map key := by
  rw [modify, List.map_map]
  refine List.map_congr_left fun r _ => ?_
  by_cases same : key r = k
  · simp [same, keeps r same]
  · simp [same]

omit [DecidableEq κ] in
theorem keys_push (distinct : (rows.map key).Nodup) (free : ∀ x ∈ rows, key x ≠ key r) :
    ((rows ++ [r]).map key).Nodup := by
  rw [List.map_append, List.map_singleton]
  refine distinct.append (List.nodup_singleton _) ?_
  intro k old new
  rw [List.mem_singleton] at new
  obtain ⟨x, present, same⟩ := List.mem_map.mp old
  exact free x present (same.trans new)

theorem lookup_modify_self (keeps : ∀ r, key r = k → key (f r) = k) :
    lookup key k (modify key k f rows) = (lookup key k rows).map f := by
  induction rows with
  | nil => rfl
  | cons head tail ih =>
    rw [modify_cons, lookup_cons, lookup_cons]
    by_cases same : key head = k
    · simp [same, keeps head same]
    · simpa [same] using ih

theorem lookup_modify_other (keeps : ∀ r, key r = k → key (f r) = k) (different : k' ≠ k) :
    lookup key k' (modify key k f rows) = lookup key k' rows := by
  induction rows with
  | nil => rfl
  | cons head tail ih =>
    rw [modify_cons, lookup_cons, lookup_cons]
    by_cases same : key head = k
    · rw [if_pos same, if_neg (by rw [keeps head same]; exact Ne.symm different),
        if_neg (by rw [same]; exact Ne.symm different)]
      exact ih
    · rw [if_neg same]
      by_cases found : key head = k'
      · simp [found]
      · simpa [found] using ih

/-- Where the row of an updated table comes from. -/
theorem lookup_modify_cases (keeps : ∀ r, key r = k → key (f r) = k)
    (h : lookup key k' (modify key k f rows) = some r) :
    k' ≠ k ∧ lookup key k' rows = some r ∨ k' = k ∧ ∃ old, lookup key k rows = some old ∧ r = f old := by
  by_cases same : k' = k
  · subst same
    rw [lookup_modify_self keeps] at h
    obtain ⟨old, present, rfl⟩ := Option.map_eq_some_iff.mp h
    exact .inr ⟨rfl, old, present, rfl⟩
  · rw [lookup_modify_other keeps same] at h
    exact .inl ⟨same, h⟩

theorem filter_map_modify {p : α → Bool} {g : α → β} (chosen : ∀ r, key r = k → p (f r) = p r)
    (projected : ∀ r, key r = k → g (f r) = g r) :
    ((modify key k f rows).filter p).map g = (rows.filter p).map g := by
  induction rows with
  | nil => rfl
  | cons head tail ih =>
    rw [modify_cons, List.filter_cons, List.filter_cons]
    by_cases same : key head = k
    · rw [if_pos same, chosen head same]
      split
      · rw [List.map_cons, List.map_cons, projected head same, ih]
      · exact ih
    · rw [if_neg same]
      split
      · rw [List.map_cons, List.map_cons, ih]
      · exact ih

end

end Table
