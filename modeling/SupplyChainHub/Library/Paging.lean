import Mathlib.Data.List.Sort

/-!
Reading a listing page after page, by an offset and a limit, while rows may be added to it. A row that is added
moves those behind it to the back, so what has not been read yet is never before the next offset.
-/

namespace Paging

variable {α β κ : Type*}

/-- `OFFSET` and `LIMIT` -/
def page (rows : List α) (offset limit : Nat) : List α := (rows.drop offset).take limit

/-- What a reader has that asks for one page after the other until one comes short. -/
def read (limit : Nat) : Nat → List (Nat → Nat → List α) → Option (List α)
  | _, [] => none
  | offset, ask :: later =>
    if (ask offset limit).length < limit then some (ask offset limit)
    else (read limit (offset + limit) later).map (ask offset limit ++ ·)

section
variable {rows : List α} {offset limit : Nat} {got : List α} {listings : List (List α)}

/-- A page that comes short is all that is left. -/
theorem page_short (short : (page rows offset limit).length < limit) : page rows offset limit = rows.drop offset := by
  unfold page at short ⊢
  rw [List.length_take] at short
  exact List.take_of_length_le (by omega)

theorem page_full (full : ¬ (page rows offset limit).length < limit) (positive : 0 < limit) :
    offset + limit ≤ rows.length := by
  unfold page at full
  rw [List.length_take, List.length_drop] at full
  omega

theorem page_append_drop (rows : List α) (offset limit : Nat) :
    page rows offset limit ++ rows.drop (offset + limit) = rows.drop offset := by
  rw [page, ← List.drop_drop, List.take_append_drop]

/-- A reader that asks often enough for what the listing grows to comes to an end. -/
theorem read_ends (positive : 0 < limit) (asked : listings ≠ [])
    (enough : ∀ rows ∈ listings, rows.length < offset + listings.length * limit) :
    ∃ got, read limit offset (listings.map page) = some got := by
  induction listings generalizing offset with
  | nil => contradiction
  | cons rows rest ih =>
    rw [List.map_cons, read]
    split
    · exact ⟨_, rfl⟩
    · rename_i full
      have reach := page_full full positive
      have bound := enough rows List.mem_cons_self
      have more : rest ≠ [] := by
        rintro rfl
        simp at bound
        omega
      have ends : ∀ rows ∈ rest, rows.length < offset + limit + rest.length * limit := by
        intro later member
        have bound := enough later (List.mem_cons_of_mem _ member)
        rw [List.length_cons, Nat.succ_mul] at bound
        omega
      obtain ⟨got, later⟩ := ih more ends
      exact ⟨_, by rw [later, Option.map_some]⟩

/-- Nothing that is behind the offset is missed while the listing grows. -/
theorem read_complete {g : α → β} (grows : (rows :: listings).IsChain fun before after =>
      (before.map g).Sublist (after.map g))
    (ended : read limit offset ((rows :: listings).map page) = some got) :
    ∀ x ∈ rows.drop offset, g x ∈ got.map g := by
  induction listings generalizing rows offset got with
  | nil =>
    rw [List.map_singleton, read] at ended
    split at ended
    · rename_i short
      obtain rfl := Option.some.inj ended
      rw [page_short short]
      exact fun x member => List.mem_map_of_mem member
    · cases ended
  | cons next rest ih =>
    obtain ⟨step, chain⟩ := List.isChain_cons_cons.mp grows
    rw [List.map_cons, read] at ended
    split at ended
    · rename_i short
      obtain rfl := Option.some.inj ended
      rw [page_short short]
      exact fun x member => List.mem_map_of_mem member
    · obtain ⟨others, later, rfl⟩ := Option.map_eq_some_iff.mp ended
      have behind := ih chain later
      intro x member
      rw [← page_append_drop rows offset limit] at member
      rw [List.map_append, List.mem_append]
      rcases List.mem_append.mp member with here | after
      · exact .inl (List.mem_map_of_mem here)
      · -- an offset is as far in the grown listing, where there can only be more in front
        have moved : ((rows.drop (offset + limit)).map g).Sublist ((next.drop (offset + limit)).map g) := by
          rw [List.map_drop, List.map_drop]
          exact step.drop _
        obtain ⟨y, there, same⟩ := List.mem_map.mp (moved.subset (List.mem_map_of_mem after))
        exact .inr (same ▸ behind y there)

end

/-! ### The order of a listing -/

section
variable (le : κ → κ → Prop) [DecidableRel le] (key : α → κ)

/-- `ORDER BY` -/
def ordered (rows : List α) : List α := rows.insertionSort fun x y => le (key x) (key y)

variable {le key} {rows later : List α}

theorem mem_ordered {x : α} : x ∈ ordered le key rows ↔ x ∈ rows := List.mem_insertionSort _

theorem length_ordered : (ordered le key rows).length = rows.length := List.length_insertionSort _ rows

theorem ordered_keys_perm : ((ordered le key rows).map key).Perm (rows.map key) :=
  (List.perm_insertionSort _ rows).map key

theorem ordered_of_sorted (sorted : (rows.map key).Pairwise le) : ordered le key rows = rows :=
  (List.pairwise_map.mp sorted).insertionSort_eq

variable [Std.Total le] [IsTrans κ le]

theorem ordered_sorted : ((ordered le key rows).map key).Pairwise le := by
  have total : Std.Total fun x y : α => le (key x) (key y) := ⟨fun x y => Std.Total.total (key x) (key y)⟩
  have trans : IsTrans α fun x y => le (key x) (key y) := ⟨fun x y z => IsTrans.trans (key x) (key y) (key z)⟩
  exact List.pairwise_map.mpr (List.pairwise_insertionSort _ rows)

/-- Where no two rows have one key, the keys of more rows are those of the rows with others among them. -/
theorem ordered_grows [Std.Antisymm le] (distinct : (rows.map key).Nodup) (grown : rows.map key ⊆ later.map key) :
    ((ordered le key rows).map key).Sublist ((ordered le key later).map key) := by
  have among : ((ordered le key rows).map key).Subperm ((ordered le key later).map key) := by
    refine (List.subperm_of_subset (ordered_keys_perm.nodup_iff.mpr distinct) ?_)
    exact fun k member => ordered_keys_perm.mem_iff.mpr (grown (ordered_keys_perm.mem_iff.mp member))
  exact List.sublist_of_subperm_of_pairwise among ordered_sorted ordered_sorted

end

end Paging
