import Mathlib.Data.List.Nodup
import Mathlib.Data.Set.Function
import SupplyChainHub.Library.Tables

/-!
Rows with a version column, and readings taken of them at different moments.

A reading says at which version it found which configuration. As long as a row changes its
configuration only together with a higher version, a version identifies one configuration, in whatever
order readings are taken and rows revised.
-/

namespace Versions

structure Reading (κ γ : Type*) where
  key : κ
  version : Nat
  config : γ

variable {κ γ : Type*} {rows later readings more : Set (Reading κ γ)}

/-- One row a key; every reading is of its row as it stands, or of an older version; and two readings of
a row at one version are the same. -/
structure Sound (rows readings : Set (Reading κ γ)) : Prop where
  single : Set.InjOn Reading.key rows
  past : ∀ r ∈ readings, ∃ row ∈ rows, row.key = r.key ∧ (r = row ∨ r.version < row.version)
  agree : Set.InjOn (fun r => (r.key, r.version)) readings

theorem Sound.start (single : Set.InjOn Reading.key rows) : Sound rows ∅ := by
  refine ⟨single, ?_, ?_⟩
  · intro r member
    exact absurd member (Set.notMem_empty r)
  · exact Set.injOn_empty _

theorem Sound.observe (sound : Sound rows readings) (taken : more ⊆ readings ∪ rows) : Sound rows more := by
  have current {r row : Reading κ γ} (read : r ∈ readings) (present : row ∈ rows)
      (same : (r.key, r.version) = (row.key, row.version)) : r = row := by
    obtain ⟨key, version⟩ := Prod.mk.inj same
    obtain ⟨other, found, named, rfl | older⟩ := sound.past r read
    · exact sound.single found present key
    · obtain rfl := sound.single found present (named.trans key)
      omega
  constructor
  · exact sound.single
  · intro r member
    rcases taken member with old | present
    · exact sound.past r old
    · exact ⟨r, present, rfl, .inl rfl⟩
  · intro r member s member' same
    rcases taken member with old | present
    · rcases taken member' with old' | present'
      · exact sound.agree old old' same
      · exact current old present' same
    · rcases taken member' with old' | present'
      · exact (current old' present same.symm).symm
      · exact sound.single present present' (Prod.mk.inj same).1

/-- Rows were added, or replaced by rows of a higher version. -/
def Revised (rows later : Set (Reading κ γ)) : Prop :=
  ∀ row ∈ rows, ∃ new ∈ later, new.key = row.key ∧ (row = new ∨ row.version < new.version)

theorem Sound.revise (sound : Sound rows readings) (revision : Revised rows later)
    (single : Set.InjOn Reading.key later) : Sound later readings := by
  refine ⟨single, ?_, sound.agree⟩
  intro r member
  obtain ⟨row, present, named, before⟩ := sound.past r member
  obtain ⟨new, present', named', raised⟩ := revision row present
  refine ⟨new, present', named'.trans named, ?_⟩
  rcases before with rfl | older
  · exact raised
  · rcases raised with rfl | raised
    · exact .inr older
    · exact .inr (older.trans raised)

theorem Revised.of_subset (kept : rows ⊆ later) : Revised rows later :=
  fun row present => ⟨row, kept present, rfl, .inl rfl⟩

/-! ### Tables -/

section
variable {α : Type*} {read : α → Reading κ γ} {table after : List α}

def taken (read : α → Reading κ γ) (table : List α) : Set (Reading κ γ) := {r | ∃ row ∈ table, read row = r}

def Distinct (read : α → Reading κ γ) (table : List α) : Prop := (table.map fun row => (read row).key).Nodup

theorem Distinct.single (distinct : Distinct read table) : Set.InjOn Reading.key (taken read table) := by
  rintro _ ⟨row, present, rfl⟩ _ ⟨other, present', rfl⟩ same
  exact congrArg read (List.inj_on_of_nodup_map distinct present present' same)

variable [DecidableEq κ]

/-- One write to a table with a unique key, which raises the version of what it changes. -/
inductive Write (read : α → Reading κ γ) (table : List α) : List α → Prop where
  | none : Write read table table
  | insert (row : α) (fresh : ∀ other ∈ table, (read other).key ≠ (read row).key) :
      Write read table (table ++ [row])
  | update (k : κ) (f : α → α) (keeps : ∀ row, (read row).key = k → (read (f row)).key = k)
      (raises : ∀ row ∈ table, (read row).key = k →
        read row = read (f row) ∨ (read row).version < (read (f row)).version) :
      Write read table (Table.modify (fun row => (read row).key) k f table)

theorem Write.distinct (write : Write read table after) (distinct : Distinct read table) :
    Distinct read after := by
  cases write with
  | none => exact distinct
  | insert row fresh =>
    rw [Distinct, List.map_append, List.map_singleton]
    apply List.Nodup.append distinct (List.nodup_singleton _)
    intro k present new
    obtain ⟨other, member, rfl⟩ := List.mem_map.mp present
    exact fresh other member (List.mem_singleton.mp new)
  | update k f keeps =>
    rw [Distinct, Table.modify_keys keeps]
    exact distinct

theorem Write.revises (write : Write read table after) : Revised (taken read table) (taken read after) := by
  cases write with
  | none => exact .of_subset subset_rfl
  | insert row =>
    apply Revised.of_subset
    rintro r ⟨old, present, rfl⟩
    exact ⟨old, List.mem_append_left _ present, rfl⟩
  | update k f keeps raises =>
    rintro _ ⟨row, present, rfl⟩
    have moved := List.mem_map_of_mem (f := fun r => if (read r).key = k then f r else r) present
    by_cases mine : (read row).key = k
    · rw [if_pos mine] at moved
      exact ⟨_, ⟨f row, moved, rfl⟩, (keeps row mine).trans mine.symm, raises row present mine⟩
    · rw [if_neg mine] at moved
      exact ⟨_, ⟨row, moved, rfl⟩, rfl, .inl rfl⟩

theorem Write.sound (write : Write read table after) (distinct : Distinct read table)
    (sound : Sound (taken read table) readings) : Sound (taken read after) readings :=
  sound.revise write.revises (write.distinct distinct).single

end

end Versions
