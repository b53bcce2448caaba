import Mathlib.Data.List.AList

/-!
Writes to a finite map, one after the other. A writer that stops early has made the first of them.
-/

abbrev Bucket (κ ν : Type*) := AList fun _ : κ => ν

namespace Bucket

variable {κ ν : Type*} [DecidableEq κ]

def puts (objects : Bucket κ ν) (writes : List (κ × ν)) : Bucket κ ν :=
  writes.foldl (fun objects write => objects.insert write.1 write.2) objects

section
variable {objects : Bucket κ ν} {writes later : List (κ × ν)} {key : κ} {value : ν}

theorem puts_append (before : List (κ × ν)) : puts objects (before ++ later) = puts (puts objects before) later := by
  simp [puts]

@[simp] theorem mem_puts : key ∈ puts objects writes ↔ key ∈ objects ∨ key ∈ writes.map Prod.fst := by
  induction writes generalizing objects with
  | nil => simp [puts]
  | cons write rest ih =>
    show key ∈ puts (objects.insert write.1 write.2) rest ↔ _
    rw [ih, AList.mem_insert, List.map_cons, List.mem_cons]
    tauto

theorem lookup_puts_other (elsewhere : key ∉ writes.map Prod.fst) :
    (puts objects writes).lookup key = objects.lookup key := by
  induction writes generalizing objects with
  | nil => rfl
  | cons write rest ih =>
    rw [List.map_cons, List.mem_cons, not_or] at elsewhere
    show (puts (objects.insert write.1 write.2) rest).lookup key = _
    rw [ih elsewhere.2, AList.lookup_insert_ne elsewhere.1]

/-- The last write of a key is what it holds. -/
theorem lookup_puts_last (before : List (κ × ν)) (elsewhere : key ∉ later.map Prod.fst) :
    (puts objects (before ++ (key, value) :: later)).lookup key = some value := by
  rw [puts_append]
  show (puts ((puts objects before).insert key value) later).lookup key = some value
  rw [lookup_puts_other elsewhere, AList.lookup_insert]

end

end Bucket
