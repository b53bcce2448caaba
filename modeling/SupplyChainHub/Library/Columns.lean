import Mathlib.Data.Option.Basic

/-!
Write-back of a row by column.

A session loads a row, changes some of its fields in memory and writes back the columns whose
value differs from the one it loaded. A column it left equal is not in the statement, so whatever
the row holds by then stays.
-/

namespace Columns

variable {α : Type*} [DecidableEq α]

/-- One column of the write-back: `new` over `current`, unless `new` is what was loaded. -/
def writeBack (loaded new current : α) : α := if new = loaded then current else new

@[simp] theorem writeBack_clean (loaded current : α) : writeBack loaded loaded current = current := by
  simp [writeBack]

@[simp] theorem writeBack_fresh (loaded new : α) : writeBack loaded new loaded = new := by
  unfold writeBack
  split
  · rename_i same
    exact same.symm
  · rfl

theorem writeBack_dirty {loaded new : α} (changed : new ≠ loaded) (current : α) :
    writeBack loaded new current = new := if_neg changed

/-- A column whose in-memory value is of another type: `stored` is what the column makes of `new`,
and `new` is compared with the loaded value as the program reads it. -/
def writeAs {β : Type*} (read : β → α) (loaded : β) (new : α) (stored current : β) : β :=
  if new = read loaded then current else stored

theorem writeAs_fresh {β : Type*} {read : β → α} {loaded stored : β} {new : α}
    (kept : new = read loaded → stored = loaded) :
    writeAs read loaded new stored loaded = stored := by
  unfold writeAs
  split
  · rename_i same
    exact (kept same).symm
  · rfl

end Columns
