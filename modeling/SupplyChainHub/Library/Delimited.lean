import Mathlib.Data.List.Basic

/-!
Plain delimited text: lines of cells, no cell with a separator or the end of a line in it. What is written is read
back.
-/

namespace Delimited

section
variable {α : Type*} (separator carriageReturn feed : α)

def line (cells : List (List α)) : List α := [separator].intercalate cells ++ [carriageReturn, feed]

def write (lines : List (List (List α))) : List α := lines.flatMap (line separator carriageReturn feed)

variable {separator carriageReturn feed}

theorem mem_intercalate {c : α} {cells : List (List α)} (member : c ∈ [separator].intercalate cells) :
    c = separator ∨ ∃ cell ∈ cells, c ∈ cell := by
  induction cells with
  | nil => cases member
  | cons cell rest ih =>
    cases rest with
    | nil => exact .inr ⟨cell, .head _, by simpa [List.intercalate] using member⟩
    | cons next rest =>
      rw [List.intercalate_cons_cons, List.mem_append, List.mem_append, List.mem_singleton] at member
      rcases member with (here | same) | later
      · exact .inr ⟨cell, .head _, here⟩
      · exact .inl same
      · refine (ih later).imp id ?_
        rintro ⟨other, listed, here⟩
        exact ⟨other, .tail _ listed, here⟩

theorem write_intercalate (lines : List (List (List α))) : write separator carriageReturn feed lines =
    [feed].intercalate (lines.map (fun cells => [separator].intercalate cells ++ [carriageReturn]) ++ [[]]) := by
  induction lines with
  | nil => rfl
  | cons cells rest ih =>
    have more : rest.map (fun cells => [separator].intercalate cells ++ [carriageReturn]) ++ [[]] ≠ [] := by simp
    unfold write at ih ⊢
    rw [List.flatMap_cons, ih, List.map_cons, List.cons_append, List.intercalate_cons_of_ne_nil more, line]
    simp only [List.append_assoc, List.cons_append, List.nil_append]

end

section
variable {α : Type*} [DecidableEq α] (separator carriageReturn feed : α)

def readLine (line : List α) : Option (List (List α)) :=
  if line.getLast? = some carriageReturn then some (line.dropLast.splitOn separator) else none

/-- Every line has its end, the last one as well. -/
def read (text : List α) : Option (List (List (List α))) :=
  let lines := text.splitOn feed
  if lines.getLast? = some [] then lines.dropLast.mapM (readLine separator carriageReturn) else none

variable {separator carriageReturn feed}

theorem readLine_cells {cells : List (List α)} (filled : cells ≠ []) (plain : ∀ cell ∈ cells, separator ∉ cell) :
    readLine separator carriageReturn ([separator].intercalate cells ++ [carriageReturn]) = some cells := by
  unfold readLine
  rw [List.getLast?_concat, if_pos rfl, List.dropLast_concat, List.splitOn_intercalate separator plain filled]

theorem read_write {lines : List (List (List α))} (apart : separator ≠ feed ∧ carriageReturn ≠ feed)
    (plain : ∀ cells ∈ lines, cells ≠ [] ∧ ∀ cell ∈ cells, separator ∉ cell ∧ feed ∉ cell) :
    read separator carriageReturn feed (write separator carriageReturn feed lines) = some lines := by
  have whole : ∀ text ∈ lines.map (fun cells => [separator].intercalate cells ++ [carriageReturn]) ++ [[]],
      feed ∉ text := by
    intro text member inside
    rcases List.mem_append.mp member with written | last
    · obtain ⟨cells, listed, rfl⟩ := List.mem_map.mp written
      rcases List.mem_append.mp inside with within | ending
      · rcases mem_intercalate within with same | ⟨cell, here, found⟩
        · exact apart.1 same.symm
        · exact ((plain cells listed).2 cell here).2 found
      · exact apart.2 (List.mem_singleton.mp ending).symm
    · rw [List.mem_singleton.mp last] at inside
      cases inside
  have split := List.splitOn_intercalate feed whole (by simp)
  have each : ∀ cells ∈ lines,
      readLine separator carriageReturn ([separator].intercalate cells ++ [carriageReturn]) = some cells :=
    fun cells listed => readLine_cells (plain cells listed).1 fun cell here => ((plain cells listed).2 cell here).1
  unfold read
  dsimp only
  rw [write_intercalate, split, List.getLast?_concat, if_pos rfl, List.dropLast_concat]
  clear split whole
  induction lines with
  | nil => rfl
  | cons cells rest ih =>
    obtain ⟨first, others⟩ := List.forall_mem_cons.mp each
    rw [List.map_cons, List.mapM_cons, first, ih (fun cells listed => plain cells (.tail _ listed)) others]
    rfl

end

end Delimited
