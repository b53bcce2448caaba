import Mathlib.Data.List.Basic

/-!
A reader of delimited text, line by line: quoted fields with doubled quotes, a field that may run over several
lines, and no row for a line that holds nothing.
-/

namespace Csv

structure Dialect where
  delimiter : Char := ','
  quotechar : Char := '"'
  fieldSizeLimit : Nat := 131072

inductive Error where
  | fieldSizeLimit
  | newLineInUnquotedField
  deriving DecidableEq

inductive State where
  | startRecord | startField | inField | inQuotedField | quoteInQuotedField | eatCrnl
  deriving DecidableEq

/-- The reader within a row. -/
structure Reader where
  state : State := .startRecord
  field : List Char := []
  fields : List String := []
  deriving DecidableEq

/-- A row and the number of the line it ended on. -/
structure Row where
  fields : List String
  lineNum : Nat
  deriving DecidableEq

/-- What a reader yields until the text ends or it fails. -/
structure Rows where
  rows : List Row := []
  failed : Option Error := none
  deriving DecidableEq

abbrev Line := List Char

def isBreak (c : Char) : Bool := c = '\n' || c = '\r'

/-- Lines with their ends; text after the last line feed is a line as well. -/
def lines : List Char → List Line
  | [] => []
  | c :: rest =>
    if c = '\n' then [c] :: lines rest
    else
      match lines rest with
      | [] => [[c]]
      | line :: more => (c :: line) :: more

namespace Reader

def saveField (r : Reader) : Reader := { r with fields := r.fields ++ [String.ofList r.field], field := [] }

def addChar (d : Dialect) (r : Reader) (c : Char) (state : State) : Except Error Reader :=
  if d.fieldSizeLimit ≤ r.field.length then .error .fieldSizeLimit
  else .ok { r with field := r.field ++ [c], state }

/-- The end of a field and of the row: at a line break, or where the line ends without one. -/
def endRow (r : Reader) (c : Option Char) : Reader :=
  { r.saveField with state := if c.isNone then .startRecord else .eatCrnl }

/-- A character that begins a field. -/
def beginField (d : Dialect) (r : Reader) (c : Char) : Except Error Reader :=
  if isBreak c then .ok (r.endRow (some c))
  else if c = d.quotechar then .ok { r with state := .inQuotedField }
  else if c = d.delimiter then .ok { r.saveField with state := .startField }
  else r.addChar d c .inField

/-- The next character of a line, or its end. -/
def process (d : Dialect) (r : Reader) (c : Option Char) : Except Error Reader :=
  match r.state, c with
  | .startRecord, none => .ok r
  | .startRecord, some c => if isBreak c then .ok { r with state := .eatCrnl } else r.beginField d c
  | .startField, none | .inField, none | .quoteInQuotedField, none => .ok (r.endRow none)
  | .startField, some c => r.beginField d c
  | .inField, some c =>
    if isBreak c then .ok (r.endRow (some c))
    else if c = d.delimiter then .ok { r.saveField with state := .startField }
    else r.addChar d c .inField
  | .inQuotedField, none => .ok r
  | .inQuotedField, some c =>
    if c = d.quotechar then .ok { r with state := .quoteInQuotedField } else r.addChar d c .inQuotedField
  | .quoteInQuotedField, some c =>
    if c = d.quotechar then r.addChar d c .inQuotedField
    else if c = d.delimiter then .ok { r.saveField with state := .startField }
    else if isBreak c then .ok (r.endRow (some c))
    else r.addChar d c .inField
  | .eatCrnl, none => .ok { r with state := .startRecord }
  | .eatCrnl, some c => if isBreak c then .ok r else .error .newLineInUnquotedField

def readLine (d : Dialect) (r : Reader) : Line → Except Error Reader
  | [] => r.process d none
  | c :: rest =>
    match r.process d (some c) with
    | .error e => .error e
    | .ok next => next.readLine d rest

/-- The rows of the lines after the first `lineNum`. A row that is still open in a quoted field goes on in the
next line, and ends with the text at the latest. -/
def rows (d : Dialect) (lineNum : Nat) (r : Reader) : List Line → Rows
  | [] => if r.field ≠ [] ∨ r.state = .inQuotedField then { rows := [⟨r.saveField.fields, lineNum⟩] } else {}
  | line :: rest =>
    match r.readLine d line with
    | .error e => { failed := some e }
    | .ok next =>
      if next.state = .startRecord then
        let later := rows d (lineNum + 1) {} rest
        { later with rows := ⟨next.fields, lineNum + 1⟩ :: later.rows }
      else rows d (lineNum + 1) next rest

/-- Some field of the row has begun. -/
def Begun (r : Reader) : Prop := (r.state ≠ .startRecord ∧ r.state ≠ .eatCrnl) ∨ r.fields ≠ []

end Reader

def read (d : Dialect) (text : List Char) : Rows := Reader.rows d 0 {} (lines text)

/-- A line with nothing on it. -/
def Blank (line : Line) : Prop := ∀ c ∈ line, isBreak c = true

instance : DecidablePred Blank := fun line => List.decidableBAll (fun c => isBreak c = true) line

/-- A row that begins with the line does not go on in the next. -/
def closes (d : Dialect) (line : Line) : Bool :=
  match Reader.readLine d {} line with
  | .ok r => r.state = .startRecord
  | .error _ => true

/-- No line break stands in a quoted field. -/
def Unbroken (d : Dialect) (ls : List Line) : Prop := ∀ line ∈ ls.dropLast, closes d line = true

instance (d : Dialect) (ls : List Line) : Decidable (Unbroken d ls) :=
  inferInstanceAs (Decidable (∀ line ∈ ls.dropLast, closes d line = true))

section
variable {d : Dialect} {r next : Reader} {c : Char} {state : State} {line : Line} {ls : List Line} {n : Nat}

theorem saveField_fields (r : Reader) : r.saveField.fields ≠ [] := List.append_ne_nil_of_right_ne_nil _ (by simp)

theorem addChar_begun (active : state ≠ .startRecord ∧ state ≠ .eatCrnl) (h : r.addChar d c state = .ok next) :
    next.Begun := by
  unfold Reader.addChar at h
  split at h
  · contradiction
  · cases h
    exact .inl active

theorem beginField_begun (h : r.beginField d c = .ok next) : next.Begun := by
  unfold Reader.beginField at h
  split at h
  · cases h
    exact .inr (saveField_fields r)
  split at h
  · cases h
    exact .inl ⟨State.noConfusion, State.noConfusion⟩
  split at h
  · cases h
    exact .inr (saveField_fields r)
  · exact addChar_begun ⟨State.noConfusion, State.noConfusion⟩ h

theorem process_begun (begun : r.Begun) (h : r.process d (some c) = .ok next) : next.Begun := by
  unfold Reader.process at h
  split at h
  all_goals try contradiction
  · rename_i start same
    obtain rfl := Option.some.inj same
    split at h
    · cases h
      rcases begun with ⟨other, -⟩ | fields
      · exact absurd start other
      · exact .inr fields
    · exact beginField_begun h
  · rename_i same
    obtain rfl := Option.some.inj same
    exact beginField_begun h
  · split at h
    · cases h
      exact .inr (saveField_fields r)
    split at h
    · cases h
      exact .inr (saveField_fields r)
    · exact addChar_begun ⟨State.noConfusion, State.noConfusion⟩ h
  · split at h
    · cases h
      exact .inl ⟨State.noConfusion, State.noConfusion⟩
    · exact addChar_begun ⟨State.noConfusion, State.noConfusion⟩ h
  · split at h
    · exact addChar_begun ⟨State.noConfusion, State.noConfusion⟩ h
    split at h
    · cases h
      exact .inr (saveField_fields r)
    split at h
    · cases h
      exact .inr (saveField_fields r)
    · exact addChar_begun ⟨State.noConfusion, State.noConfusion⟩ h
  · split at h
    · cases h
      exact begun
    · contradiction

/-- The end of a line ends a row that has begun with a field, unless a quoted field is open. -/
theorem process_end (begun : r.Begun) (h : r.process d none = .ok next) (ended : next.state = .startRecord) :
    next.fields ≠ [] := by
  unfold Reader.process at h
  split at h
  all_goals try contradiction
  · rename_i start _
    cases h
    rcases begun with ⟨other, -⟩ | fields
    · exact absurd start other
    · exact fields
  · cases h
    exact saveField_fields r
  · cases h
    exact saveField_fields r
  · cases h
    exact saveField_fields r
  · rename_i quoted _
    cases h
    rw [quoted] at ended
    contradiction
  · rename_i eaten _
    cases h
    rcases begun with ⟨-, other⟩ | fields
    · exact absurd eaten other
    · exact fields

theorem readLine_begun (begun : r.Begun) (h : r.readLine d line = .ok next) (ended : next.state = .startRecord) :
    next.fields ≠ [] := by
  induction line generalizing r with
  | nil => exact process_end begun h ended
  | cons c rest ih =>
    rw [Reader.readLine] at h
    split at h
    · contradiction
    · rename_i step
      exact ih (process_begun begun step) h

/-- After a line break only line breaks may come. -/
theorem readLine_eat : ({ state := .eatCrnl } : Reader).readLine d line = .ok next ↔ Blank line ∧ next = {} := by
  induction line with
  | nil =>
    have ended : ({ state := .eatCrnl } : Reader).readLine d [] = .ok {} := rfl
    rw [ended, Except.ok.injEq]
    exact ⟨fun same => ⟨fun _ member => absurd member List.not_mem_nil, same.symm⟩, fun both => both.2.symm⟩
  | cons c rest ih =>
    rw [Reader.readLine]
    by_cases break_ : isBreak c = true
    · have step : ({ state := .eatCrnl } : Reader).process d (some c) = .ok { state := .eatCrnl } := if_pos break_
      rw [step]
      dsimp only
      rw [ih]
      simp [Blank, break_]
    · have step : ({ state := .eatCrnl } : Reader).process d (some c) = .error .newLineInUnquotedField := if_neg break_
      rw [step]
      simp [Blank, break_]

theorem readLine_blank (blank : Blank line) : ({} : Reader).readLine d line = .ok {} := by
  cases line with
  | nil => rfl
  | cons c rest =>
    have step : ({} : Reader).process d (some c) = .ok { state := .eatCrnl } :=
      if_pos (blank c List.mem_cons_self)
    rw [Reader.readLine, step]
    exact readLine_eat.mpr ⟨fun x member => blank x (List.mem_cons_of_mem _ member), rfl⟩

/-- A line gives an empty row just when there is nothing on it. -/
theorem readLine_fields (h : ({} : Reader).readLine d line = .ok next) (ended : next.state = .startRecord) :
    next.fields = [] ↔ Blank line := by
  constructor
  · intro empty
    by_contra filled
    cases line with
    | nil => exact filled fun _ member => absurd member List.not_mem_nil
    | cons c rest =>
      rw [Reader.readLine] at h
      by_cases break_ : isBreak c = true
      · have step : ({} : Reader).process d (some c) = .ok { state := .eatCrnl } := if_pos break_
        rw [step] at h
        have blank := (readLine_eat.mp h).1
        apply filled
        intro x member
        rcases List.mem_cons.mp member with rfl | later
        · exact break_
        · exact blank x later
      · have step : ({} : Reader).process d (some c) = ({} : Reader).beginField d c := if_neg break_
        rw [step] at h
        split at h
        · contradiction
        · rename_i begins
          exact readLine_begun (beginField_begun begins) h ended empty
  · intro blank
    rw [readLine_blank blank] at h
    cases h
    rfl

theorem readLine_state (h : r.readLine d line = .ok next) :
    next.state = .startRecord ∨ next.state = .inQuotedField := by
  induction line generalizing r with
  | nil =>
    unfold Reader.readLine Reader.process at h
    split at h
    all_goals try contradiction
    · rename_i start _
      exact .inl (Except.ok.inj h ▸ start)
    · exact .inl (Except.ok.inj h ▸ rfl)
    · exact .inl (Except.ok.inj h ▸ rfl)
    · exact .inl (Except.ok.inj h ▸ rfl)
    · rename_i quoted _
      exact .inr (Except.ok.inj h ▸ quoted)
    · exact .inl (Except.ok.inj h ▸ rfl)
  | cons c rest ih =>
    rw [Reader.readLine] at h
    split at h
    · contradiction
    · exact ih h

/-- The row of a text's last line, which may leave a quoted field open. -/
theorem rows_last (sound : (Reader.rows d n {} [line]).failed = none) :
    ∃ row, (Reader.rows d n {} [line]).rows = [row] ∧ row.lineNum = n + 1 ∧ (row.fields = [] ↔ Blank line) := by
  rw [Reader.rows] at sound ⊢
  cases read : ({} : Reader).readLine d line with
  | error e =>
    rw [read] at sound
    contradiction
  | ok next =>
    rcases readLine_state read with ended | quoted
    · simp only [ended, if_true]
      exact ⟨⟨next.fields, n + 1⟩, rfl, rfl, readLine_fields read ended⟩
    · have unended : ¬ next.state = .startRecord := by
        rw [quoted]
        exact State.noConfusion
      simp only [unended, if_false]
      rw [Reader.rows, if_pos (.inr quoted)]
      refine ⟨⟨next.saveField.fields, n + 1⟩, rfl, rfl, ?_⟩
      refine iff_of_false (saveField_fields next) fun blank => ?_
      rw [readLine_blank blank] at read
      cases read
      contradiction

/-- Where no quoted field goes on in the next line, every line is a row, and an empty one if it is blank. -/
theorem rows_unbroken (unbroken : Unbroken d ls) (sound : (Reader.rows d n {} ls).failed = none) :
    List.Forall₂ (fun (line : Line × Nat) (row : Row) => row.lineNum = line.2 ∧ (row.fields = [] ↔ Blank line.1))
      (ls.zipIdx (n + 1)) (Reader.rows d n {} ls).rows := by
  induction ls generalizing n with
  | nil => exact .nil
  | cons line rest ih =>
    cases rest with
    | nil =>
      obtain ⟨row, single, number, empty⟩ := rows_last sound
      rw [single]
      exact .cons ⟨number, empty⟩ .nil
    | cons second more =>
      rw [Reader.rows] at sound ⊢
      cases read : ({} : Reader).readLine d line with
      | error e =>
        rw [read] at sound
        contradiction
      | ok next =>
        have ended := unbroken line List.mem_cons_self
        rw [closes, read, decide_eq_true_eq] at ended
        rw [read] at sound
        simp only [ended, if_true] at sound ⊢
        exact .cons ⟨rfl, readLine_fields read ended⟩
          (ih (fun other member => unbroken other (List.mem_cons_of_mem _ member)) sound)

end

end Csv
