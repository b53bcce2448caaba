import Mathlib.Algebra.Group.Nat.Defs
import Mathlib.Data.List.Basic

/-!
Tables with typed columns, and the statements of a transaction. The server refuses a value that its column
cannot hold before it looks at any constraint, and what it refuses ends the transaction.
-/

namespace Storage

inductive ColumnType where
  /-- Text of up to so many characters. No text has a NUL in it. -/
  | varchar (length : Nat)
  | numeric (precision scale : Nat)
  | integer (bits : Nat)
  /-- A type that holds every value the driver sends to it. -/
  | unbounded
  deriving DecidableEq

inductive Value where
  | null
  | text (s : String)
  /-- `unscaled` in units of `10 ^ -scale`. -/
  | decimal (unscaled : Int) (scale : Nat)
  | natural (n : Nat)
  | other

/-- Text that a `varchar` of the length takes. -/
def Fits (length : Nat) (s : String) : Prop := s.length ≤ length ∧ s.toList.contains (Char.ofNat 0) = false

instance (length : Nat) (s : String) : Decidable (Fits length s) := inferInstanceAs (Decidable (_ ∧ _))

theorem Fits.mono {narrow wide : Nat} {s : String} (fits : Fits narrow s) (wider : narrow ≤ wide) : Fits wide s :=
  ⟨Nat.le_trans fits.1 wider, fits.2⟩

theorem Fits.append {m n : Nat} {s t : String} (first : Fits m s) (second : Fits n t) : Fits (m + n) (s ++ t) := by
  constructor
  · rw [String.length_append]
    exact Nat.add_le_add first.1 second.1
  · rw [String.toList_append, List.contains_append, first.2, second.2]
    rfl

theorem fits_ofList {cs : List Char} (plain : ∀ c ∈ cs, c ≠ Char.ofNat 0) : Fits cs.length (String.ofList cs) := by
  constructor
  · exact Nat.le_of_eq String.length_ofList
  · rw [String.toList_ofList, ← Bool.not_eq_true, List.contains_iff_mem]
    exact fun member => plain _ member rfl

namespace ColumnType

def holds : ColumnType → Value → Bool
  | _, .null => true
  | .varchar length, .text s => s.length ≤ length && !s.toList.contains (Char.ofNat 0)
  | .numeric precision scale, .decimal unscaled places =>
    places ≤ scale && unscaled.natAbs * 10 ^ (scale - places) < 10 ^ precision
  | .integer bits, .natural n => n < 2 ^ (bits - 1)
  | .unbounded, .other => true
  | _, _ => false

@[simp] theorem holds_null (type : ColumnType) : type.holds .null = true := by
  cases type <;> rfl

@[simp] theorem holds_other : unbounded.holds .other = true := rfl

@[simp] theorem holds_natural {bits n : Nat} :
    (integer bits).holds (.natural n) = decide (n < 2 ^ (bits - 1)) := rfl

theorem varchar_holds {length : Nat} {s : String} : (varchar length).holds (.text s) = true ↔ Fits length s := by
  simp [holds, Fits]

end ColumnType

structure Column where
  name : String
  type : ColumnType

abbrev Table := List Column

/-- The values that a statement writes, by column. -/
abbrev Row := List (String × Value)

def Table.holds (table : Table) (row : Row) : Bool :=
  row.all fun entry => (table.find? fun c => c.name = entry.1).any fun c => c.type.holds entry.2

@[simp] theorem holds_nil (table : Table) : table.holds [] = true := rfl

@[simp] theorem holds_cons (table : Table) (name : String) (value : Value) (row : Row) :
    table.holds ((name, value) :: row) =
      ((table.find? fun c => c.name = name).any (fun c => c.type.holds value) && table.holds row) := rfl

/-- An INSERT or an UPDATE; `violates` is whether a constraint refuses the row. -/
structure Statement where
  table : Table
  row : Row
  violates : Bool := false

inductive Refusal where
  | value
  | constraint
  deriving DecidableEq

def Statement.run (s : Statement) : Option Refusal :=
  if s.table.holds s.row then if s.violates then some .constraint else none else some .value

/-- What stops the statements, if something does. -/
def flush : List Statement → Option Refusal
  | [] => none
  | s :: rest =>
    match s.run with
    | none => flush rest
    | some refusal => some refusal

variable {s : Statement} {rest : List Statement}

theorem flush_of_holds (held : ∀ s ∈ rest, s.table.holds s.row = true) : flush rest ≠ some .value := by
  induction rest with
  | nil => exact nofun
  | cons s rest ih =>
    have first := held s List.mem_cons_self
    have later := ih fun s member => held s (List.mem_cons_of_mem _ member)
    unfold flush Statement.run
    rw [if_pos first]
    cases s.violates with
    | true => exact nofun
    | false => exact later

/-- Where the later rows fit their tables, the first decides whether a value is refused. -/
theorem flush_value_iff (held : ∀ s ∈ rest, s.table.holds s.row = true) :
    flush (s :: rest) = some .value ↔ s.table.holds s.row = false := by
  have later := flush_of_holds held
  unfold flush Statement.run
  cases fits : s.table.holds s.row with
  | false => simp
  | true => cases s.violates <;> simp [later]

theorem flush_none (held : ∀ s ∈ rest, s.table.holds s.row = true ∧ s.violates = false) : flush rest = none := by
  induction rest with
  | nil => rfl
  | cons s rest ih =>
    obtain ⟨fits, free⟩ := held s List.mem_cons_self
    unfold flush Statement.run
    rw [fits, free]
    exact ih fun s member => held s (List.mem_cons_of_mem _ member)

theorem held_of_flush {statements : List Statement} (passed : flush statements = none) :
    ∀ s ∈ statements, s.table.holds s.row = true ∧ s.violates = false := by
  induction statements with
  | nil => exact nofun
  | cons s rest ih =>
    unfold flush at passed
    cases ended : s.run with
    | some refusal =>
      rw [ended] at passed
      cases passed
    | none =>
      rw [ended] at passed
      refine List.forall_mem_cons.mpr ⟨?_, ih passed⟩
      unfold Statement.run at ended
      split at ended
      · rename_i fits
        split at ended
        · cases ended
        · rename_i free
          exact ⟨fits, eq_false_of_ne_true free⟩
      · cases ended

end Storage
