import Mathlib.Data.Rat.Floor
import Mathlib.Tactic.Ring
import Mathlib.Tactic.Linarith
import Mathlib.Tactic.FieldSimp
import SupplyChainHub.Library.Trimming

/-!
Enumerations of `domain/enums.py`, moments in time, the strings a request may carry, and the decimal
numbers of the program as it computes with them and as a `Numeric(18, 3)` column keeps them.
-/

namespace SupplyChainHub

/-- UUID primary keys. Only their identity matters. -/
abbrev Id := Nat

/-- The largest value of an `Integer` column. -/
def integerMax : Nat := 2147483647

/-- Microseconds of UTC. -/
abbrev Timestamp := Nat

def seconds (n : Nat) : Timestamp := n * 1000000

/-- A time a partner reports, in microseconds of UTC as well: it may lie before 1970. -/
abbrev Moment := Int

def padded (width n : Nat) : String :=
  String.ofList (List.replicate (width - n.repr.length) '0') ++ n.repr

/-- `.date().isoformat()`, by the days of the Gregorian calendar counted from 1 March of year 0. -/
def isoDate (t : Timestamp) : String :=
  let day := t / (86400 * 1000000) + 719468
  let era := day / 146097
  let dayOfEra := day % 146097
  let yearOfEra := (dayOfEra - dayOfEra / 1460 + dayOfEra / 36524 - dayOfEra / 146096) / 365
  let dayOfYear := dayOfEra - (365 * yearOfEra + yearOfEra / 4 - yearOfEra / 100)
  let month := (5 * dayOfYear + 2) / 153
  let dayOfMonth := dayOfYear - (153 * month + 2) / 5 + 1
  let year := yearOfEra + era * 400 + if month < 10 then 0 else 1
  let month := if month < 10 then month + 3 else month - 9
  padded 4 year ++ "-" ++ padded 2 month ++ "-" ++ padded 2 dayOfMonth

example : isoDate (seconds 1785250800) = "2026-07-28" := by decide

inductive UnitOfMeasure where
  | each | case | pallet | kilogram
  deriving DecidableEq

def UnitOfMeasure.value : UnitOfMeasure → String
  | .each => "EACH"
  | .case => "CASE"
  | .pallet => "PALLET"
  | .kilogram => "KILOGRAM"

inductive ImportStatus where
  | queued | processing | completed | completedWithErrors | failed
  deriving DecidableEq

/-- The statuses at which `stream_import_events` stops. -/
def ImportStatus.terminal : ImportStatus → Bool
  | .completed | .completedWithErrors | .failed => true
  | .queued | .processing => false

inductive ImportAttemptStatus where
  | running | succeeded | retryScheduled | failed | abandoned
  deriving DecidableEq

inductive ImportSourceType where
  | supplierAJson | supplierBCsv
  deriving DecidableEq

def ImportSourceType.value : ImportSourceType → String
  | .supplierAJson => "supplier_a_json"
  | .supplierBCsv => "supplier_b_csv"

/-! ### Request strings -/

/-- Unicode `White_Space`, which `strip_whitespace` trims. -/
def isWhiteSpace (c : Char) : Bool :=
  let n := c.toNat
  (9 ≤ n && n ≤ 13) || n = 32 || n = 0x85 || n = 0xA0 || n = 0x1680 || (0x2000 ≤ n && n ≤ 0x200A) ||
    n = 0x2028 || n = 0x2029 || n = 0x202F || n = 0x205F || n = 0x3000

def stripWhitespace (s : String) : String :=
  String.ofList (((s.toList.dropWhile isWhiteSpace).reverse.dropWhile isWhiteSpace).reverse)

/-- White space at one of the ends, which stripping would take. -/
def Padded (s : String) : Prop := Trimming.Padded isWhiteSpace s.toList

instance (s : String) : Decidable (Padded s) := inferInstanceAs (Decidable (Trimming.Padded _ _))

def hasNul (s : String) : Bool := s.toList.contains (Char.ofNat 0)

theorem strip_toList (s : String) : (stripWhitespace s).toList = Trimming.trim isWhiteSpace s.toList :=
  String.toList_ofList

theorem stripped_iff (s : String) : stripWhitespace s = s ↔ ¬ Padded s := by
  rw [Padded, ← Trimming.trim_self_iff, ← strip_toList]
  constructor
  · intro same
    rw [same]
  · intro same
    rw [← String.ofList_toList (s := stripWhitespace s), same, String.ofList_toList]

theorem strip_not_padded (s : String) : ¬ Padded (stripWhitespace s) := by
  rw [Padded, strip_toList]
  exact Trimming.not_padded_trim isWhiteSpace s.toList

theorem strip_length (s : String) : (stripWhitespace s).length ≤ s.length := by
  rw [← String.length_toList, ← String.length_toList, strip_toList]
  exact (Trimming.trim_sublist _ _).length_le

theorem strip_hasNul (s : String) : hasNul (stripWhitespace s) = hasNul s := by
  unfold hasNul
  rw [Bool.eq_iff_iff, List.contains_iff_mem, List.contains_iff_mem, strip_toList]
  exact Trimming.mem_trim (by decide)

structure ExternalReference where
  text : String
  bounds : 1 ≤ text.length ∧ text.length ≤ 100
  deriving DecidableEq

/-- What the `ExternalReference` field of a request makes of a string. -/
def ExternalReference.validate (s : String) : Option ExternalReference :=
  if bounds : 1 ≤ (stripWhitespace s).length ∧ (stripWhitespace s).length ≤ 100 then
    some ⟨stripWhitespace s, bounds⟩
  else none

theorem validate_text {raw : String} {reference : ExternalReference}
    (h : ExternalReference.validate raw = some reference) : reference.text = stripWhitespace raw := by
  unfold ExternalReference.validate at h
  split at h
  · cases h
    rfl
  · contradiction

theorem validate_some {raw : String} {reference : ExternalReference} (same : stripWhitespace raw = reference.text) :
    ExternalReference.validate raw = some reference := by
  have bounds : 1 ≤ (stripWhitespace raw).length ∧ (stripWhitespace raw).length ≤ 100 := same ▸ reference.bounds
  rw [ExternalReference.validate, dif_pos bounds]
  simp only [same]

/-- Of the strings of up to 100 characters, the blank ones are refused. -/
theorem validate_none_iff {raw : String} (short : raw.length ≤ 100) :
    ExternalReference.validate raw = none ↔ stripWhitespace raw = "" := by
  have bound := (strip_length raw).trans short
  unfold ExternalReference.validate
  split
  · rename_i bounds
    refine iff_of_false (by simp) fun blank => ?_
    rw [blank] at bounds
    exact absurd bounds.1 (by decide)
  · rename_i outside
    refine iff_of_true rfl (String.length_eq_zero_iff.mp ?_)
    omega

example : (ExternalReference.validate " C-EVT-1\t").map (·.text) = some "C-EVT-1" := by decide

/-! ### Decimals -/

/-- Nearest integer, ties away from zero, as PostgreSQL rounds a `numeric`. -/
def roundHalfAway (q : ℚ) : Int := if 0 ≤ q then ⌊q + 1 / 2⌋ else -⌊-q + 1 / 2⌋

/-- What a `Numeric(18, 3)` column can hold. -/
structure Numeric183 where
  thousandths : Int
  fits : thousandths.natAbs < 10 ^ 18
  deriving DecidableEq

def Numeric183.value (n : Numeric183) : ℚ := n.thousandths / 1000

/-- Rounds to three places; a value whose integer part has more than 15 digits is rejected. -/
def Numeric183.store? (q : ℚ) : Option Numeric183 :=
  if fits : (roundHalfAway (q * 1000)).natAbs < 10 ^ 18 then some ⟨roundHalfAway (q * 1000), fits⟩
  else none

theorem roundHalfAway_int (z : Int) : roundHalfAway z = z := by
  have half (z : Int) : ⌊(z : ℚ) + 1 / 2⌋ = z := by
    rw [Int.floor_eq_iff]
    constructor <;> linarith
  unfold roundHalfAway
  split
  · exact half z
  · have negated := half (-z)
    push_cast at negated
    rw [negated, neg_neg]

@[simp] theorem Numeric183.store_value (n : Numeric183) : Numeric183.store? n.value = some n := by
  have scaled : n.value * 1000 = n.thousandths := by
    unfold Numeric183.value
    ring
  have same : roundHalfAway (n.value * 1000) = n.thousandths := by
    rw [scaled, roundHalfAway_int]
  unfold Numeric183.store?
  simp only [same]
  rw [dif_pos n.fits]

/-- Three places, as a column value is printed. -/
def decimalText (q : ℚ) : String :=
  let t := roundHalfAway (q * 1000)
  (if t < 0 then "-" else "") ++ (t.natAbs / 1000).repr ++ "." ++ padded 3 (t.natAbs % 1000)

example : decimalText (6001 / 1000) = "6.001" := by decide +kernel

end SupplyChainHub
