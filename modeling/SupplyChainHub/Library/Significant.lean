import Mathlib.Data.Int.Log
import Mathlib.Data.Rat.Floor
import Mathlib.Tactic.Linarith
import Mathlib.Tactic.FieldSimp
import Mathlib.Tactic.Ring

/-!
Rational numbers rounded to a number of significant decimal digits, ties to even. What fits the digits is kept
exactly, and everything else by half a unit of the last digit.
-/

namespace Significant

/-- The nearest integer, and of two the even one. -/
def nearestEven (q : ℚ) : ℤ :=
  if q - ⌊q⌋ < 1 / 2 then ⌊q⌋
  else if 1 / 2 < q - ⌊q⌋ then ⌊q⌋ + 1
  else if ⌊q⌋ % 2 = 0 then ⌊q⌋ else ⌊q⌋ + 1

/-- The exponent at which the last of `n` digits stands. -/
def lastDigit (n : ℕ) (q : ℚ) : ℤ := Int.log 10 |q| + 1 - n

def toDigits (n : ℕ) (q : ℚ) : ℚ := nearestEven (q * 10 ^ (-lastDigit n q)) * 10 ^ lastDigit n q

variable {q : ℚ} {n : ℕ}

theorem nearestEven_int (z : ℤ) : nearestEven z = z := by
  unfold nearestEven
  simp

theorem nearestEven_near (q : ℚ) : |(nearestEven q : ℚ) - q| ≤ 1 / 2 := by
  have low := Int.floor_le q
  have high := Int.lt_floor_add_one q
  unfold nearestEven
  split_ifs with less more even
  · rw [abs_le]
    constructor <;> linarith
  · rw [abs_le]
    push_cast
    constructor <;> linarith
  · rw [abs_le]
    constructor <;> linarith
  · rw [abs_le]
    push_cast
    constructor <;> linarith

theorem toDigits_near (n : ℕ) (q : ℚ) : |toDigits n q - q| ≤ 10 ^ lastDigit n q / 2 := by
  have positive : (0 : ℚ) < 10 ^ lastDigit n q := zpow_pos (by norm_num) _
  have scaled : q = q * 10 ^ (-lastDigit n q) * 10 ^ lastDigit n q := by
    rw [mul_assoc, ← zpow_add₀ (by norm_num), neg_add_cancel, zpow_zero, mul_one]
  have near := nearestEven_near (q * 10 ^ (-lastDigit n q))
  calc |toDigits n q - q|
      = |((nearestEven (q * 10 ^ (-lastDigit n q)) : ℚ) - q * 10 ^ (-lastDigit n q)) * 10 ^ lastDigit n q| := by
        rw [sub_mul, ← scaled]
        rfl
    _ = |(nearestEven (q * 10 ^ (-lastDigit n q)) : ℚ) - q * 10 ^ (-lastDigit n q)| * 10 ^ lastDigit n q := by
        rw [abs_mul, abs_of_pos positive]
    _ ≤ 1 / 2 * 10 ^ lastDigit n q := mul_le_mul_of_nonneg_right near positive.le
    _ = 10 ^ lastDigit n q / 2 := by ring

theorem toDigits_zero (n : ℕ) : toDigits n 0 = 0 := by
  unfold toDigits
  rw [zero_mul, ← Int.cast_zero (R := ℚ), nearestEven_int, Int.cast_zero, zero_mul]

/-- The error is small beside the number. -/
theorem toDigits_relative (n : ℕ) (q : ℚ) : |toDigits n q - q| ≤ |q| * 10 ^ (1 - n : ℤ) / 2 := by
  by_cases zero : q = 0
  · simp [zero, toDigits_zero]
  have leading : (10 : ℚ) ^ Int.log 10 |q| ≤ |q| := by
    have self := Int.zpow_log_le_self (b := 10) (r := |q|) (by norm_num) (abs_pos.mpr zero)
    exact_mod_cast self
  have split : (10 : ℚ) ^ lastDigit n q = 10 ^ Int.log 10 |q| * 10 ^ (1 - n : ℤ) := by
    rw [← zpow_add₀ (by norm_num), lastDigit]
    congr 1
    ring
  have positive : (0 : ℚ) ≤ 10 ^ (1 - n : ℤ) := (zpow_pos (by norm_num) _).le
  calc |toDigits n q - q| ≤ 10 ^ lastDigit n q / 2 := toDigits_near n q
    _ = 10 ^ Int.log 10 |q| * 10 ^ (1 - n : ℤ) / 2 := by rw [split]
    _ ≤ |q| * 10 ^ (1 - n : ℤ) / 2 := by
        have product := mul_le_mul_of_nonneg_right leading positive
        linarith

theorem lastDigit_le {k : ℕ} (some : q ≠ 0) (fits : |q| < 10 ^ (n - k : ℤ)) : lastDigit n q ≤ -k := by
  have below : Int.log 10 |q| < n - k := by
    apply (Int.lt_zpow_iff_log_lt (b := 10) (by norm_num) (abs_pos.mpr some)).mp
    exact_mod_cast fits
  unfold lastDigit
  omega

/-- A number whose digits fit is kept. -/
theorem toDigits_exact {k : ℕ} {z : ℤ} (places : q * 10 ^ k = z) (fits : |q| < 10 ^ (n - k : ℤ)) :
    toDigits n q = q := by
  have whole : ∃ y : ℤ, q * 10 ^ (-lastDigit n q) = y := by
    by_cases zero : q = 0
    · exact ⟨0, by rw [zero, zero_mul, Int.cast_zero]⟩
    · have last := lastDigit_le zero fits
      refine ⟨z * 10 ^ (-lastDigit n q - k).toNat, ?_⟩
      have exponent : -lastDigit n q = k + ((-lastDigit n q - k).toNat : ℤ) := by
        rw [Int.toNat_of_nonneg (by omega)]
        ring
      rw [exponent, zpow_add₀ (by norm_num), ← mul_assoc, zpow_natCast, places, zpow_natCast]
      push_cast
      congr 2
      omega
  obtain ⟨y, whole⟩ := whole
  unfold toDigits
  rw [whole, nearestEven_int, ← whole, mul_assoc, ← zpow_add₀ (by norm_num), neg_add_cancel, zpow_zero, mul_one]

end Significant
