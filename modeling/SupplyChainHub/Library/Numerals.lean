import Mathlib.Algebra.Group.Nat.Defs
import Mathlib.Data.List.Lex
import Mathlib.Data.Nat.Notation
import Mathlib.Order.Basic
import Mathlib.Tactic.Common

/-!
Decimal numerals of a fixed width. Padded with zeros, they are told apart and ordered as texts just as they are as
numbers.
-/

namespace Numerals

/-- The last `width` digits. -/
def digits : (width n : ℕ) → List Char
  | 0, _ => []
  | width + 1, n => digits width (n / 10) ++ [Nat.digitChar (n % 10)]

variable {width n m : ℕ}

@[simp] theorem digits_length : (digits width n).length = width := by
  induction width generalizing n with
  | zero => rfl
  | succ width ih => rw [digits, List.length_append, ih, List.length_singleton]

theorem digits_zero : digits width 0 = List.replicate width '0' := by
  induction width with
  | zero => rfl
  | succ width ih =>
    rw [digits, Nat.zero_div, ih, List.replicate_succ']
    rfl

/-- Leading zeros before the digits of a number that fits. -/
theorem replicate_toDigits (positive : 0 < width) (fits : n < 10 ^ width) :
    List.replicate (width - (Nat.toDigits 10 n).length) '0' ++ Nat.toDigits 10 n = digits width n := by
  induction width generalizing n with
  | zero => omega
  | succ width ih =>
    rw [digits]
    by_cases small : n < 10
    · rw [Nat.toDigits_of_lt_base small, Nat.div_eq_of_lt small, Nat.mod_eq_of_lt small, digits_zero]
      rfl
    · have wide : 0 < width := by
        rcases Nat.eq_zero_or_pos width with rfl | wide
        · omega
        · exact wide
      have rest : n / 10 < 10 ^ width := by
        rw [Nat.div_lt_iff_lt_mul (by decide), ← Nat.pow_succ]
        exact fits
      rw [Nat.toDigits_of_base_le (by decide) (Nat.not_lt.mp small), ← ih wide rest, List.length_append,
        List.length_singleton, Nat.add_sub_add_right, List.append_assoc]

/-- The digits, read back. -/
theorem ofDigitChars_digits (positive : 0 < width) (fits : n < 10 ^ width) :
    Nat.ofDigitChars 10 (digits width n) 0 = n := by
  rw [← replicate_toDigits positive fits, Nat.ofDigitChars_append, Nat.ofDigitChars_replicate_zero, Nat.mul_zero,
    Nat.ofDigitChars_ten_toDigits]

theorem digits_isDigit {c : Char} (member : c ∈ digits width n) : c.isDigit = true := by
  induction width generalizing n with
  | zero => cases member
  | succ width ih =>
    rw [digits, List.mem_append, List.mem_singleton] at member
    rcases member with high | rfl
    · exact ih high
    · have each : ∀ ones < 10, (Nat.digitChar ones).isDigit = true := by decide
      exact each _ (Nat.mod_lt n (by decide))

theorem digitChar_lt {a b : ℕ} (first : a < 10) (second : b < 10) : Nat.digitChar a < Nat.digitChar b ↔ a < b := by
  have each : ∀ a < 10, ∀ b < 10, Nat.digitChar a < Nat.digitChar b ↔ a < b := by decide
  exact each a first b second

theorem digitChar_eq {a b : ℕ} (first : a < 10) (second : b < 10) : Nat.digitChar a = Nat.digitChar b ↔ a = b := by
  have each : ∀ a < 10, ∀ b < 10, Nat.digitChar a = Nat.digitChar b ↔ a = b := by decide
  exact each a first b second

/-! ### Texts that begin with as many characters -/

section
variable {α : Type*} [LT α] {xs ys as bs : List α}

/-- The beginnings decide where they differ. -/
theorem append_lt_append (same : xs.length = ys.length) :
    xs ++ as < ys ++ bs ↔ xs < ys ∨ xs = ys ∧ as < bs := by
  induction xs generalizing ys with
  | nil =>
    obtain rfl := List.length_eq_zero_iff.mp same.symm
    simp
  | cons x xs ih =>
    cases ys with
    | nil => cases same
    | cons y ys =>
      rw [List.cons_append, List.cons_append, List.cons_lt_cons_iff, List.cons_lt_cons_iff,
        ih (Nat.succ.inj same), List.cons.injEq]
      constructor
      · rintro (less | ⟨rfl, less | ⟨rfl, less⟩⟩)
        · exact .inl (.inl less)
        · exact .inl (.inr ⟨rfl, less⟩)
        · exact .inr ⟨⟨rfl, rfl⟩, less⟩
      · rintro ((less | ⟨rfl, less⟩) | ⟨⟨rfl, rfl⟩, less⟩)
        · exact .inl less
        · exact .inr ⟨rfl, .inl less⟩
        · exact .inr ⟨rfl, .inr ⟨rfl, less⟩⟩

end

theorem digits_inj (first : n < 10 ^ width) (second : m < 10 ^ width) : digits width n = digits width m ↔ n = m := by
  refine ⟨fun same => ?_, fun same => same ▸ rfl⟩
  induction width generalizing n m with
  | zero =>
    rw [Nat.pow_zero] at first second
    omega
  | succ width ih =>
    rw [Nat.pow_succ] at first second
    obtain ⟨high, low⟩ := List.append_inj same (by rw [digits_length, digits_length])
    have tens := ih (by omega) (by omega) high
    have ones := (digitChar_eq (Nat.mod_lt n (by decide)) (Nat.mod_lt m (by decide))).mp (List.singleton_inj.mp low)
    omega

theorem digits_lt (first : n < 10 ^ width) (second : m < 10 ^ width) : digits width n < digits width m ↔ n < m := by
  induction width generalizing n m with
  | zero =>
    rw [Nat.pow_zero] at first second
    exact iff_of_false (List.not_lt_nil _) (by omega)
  | succ width ih =>
    rw [Nat.pow_succ] at first second
    have high : n / 10 < 10 ^ width := by omega
    have high' : m / 10 < 10 ^ width := by omega
    have ones : [Nat.digitChar (n % 10)] < [Nat.digitChar (m % 10)] ↔ n % 10 < m % 10 := by
      rw [List.cons_lt_cons_iff, digitChar_lt (Nat.mod_lt n (by decide)) (Nat.mod_lt m (by decide)),
        or_iff_left fun both => List.not_lt_nil _ both.2]
    rw [digits, digits, append_lt_append (by rw [digits_length, digits_length]), ih high high',
      digits_inj high high', ones]
    omega

end Numerals
