import Mathlib.Algebra.Order.Field.Rat
import Mathlib.Data.Rat.Cast.Order
import Mathlib.Tactic.FieldSimp
import Mathlib.Tactic.GCongr
import Mathlib.Tactic.Linarith
import Mathlib.Tactic.LinearCombination
import Mathlib.Tactic.NormNum
import Mathlib.Tactic.Positivity
import Mathlib.Tactic.Ring
import TradeLedger.Number.Rounding

/-! Half-even rounding against the exact quotient: the rounded number is nearest to it, and
below an even number lie exactly the quotients more than a half below it. -/
namespace TradeLedger

/-- The whole part of a quotient and what the rest adds to it. -/
theorem div_add_mod_div (n : ℕ) {d : ℕ} (positive : 0 < d) :
    ((n / d : ℕ) : ℚ) + (n % d : ℕ) / d = n / d := by
  have divisor : (d : ℚ) ≠ 0 := by exact_mod_cast positive.ne'
  rw [eq_div_iff divisor, add_mul, div_mul_cancel₀ _ divisor, mul_comm]
  exact_mod_cast Nat.div_add_mod n d

/-- The nearest whole number is at most a half away. -/
theorem abs_roundHalfEven_sub_le (n : ℕ) {d : ℕ} (positive : 0 < d) :
    |(roundHalfEven n d : ℚ) - n / d| ≤ 1 / 2 := by
  have divisor : (0 : ℚ) < d := by exact_mod_cast positive
  have rest : ((n % d : ℕ) : ℚ) / d < 1 := by
    rw [div_lt_one divisor]
    exact_mod_cast Nat.mod_lt n positive
  rw [← div_add_mod_div n positive, abs_le]
  simp only [roundHalfEven]
  split
  case isTrue up =>
    have half : 1 / 2 ≤ ((n % d : ℕ) : ℚ) / d := by
      rw [le_div_iff₀ divisor]
      have twice : d ≤ 2 * (n % d) := by omega
      have twice : (d : ℚ) ≤ 2 * (n % d : ℕ) := by exact_mod_cast twice
      linarith
    push_cast
    constructor <;> linarith
  case isFalse down =>
    have half : ((n % d : ℕ) : ℚ) / d ≤ 1 / 2 := by
      rw [div_le_iff₀ divisor]
      have twice : 2 * (n % d) ≤ d := by omega
      have twice : (2 : ℚ) * (n % d : ℕ) ≤ d := by exact_mod_cast twice
      linarith
    have nonneg : 0 ≤ ((n % d : ℕ) : ℚ) / d := by positivity
    constructor <;> linarith

/-- Below an even number stay exactly the quotients that are more than a half below it: at
a half the number before it is odd, and the quotient goes up. -/
theorem roundHalfEven_lt_iff {n d c : ℕ} (positive : 0 < d) (even : c % 2 = 0) :
    roundHalfEven n d < c ↔ 2 * n + d < 2 * c * d := by
  have divided := Nat.div_add_mod n d
  have rest := Nat.mod_lt n positive
  simp only [roundHalfEven]
  generalize n / d = q at *
  generalize n % d = r at *
  subst n
  rcases Nat.lt_trichotomy (q + 1) c with below | last | above
  · obtain ⟨k, rfl⟩ := Nat.exists_eq_add_of_lt below
    have expand : 2 * (q + 1 + k + 1) * d = 2 * (d * q) + 2 * (k * d) + 4 * d := by ring
    rw [expand]
    split <;> omega
  · subst last
    have expand : 2 * (q + 1) * d = 2 * (d * q) + 2 * d := by ring
    rw [expand]
    split <;> omega
  · have large : c * d ≤ d * q := by
      rw [mul_comm d]
      exact Nat.mul_le_mul_right d (by omega)
    have expand : 2 * c * d = 2 * (c * d) := by ring
    rw [expand]
    split <;> omega

end TradeLedger
