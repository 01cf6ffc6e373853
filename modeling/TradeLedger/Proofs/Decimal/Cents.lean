import Mathlib.Algebra.Order.Floor.Semifield
import Mathlib.Data.Rat.Floor
import TradeLedger.Decimal.Arithmetic
import TradeLedger.Proofs.Decimal.Value

/-! Rounding to cents as a function of the number alone: the nearest cent, a half cent to the
even one. How a decimal is written makes no difference to the number its cents write. -/
namespace TradeLedger

/-- The whole number nearest to a number that is not negative, a half to the even one. -/
def halfEven (x : ℚ) : ℕ :=
  if 1 / 2 < x - ⌊x⌋₊ ∨ (x - ⌊x⌋₊ = 1 / 2 ∧ ⌊x⌋₊ % 2 = 1) then ⌊x⌋₊ + 1 else ⌊x⌋₊

/-- The cents nearest to a number, a half cent to the even one. -/
def nearestCents (x : ℚ) : ℚ :=
  if x < 0 then -(halfEven (100 * |x|) / 100 : ℚ) else halfEven (100 * |x|) / 100

theorem abs_halfEven_sub_le {x : ℚ} (nonneg : 0 ≤ x) : |(halfEven x : ℚ) - x| ≤ 1 / 2 := by
  have below := Nat.floor_le nonneg
  have above := Nat.lt_floor_add_one x
  rw [halfEven, abs_le]
  split
  case isTrue up =>
    have half : 1 / 2 ≤ x - ⌊x⌋₊ := by
      rcases up with past | ⟨half, _⟩
      · exact past.le
      · exact half.ge
    push_cast
    constructor <;> linarith
  case isFalse down =>
    have half : x - ⌊x⌋₊ ≤ 1 / 2 := not_lt.mp fun past => down (.inl past)
    constructor <;> linarith

theorem halfEven_natCast (n : ℕ) : halfEven n = n := by
  rw [halfEven, Nat.floor_natCast, sub_self, if_neg (by norm_num)]

/-- On a quotient it is the rounding of natural numbers. -/
theorem halfEven_div (n : ℕ) {d : ℕ} (positive : 0 < d) : halfEven (n / d) = roundHalfEven n d := by
  have divisor : (0 : ℚ) < d := by exact_mod_cast positive
  have whole : ⌊(n / d : ℚ)⌋₊ = n / d := Nat.floor_div_eq_div n d
  have rest : (n / d : ℚ) - (n / d : ℕ) = (n % d : ℕ) / d :=
    sub_eq_iff_eq_add'.mpr (div_add_mod_div n positive).symm
  have past : 1 / 2 < ((n % d : ℕ) : ℚ) / d ↔ d < 2 * (n % d) := by
    rw [div_lt_div_iff₀ (by norm_num) divisor, one_mul, mul_comm]
    exact_mod_cast Iff.rfl
  have half : ((n % d : ℕ) : ℚ) / d = 1 / 2 ↔ 2 * (n % d) = d := by
    rw [div_eq_div_iff divisor.ne' (by norm_num), one_mul, mul_comm]
    exact_mod_cast Iff.rfl
  rw [halfEven, roundHalfEven, whole, rest]
  simp only [past, half]

theorem abs_nearestCents_sub_le (x : ℚ) : |nearestCents x - x| ≤ 1 / 200 := by
  have near := abs_le.mp (abs_halfEven_sub_le (x := 100 * |x|) (by positivity))
  rw [nearestCents, abs_le]
  split
  case isTrue negative =>
    rw [abs_of_neg negative] at near ⊢
    constructor <;> linarith
  case isFalse nonneg =>
    rw [abs_of_nonneg (not_lt.mp nonneg)] at near ⊢
    constructor <;> linarith

/-- The number is one of whole cents. -/
def WholeCents (x : ℚ) : Prop := ∃ cents : ℤ, x = cents / 100

namespace WholeCents

variable {x y : ℚ}

theorem zero : WholeCents 0 := ⟨0, by simp⟩

theorem add (left : WholeCents x) (right : WholeCents y) : WholeCents (x + y) := by
  obtain ⟨m, rfl⟩ := left
  obtain ⟨n, rfl⟩ := right
  exact ⟨m + n, by rw [Int.cast_add, add_div]⟩

theorem sum {xs : List ℚ} (whole : ∀ x ∈ xs, WholeCents x) : WholeCents xs.sum := by
  induction xs with
  | nil => exact zero
  | cons x xs ih =>
    rw [List.sum_cons]
    exact (whole x List.mem_cons_self).add (ih fun y member => whole y (List.mem_cons_of_mem x member))

end WholeCents

theorem wholeCents_nearestCents (x : ℚ) : WholeCents (nearestCents x) := by
  rw [nearestCents]
  split
  · exact ⟨-(halfEven (100 * |x|) : ℤ), by push_cast; ring⟩
  · exact ⟨(halfEven (100 * |x|) : ℤ), by push_cast; rfl⟩

/-- Whole cents are their own nearest cents. -/
theorem nearestCents_of_whole {x : ℚ} (whole : WholeCents x) : nearestCents x = x := by
  obtain ⟨cents, rfl⟩ := whole
  have size : 100 * |(cents / 100 : ℚ)| = (cents.natAbs : ℚ) := by
    rw [abs_div, ← Int.cast_abs, Int.abs_eq_natAbs]
    norm_num
    ring
  have half : (halfEven (100 * |(cents / 100 : ℚ)|) : ℚ) / 100 = |(cents / 100 : ℚ)| := by
    rw [size, halfEven_natCast, ← size]
    ring
  rw [nearestCents, half]
  split
  case isTrue negative => rw [abs_of_neg negative, neg_neg]
  case isFalse nonneg => exact abs_of_nonneg (not_lt.mp nonneg)

namespace Decimal

/-- A decimal of at most two places is one of whole cents. -/
theorem wholeCents_of_scale_le {a : Decimal} (few : a.scale ≤ 2) : WholeCents a.toRat := by
  obtain ⟨cents, units⟩ := a.exists_units few
  refine ⟨cents, ?_⟩
  rw [← units]
  ring

/-- The cents of a decimal, without the sign. -/
private theorem abs_roundCents (a : Decimal) : |a.roundCents.toRat| = halfEven (100 * |a.toRat|) / 100 := by
  rw [roundCents]
  split
  case h_1 few =>
    have whole : 100 * |a.toRat| = (a.magnitude * 10 ^ (2 - a.scale) : ℕ) := by
      have scale : (10 : ℚ) ^ (2 - a.scale) * 10 ^ a.scale = 100 := by
        rw [← pow_add, Nat.sub_add_cancel (by omega)]
        norm_num
      rw [abs_toRat, Nat.cast_mul, Nat.cast_pow, Nat.cast_ofNat, ← scale]
      field_simp
    rw [whole, halfEven_natCast, ← whole]
    ring
  case h_2 places many =>
    have quotient : 100 * |a.toRat| = (a.magnitude : ℚ) / (10 ^ (places + 1) : ℕ) := by
      have scale : a.scale = places + 1 + 2 := by omega
      rw [abs_toRat, scale, pow_add]
      push_cast
      field_simp
      ring
    rw [quotient, halfEven_div a.magnitude (by positivity), abs_toRat]
    norm_num

private theorem negative_roundCents {a : Decimal} (nonzero : a.roundCents.toRat ≠ 0) :
    a.roundCents.negative = a.negative := by
  rw [← isZero_eq_false_iff] at nonzero
  revert nonzero
  rw [roundCents]
  split
  case h_1 => exact fun _ => rfl
  case h_2 places _ =>
    intro nonzero
    have cents : (roundHalfEven a.magnitude (10 ^ (places + 1)) != 0) = true := by simpa [isZero] using nonzero
    simp only [cents, Bool.or_true, Bool.and_true]

/-- The cents of a decimal are the nearest cents of its number. -/
theorem toRat_roundCents (a : Decimal) : a.roundCents.toRat = nearestCents a.toRat := by
  have size := a.abs_roundCents
  rw [nearestCents, ← size]
  by_cases none : a.roundCents.toRat = 0
  · rw [none, abs_zero, neg_zero, ite_self]
  · have nonzero : a.toRat ≠ 0 := by
      intro zero
      have nothing : halfEven 0 = 0 := by exact_mod_cast halfEven_natCast 0
      rw [zero, abs_zero, mul_zero, nothing, Nat.cast_zero, zero_div, abs_eq_zero] at size
      exact none size
    have sign : a.roundCents.toRat < 0 ↔ a.toRat < 0 := by
      rw [← negative_iff none, ← negative_iff nonzero, negative_roundCents none]
    split
    case isTrue below => rw [abs_of_neg (sign.mpr below), neg_neg]
    case isFalse above => rw [abs_of_nonneg (not_lt.mp fun below => above (sign.mp below))]

theorem abs_roundCents_sub_le (a : Decimal) : |a.roundCents.toRat - a.toRat| ≤ 1 / 200 := by
  rw [toRat_roundCents]
  exact abs_nearestCents_sub_le a.toRat

end Decimal

end TradeLedger
