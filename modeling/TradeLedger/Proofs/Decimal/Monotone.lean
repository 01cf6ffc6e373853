import Mathlib.Tactic.Linarith
import TradeLedger.Proofs.Decimal.Congruence

/-! Rounding keeps order. Of two numbers the larger is never rounded below the smaller, although near the
capacity the two may be rounded at different places. So sums grow with their operands, and products with one
factor if the other is not negative, also where they are rounded. -/
namespace TradeLedger.Decimal

/-- Two different numbers of whole units are a unit apart. -/
theorem one_le_sub_mul {u v w : ℚ} {m n : ℕ} (left : u * w = m) (right : v * w = n) (positive : 0 < w)
    (less : v < u) : 1 ≤ (u - v) * w := by
  have scaled : v * w < u * w := by gcongr
  rw [left, right] at scaled
  have apart : (n : ℚ) + 1 ≤ m := by exact_mod_cast Nat.cast_lt.mp scaled
  rw [sub_mul, left, right]
  linarith

namespace RoundedAt

variable {a b : Decimal} {x y : ℚ} {digits digits' places places' : ℕ}

/-- The decimals above a number that is rounded down are at least half a unit away. -/
theorem half_le_above (rounded : RoundedAt y digits places) (down : digits / 10 ^ places < y) (above : y < |a.toRat|) :
    1 / 2 ≤ (|a.toRat| - y) * 10 ^ places := by
  have power : (0 : ℚ) < 10 ^ places := by positivity
  have units : (digits / 10 ^ places : ℚ) * 10 ^ places = digits := div_mul_cancel₀ _ power.ne'
  have few : a.scale ≤ places := by
    by_contra! many
    rcases rounded.needed with exactly | last | large
    · rw [exactly, mul_div_cancel_right₀ _ power.ne'] at down
      exact down.false
    · exact absurd (last ▸ a.scale_le) (not_le.mpr many)
    · have bound : |a.toRat| * 10 ^ (places + 1) ≤ capacity - 1 := a.abs_toRat_mul_le many
      have scaled : y * 10 ^ (places + 1) ≤ |a.toRat| * 10 ^ (places + 1) := by gcongr
      rw [limit] at large
      linarith
  obtain ⟨n, written⟩ := a.exists_magnitude few
  have apart := one_le_sub_mul written units power (down.trans above)
  rw [sub_mul, units] at apart
  rw [sub_mul]
  linarith [(abs_le.mp rounded.near).1]

/-- The decimals below a number that is rounded up are at least half a unit of the next place away. -/
theorem half_le_below (rounded : RoundedAt x digits places) (up : x < digits / 10 ^ places) (below : |b.toRat| < x)
    (more : places < maxScale) : 1 / 2 ≤ (x - |b.toRat|) * 10 ^ (places + 1) := by
  have power : (0 : ℚ) < 10 ^ places := by positivity
  have units : (digits / 10 ^ places : ℚ) * 10 ^ places = digits := div_mul_cancel₀ _ power.ne'
  by_cases few : b.scale ≤ places
  · obtain ⟨n, written⟩ := b.exists_magnitude few
    have apart := one_le_sub_mul units written power (below.trans up)
    have half : 1 / 2 ≤ (x - |b.toRat|) * 10 ^ places := by
      rw [sub_mul, units] at apart
      rw [sub_mul]
      linarith [(abs_le.mp rounded.near).2]
    have finer : (10 : ℚ) ^ places ≤ 10 ^ (places + 1) := pow_le_pow_right₀ (by norm_num) (Nat.le_succ _)
    exact half.trans (mul_le_mul_of_nonneg_left finer (sub_nonneg.mpr below.le))
  · rcases rounded.needed with exactly | last | large
    · rw [exactly, mul_div_cancel_right₀ _ power.ne'] at up
      exact absurd up (lt_irrefl x)
    · exact absurd last more.ne
    · have bound : |b.toRat| * 10 ^ (places + 1) ≤ capacity - 1 := b.abs_toRat_mul_le (by omega)
      rw [limit] at large
      rw [sub_mul]
      linarith

/-- Magnitudes are not rounded past each other. The larger one would be rounded at the finer place, and then
the smaller one is too far away from where it went. -/
theorem le_of_lt (left : RoundedAt x digits places) (right : RoundedAt y digits' places') (less : x < y)
    (value : |a.toRat| = digits / 10 ^ places) (value' : |b.toRat| = digits' / 10 ^ places') :
    |a.toRat| ≤ |b.toRat| := by
  by_contra! crossed
  have down : |b.toRat| < x := by
    by_contra! above
    exact absurd (value ▸ left.le_of_le above) (not_le.mpr crossed)
  have up : y < |a.toRat| := by
    by_contra! below
    exact absurd (value' ▸ right.ge_of_ge below) (not_le.mpr crossed)
  have near : (|a.toRat| - x) * 10 ^ places ≤ 1 / 2 := by
    rw [sub_mul, value, div_mul_cancel₀ _ (by positivity)]
    exact (abs_le.mp left.near).2
  have near' : (y - |b.toRat|) * 10 ^ places' ≤ 1 / 2 := by
    rw [sub_mul, value', div_mul_cancel₀ _ (by positivity)]
    linarith [(abs_le.mp right.near).1]
  have finer : places < places' := by
    by_contra! coarse
    have far := right.half_le_above (value' ▸ down.trans less) up
    have scale : (10 : ℚ) ^ places' ≤ 10 ^ places := pow_le_pow_right₀ (by norm_num) coarse
    have strict : (|a.toRat| - y) * 10 ^ places' < (|a.toRat| - x) * 10 ^ places' := by gcongr
    have scaled : (|a.toRat| - x) * 10 ^ places' ≤ (|a.toRat| - x) * 10 ^ places := by gcongr; linarith
    linarith
  have far := left.half_le_below (value ▸ less.trans up) down (finer.trans_le right.places_le)
  have scale : (10 : ℚ) ^ (places + 1) ≤ 10 ^ places' := pow_le_pow_right₀ (by norm_num) finer
  have strict : (x - |b.toRat|) * 10 ^ (places + 1) < (y - |b.toRat|) * 10 ^ (places + 1) := by gcongr
  have scaled : (y - |b.toRat|) * 10 ^ (places + 1) ≤ (y - |b.toRat|) * 10 ^ places' := by gcongr; linarith
  linarith

end RoundedAt

variable {a b a' b' sum sum' : Decimal} {x y : ℚ}

theorem Rounds.le_of_lt_of_nonneg (left : Rounds a x) (right : Rounds b y) (less : x < y) (nonneg : 0 ≤ x) :
    a.toRat ≤ b.toRat := by
  have leftNonneg := left.nonneg nonneg
  have rightNonneg := right.nonneg (nonneg.trans less.le)
  obtain ⟨digits, places, roundedAt, value⟩ := left
  obtain ⟨digits', places', roundedAt', value'⟩ := right
  rw [if_neg (not_lt.mpr nonneg)] at value
  rw [if_neg (not_lt.mpr (nonneg.trans less.le))] at value'
  rw [← abs_of_nonneg leftNonneg, ← abs_of_nonneg rightNonneg]
  rw [abs_of_nonneg nonneg] at roundedAt
  rw [abs_of_nonneg (nonneg.trans less.le)] at roundedAt'
  exact roundedAt.le_of_lt roundedAt' less (by rw [abs_of_nonneg leftNonneg, value]) (by rw [abs_of_nonneg rightNonneg, value'])

/-- The larger number is not rounded below the smaller. -/
theorem Rounds.le_of_lt (left : Rounds a x) (right : Rounds b y) (less : x < y) : a.toRat ≤ b.toRat := by
  rcases le_or_gt 0 x with nonneg | negative
  · exact left.le_of_lt_of_nonneg right less nonneg
  · rcases le_or_gt y 0 with nonpos | positive
    · have turned := right.neg.le_of_lt_of_nonneg left.neg (neg_lt_neg less) (neg_nonneg.mpr nonpos)
      rw [toRat_neg, toRat_neg] at turned
      exact neg_le_neg_iff.mp turned
    · have below := left.le_of_le (c := zero) (by rw [toRat_zero]; exact negative.le)
      have above := right.nonneg positive.le
      rw [toRat_zero] at below
      exact below.trans above

/-- Larger operands have larger sums. -/
theorem add_mono (left : a.toRat ≤ a'.toRat) (right : b.toRat ≤ b'.toRat) (added : a.add b = .ok sum)
    (added' : a'.add b' = .ok sum') : sum.toRat ≤ sum'.toRat := by
  rcases (add_le_add left right).lt_or_eq with less | same
  · exact ((add_computes a b).rounds added).le_of_lt ((add_computes a' b').rounds added') less
  · have first : SameValue a a' := le_antisymm left (by linarith)
    have second : SameValue b b' := le_antisymm right (by linarith)
    exact ((add_agrees first second).answers added added').le

/-- A larger factor has a larger product with one that is not negative. -/
theorem mul_mono {rate product product' : Decimal} (less : a.toRat ≤ a'.toRat) (nonneg : 0 ≤ rate.toRat)
    (multiplied : a.mul rate = .ok product) (multiplied' : a'.mul rate = .ok product') :
    product.toRat ≤ product'.toRat := by
  have left := (mul_computes a rate).rounds multiplied
  have right := (mul_computes a' rate).rounds multiplied'
  rcases (mul_le_mul_of_nonneg_right less nonneg).lt_or_eq with less | same
  · exact left.le_of_lt right less
  · rcases mul_eq_mul_right_iff.mp same with equal | none
    · exact ((mul_agrees equal rfl).answers multiplied multiplied').le
    · rw [none, mul_zero] at left right
      rw [left.eq_zero, right.eq_zero]

/-- The product of factors that are not negative is not negative. -/
theorem mul_nonneg_of {rate product : Decimal} (left : 0 ≤ a.toRat) (right : 0 ≤ rate.toRat)
    (multiplied : a.mul rate = .ok product) : 0 ≤ product.toRat :=
  ((mul_computes a rate).rounds multiplied).nonneg (mul_nonneg left right)

/-- So is their sum. -/
theorem add_nonneg_of (left : 0 ≤ a.toRat) (right : 0 ≤ b.toRat) (added : a.add b = .ok sum) : 0 ≤ sum.toRat :=
  ((add_computes a b).rounds added).nonneg (add_nonneg left right)

end TradeLedger.Decimal
