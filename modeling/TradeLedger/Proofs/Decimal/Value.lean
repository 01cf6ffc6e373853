import TradeLedger.Ledger.Position
import TradeLedger.Proofs.Number.Rounding

/-! Decimals as the rational numbers they write. Comparison, sign and size of a decimal
are those of its number, and so is whether a trade made money; only the written form tells
equal numbers apart. -/
namespace TradeLedger.Decimal

variable {a b : Decimal}

/-- The number that a decimal writes. -/
def toRat (a : Decimal) : ℚ := a.numerator / 10 ^ a.scale

theorem abs_toRat (a : Decimal) : |a.toRat| = a.magnitude / 10 ^ a.scale := by
  have positive : (0 : ℚ) < 10 ^ a.scale := by positivity
  rw [toRat, abs_div, abs_of_pos positive]
  cases sign : a.negative <;> simp [numerator, sign]

/-- The number without its sign, put back behind the sign. -/
theorem toRat_of_sign (a : Decimal) :
    a.toRat = if a.negative then -(a.magnitude / 10 ^ a.scale : ℚ) else a.magnitude / 10 ^ a.scale := by
  cases sign : a.negative <;> simp [toRat, numerator, sign, neg_div]

@[simp] theorem toRat_zero : zero.toRat = 0 := by
  simp [toRat, numerator, zero, ofUInt32]

theorem toRat_ofUInt32 (n : UInt32) : (ofUInt32 n).toRat = n.toNat := by
  simp [toRat, numerator, ofUInt32]

theorem toRat_ofCount (n : ℕ) : (ofCount n).toRat = (Nat.min n (capacity - 1) : ℕ) := by
  simp [toRat, numerator, ofCount]

@[simp] theorem toRat_abs (a : Decimal) : a.abs.toRat = |a.toRat| := by
  rw [abs_toRat]
  simp [toRat, numerator, abs]

@[simp] theorem toRat_neg (a : Decimal) : a.neg.toRat = -a.toRat := by
  cases sign : a.negative <;> simp [toRat, numerator, neg, sign, neg_div]

@[simp] theorem toRat_withoutZeroSign (a : Decimal) : a.withoutZeroSign.toRat = a.toRat := by
  by_cases empty : a.magnitude = 0 <;> simp [toRat, numerator, withoutZeroSign, isZero, empty]

theorem isZero_iff : a.isZero = true ↔ a.toRat = 0 := by
  rw [← abs_eq_zero, abs_toRat]
  simp [isZero]

theorem isZero_eq_false_iff : a.isZero = false ↔ a.toRat ≠ 0 := by
  rw [← Bool.not_eq_true, isZero_iff]

theorem negative_of_toRat_neg (below : a.toRat < 0) : a.negative = true := by
  rw [toRat_of_sign] at below
  cases sign : a.negative with
  | true => rfl
  | false =>
    have nonneg : (0 : ℚ) ≤ a.magnitude / 10 ^ a.scale := by positivity
    rw [sign] at below
    exact absurd below (not_lt.mpr nonneg)

theorem not_negative_of_toRat_pos (above : 0 < a.toRat) : a.negative = false := by
  cases sign : a.negative with
  | false => rfl
  | true =>
    have nonneg : (0 : ℚ) ≤ a.magnitude / 10 ^ a.scale := by positivity
    rw [toRat_of_sign, sign] at above
    exact absurd above (not_lt.mpr (neg_nonpos.mpr nonneg))

theorem negative_iff (nonzero : a.toRat ≠ 0) : a.negative = true ↔ a.toRat < 0 := by
  constructor
  · intro negative
    rcases lt_or_gt_of_ne nonzero with below | above
    · exact below
    · rw [not_negative_of_toRat_pos above] at negative
      cases negative
  · exact negative_of_toRat_neg

theorem lt_iff : a < b ↔ a.toRat < b.toRat := by
  rw [toRat, toRat, div_lt_div_iff₀ (by positivity) (by positivity)]
  change a.numerator * 10 ^ b.scale < b.numerator * 10 ^ a.scale ↔ _
  exact_mod_cast Iff.rfl

theorem le_iff : a ≤ b ↔ a.toRat ≤ b.toRat := by
  rw [toRat, toRat, div_le_div_iff₀ (by positivity) (by positivity)]
  change a.numerator * 10 ^ b.scale ≤ b.numerator * 10 ^ a.scale ↔ _
  exact_mod_cast Iff.rfl

theorem toRat_max (a b : Decimal) : (a.max b).toRat = Max.max a.toRat b.toRat := by
  simp only [max, lt_iff]
  split
  · exact (max_eq_right (le_of_lt ‹_›)).symm
  · exact (max_eq_left (not_lt.mp ‹_›)).symm

theorem toRat_min (a b : Decimal) : (a.min b).toRat = Min.min a.toRat b.toRat := by
  simp only [min, lt_iff]
  split
  · exact (min_eq_right (le_of_lt ‹_›)).symm
  · exact (min_eq_left (not_lt.mp ‹_›)).symm

/-- Written with at least its own places, a decimal has a whole number of units. -/
theorem exists_units (a : Decimal) {places : ℕ} (enough : a.scale ≤ places) :
    ∃ n : ℤ, a.toRat * 10 ^ places = n := by
  refine ⟨a.numerator * 10 ^ (places - a.scale), ?_⟩
  rw [toRat, ← Nat.sub_add_cancel enough, pow_add, Nat.add_sub_cancel]
  push_cast
  field_simp

/-- So does its size. -/
theorem exists_magnitude (a : Decimal) {places : ℕ} (enough : a.scale ≤ places) :
    ∃ n : ℕ, |a.toRat| * 10 ^ places = n := by
  refine ⟨a.magnitude * 10 ^ (places - a.scale), ?_⟩
  rw [abs_toRat, ← Nat.sub_add_cancel enough, pow_add, Nat.add_sub_cancel]
  push_cast
  field_simp

/-- The smallest positive decimal. -/
def unit : Decimal := ⟨false, 1, maxScale, by decide, le_rfl⟩

theorem toRat_unit : unit.toRat = 1 / 10 ^ 28 := by
  rw [toRat, numerator]
  norm_num [unit, maxScale]

/-- A positive sum of decimals is at least the smallest positive decimal. -/
theorem unit_le_add (positive : 0 < a.toRat + b.toRat) : unit.toRat ≤ a.toRat + b.toRat := by
  obtain ⟨m, left⟩ := a.exists_units a.scale_le
  obtain ⟨n, right⟩ := b.exists_units b.scale_le
  have power : (0 : ℚ) < 10 ^ maxScale := by positivity
  have units : (a.toRat + b.toRat) * 10 ^ maxScale = (m + n : ℤ) := by
    rw [add_mul, left, right, Int.cast_add]
  have unitsPositive : (0 : ℤ) < m + n := by
    have above : ((0 : ℤ) : ℚ) < (m + n : ℤ) := by
      rw [← units, Int.cast_zero]
      exact mul_pos positive power
    exact_mod_cast above
  rw [toRat_unit]
  change 1 / 10 ^ maxScale ≤ _
  rw [div_le_iff₀ power, units]
  exact_mod_cast unitsPositive

theorem unit_le_of_pos (positive : 0 < a.toRat) : unit.toRat ≤ a.toRat := by
  simpa using unit_le_add (b := zero) (by simpa using positive)

/-- No decimal reaches the capacity, however its places are read. -/
theorem abs_toRat_mul_le (a : Decimal) {places : ℕ} (few : places ≤ a.scale) :
    |a.toRat| * 10 ^ places ≤ capacity - 1 := by
  have below : (a.magnitude : ℚ) + 1 ≤ capacity := by exact_mod_cast a.magnitude_lt
  have fewer : (10 : ℚ) ^ places ≤ 10 ^ a.scale := pow_le_pow_right₀ (by norm_num) few
  calc |a.toRat| * 10 ^ places ≤ |a.toRat| * 10 ^ a.scale := by gcongr
    _ = a.magnitude := by rw [abs_toRat]; field_simp
    _ ≤ capacity - 1 := by linarith

theorem abs_toRat_lt (a : Decimal) : |a.toRat| ≤ capacity - 1 := by
  simpa using a.abs_toRat_mul_le (Nat.zero_le _)

end TradeLedger.Decimal

namespace TradeLedger.TradeGroup

variable {group : TradeGroup}

theorem isWinner_iff : group.isWinner = true ↔ 0 < group.pnl.toRat := by
  rw [isWinner, decide_eq_true_eq, Decimal.lt_iff, Decimal.toRat_zero]

theorem isLoser_iff : group.isLoser = true ↔ group.pnl.toRat < 0 := by
  rw [isLoser, decide_eq_true_eq, Decimal.lt_iff, Decimal.toRat_zero]

end TradeLedger.TradeGroup
