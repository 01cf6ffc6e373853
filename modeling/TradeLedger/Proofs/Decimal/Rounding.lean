import TradeLedger.Proofs.Decimal.Value

/-! What it means that a decimal is a number rounded once. The rounded number is at most one
part in `10 ^ 28` away, and no decimal lies between the two: rounding keeps the order towards
every decimal and moves no number that is one. -/
namespace TradeLedger.Decimal

/-- Decimals hold the magnitudes below this one: from here on rounding carries a number of
no places past the capacity. -/
def limit : ℚ := capacity - 1 / 2

theorem capacity_eq : (capacity : ℚ) = 79228162514264337593543950336 := by
  exact_mod_cast (rfl : capacity = 79228162514264337593543950336)

theorem limit_eq : limit = 79228162514264337593543950336 - 1 / 2 := by
  rw [limit, capacity_eq]

theorem limit_le_capacity : limit ≤ capacity := by
  rw [limit]
  linarith

/-- A magnitude that stays below twice the capacity with a place to spare is below the limit. -/
theorem lt_limit_of_place {x : ℚ} {places : ℕ} (nonneg : 0 ≤ x) (spare : 0 < places)
    (small : x * 10 ^ places < 2 * capacity) : x < limit := by
  have ten : (10 : ℚ) ≤ 10 ^ places := le_self_pow₀ (by norm_num) (by omega)
  have tenfold : x * 10 ≤ x * 10 ^ places := by gcongr
  rw [limit]
  rw [capacity_eq] at small ⊢
  linarith

/-- `digits` with so many places is the magnitude `x` rounded once. A place is given up only
where even the magnitude rounded there would be past the capacity. -/
structure RoundedAt (x : ℚ) (digits places : ℕ) : Prop where
  places_le : places ≤ maxScale
  near : |digits - x * 10 ^ places| ≤ 1 / 2
  needed : digits = x * 10 ^ places ∨ places = maxScale ∨ limit ≤ x * 10 ^ (places + 1)

namespace RoundedAt

variable {x : ℚ} {digits places : ℕ}

theorem digits_eq_zero (rounded : RoundedAt 0 digits places) : digits = 0 := by
  have near := rounded.near
  rw [zero_mul, sub_zero, Nat.abs_cast] at near
  by_contra nonzero
  have positive : ((1 : ℕ) : ℚ) ≤ digits := by exact_mod_cast Nat.one_le_iff_ne_zero.mpr nonzero
  rw [Nat.cast_one] at positive
  linarith

/-- Rounding that carries to the capacity gives up one more place. -/
theorem carry (fits : places < maxScale) (low : limit ≤ x * 10 ^ (places + 1))
    (high : x * 10 ^ (places + 1) < capacity) :
    RoundedAt x (roundHalfEven capacity 10) places := by
  have digits : roundHalfEven capacity 10 = 7922816251426433759354395034 := by decide
  refine ⟨fits.le, ?_, .inr (.inr low)⟩
  rw [digits, abs_le]
  rw [limit_eq] at low
  rw [capacity_eq] at high
  rw [pow_succ, ← mul_assoc] at low high
  constructor <;> norm_num <;> linarith

/-- One rounding moves a magnitude by at most one unit of the last place, or by that part of
the magnitude. -/
theorem abs_sub_le (rounded : RoundedAt x digits places) (nonneg : 0 ≤ x) :
    |digits / 10 ^ places - x| ≤ (1 + x) / 10 ^ maxScale := by
  have power : (0 : ℚ) < 10 ^ places := by positivity
  have moved : |digits / 10 ^ places - x| * 10 ^ places ≤ 1 / 2 := by
    rw [← abs_of_pos power, ← abs_mul, abs_of_pos power, sub_mul, div_mul_cancel₀ _ power.ne']
    exact rounded.near
  rcases rounded.needed with exactly | last | large
  · rw [exactly, mul_div_cancel_right₀ _ power.ne', sub_self, abs_zero]
    positivity
  · rw [last] at moved ⊢
    rw [le_div_iff₀ (by positivity)]
    linarith
  · rw [le_div_iff₀ (by norm_num [maxScale])]
    rw [limit_eq, pow_succ] at large
    have scaled : |digits / 10 ^ places - x| * 10 ^ maxScale * 10 ^ places ≤ x * 10 ^ places := by
      have size : (10 : ℚ) ^ maxScale = 10000000000000000000000000000 := by norm_num [maxScale]
      rw [size]
      linarith
    have bound := le_of_mul_le_mul_right scaled power
    linarith

/-- No decimal lies between a magnitude and a larger rounded one. -/
theorem le_of_le (rounded : RoundedAt x digits places) {c : Decimal} (above : x ≤ |c.toRat|) :
    digits / 10 ^ places ≤ |c.toRat| := by
  have power : (0 : ℚ) < 10 ^ places := by positivity
  rw [div_le_iff₀ power]
  by_cases coarse : c.scale ≤ places
  · obtain ⟨units, written⟩ := c.exists_magnitude coarse
    have near := (abs_le.mp rounded.near).2
    have scaled : x * 10 ^ places ≤ units := by rw [← written]; gcongr
    have below : (digits : ℚ) < (units + 1 : ℕ) := by
      rw [Nat.cast_succ]
      linarith
    rw [written]
    exact_mod_cast Nat.lt_succ_iff.mp (Nat.cast_lt.mp below)
  · rcases rounded.needed with exactly | last | large
    · rw [exactly]
      gcongr
    · exact absurd (last ▸ c.scale_le) coarse
    · have fine : |c.toRat| * 10 ^ (places + 1) ≤ capacity - 1 := c.abs_toRat_mul_le (by omega)
      have scaled : x * 10 ^ (places + 1) ≤ |c.toRat| * 10 ^ (places + 1) := by gcongr
      rw [limit] at large
      linarith

/-- No decimal lies between a magnitude and a smaller rounded one. -/
theorem ge_of_ge (rounded : RoundedAt x digits places) {c : Decimal} (below : |c.toRat| ≤ x) :
    |c.toRat| ≤ digits / 10 ^ places := by
  have power : (0 : ℚ) < 10 ^ places := by positivity
  rw [le_div_iff₀ power]
  by_cases coarse : c.scale ≤ places
  · obtain ⟨units, written⟩ := c.exists_magnitude coarse
    have near := (abs_le.mp rounded.near).1
    have scaled : units ≤ x * 10 ^ places := by rw [← written]; gcongr
    have above : (units : ℚ) < (digits + 1 : ℕ) := by
      rw [Nat.cast_succ]
      linarith
    rw [written]
    exact_mod_cast Nat.lt_succ_iff.mp (Nat.cast_lt.mp above)
  · rcases rounded.needed with exactly | last | large
    · rw [exactly]
      gcongr
    · exact absurd (last ▸ c.scale_le) coarse
    · have fine : |c.toRat| * 10 ^ (places + 1) ≤ capacity - 1 := c.abs_toRat_mul_le (by omega)
      have near := (abs_le.mp rounded.near).1
      rw [limit_eq, pow_succ] at large
      have many : 7922816251426433759354395034 ≤ digits := by
        have bound : ((7922816251426433759354395033 : ℕ) : ℚ) < digits := by push_cast; linarith
        exact_mod_cast bound
      have many : (7922816251426433759354395034 : ℚ) ≤ digits := by exact_mod_cast many
      rw [capacity_eq, pow_succ] at fine
      linarith

end RoundedAt

/-- `a` is the number `x` rounded once. -/
def Rounds (a : Decimal) (x : ℚ) : Prop :=
  ∃ digits places, RoundedAt |x| digits places ∧
    a.toRat = if x < 0 then -(digits / 10 ^ places : ℚ) else digits / 10 ^ places

namespace Rounds

variable {a c : Decimal} {x : ℚ}

theorem of_eq (same : a.toRat = x) : Rounds a x := by
  refine ⟨a.magnitude, a.scale, ⟨a.scale_le, ?_, .inl ?_⟩, ?_⟩
  · rw [← same, abs_toRat]
    simp
  · rw [← same, abs_toRat]
    simp
  · rw [← abs_toRat, same]
    split
    · rw [abs_of_neg ‹_›, neg_neg]
    · rw [abs_of_nonneg (not_lt.mp ‹_›)]

theorem neg (rounded : Rounds a x) : Rounds a.neg (-x) := by
  obtain ⟨digits, places, roundedAt, value⟩ := rounded
  refine ⟨digits, places, by rwa [abs_neg], ?_⟩
  rcases lt_trichotomy x 0 with negative | rfl | positive
  · rw [toRat_neg, value, if_pos negative, if_neg (by linarith), neg_neg]
  · rw [abs_zero] at roundedAt
    simp [value, roundedAt.digits_eq_zero]
  · rw [toRat_neg, value, if_neg (by linarith), if_pos (by linarith)]

theorem abs_sub_le (rounded : Rounds a x) : |a.toRat - x| ≤ (1 + |x|) / 10 ^ 28 := by
  obtain ⟨digits, places, roundedAt, value⟩ := rounded
  have moved := roundedAt.abs_sub_le (abs_nonneg x)
  rw [value]
  split
  case isTrue negative =>
    have turned : -(digits / 10 ^ places : ℚ) - x = -(digits / 10 ^ places - |x|) := by
      rw [abs_of_neg negative]
      ring
    rwa [turned, abs_neg]
  case isFalse nonneg =>
    rwa [abs_of_nonneg (not_lt.mp nonneg)] at moved ⊢

/-- Rounding keeps the order towards every decimal. -/
theorem le_of_le (rounded : Rounds a x) (above : x ≤ c.toRat) : a.toRat ≤ c.toRat := by
  obtain ⟨digits, places, roundedAt, value⟩ := rounded
  have nonneg : (0 : ℚ) ≤ digits / 10 ^ places := by positivity
  rw [value]
  split
  case isTrue negative =>
    rcases le_or_gt 0 c.toRat with positive | below
    · linarith
    · have reached := roundedAt.ge_of_ge (c := c) (by rw [abs_of_neg below, abs_of_neg negative]; linarith)
      rw [abs_of_neg below] at reached
      linarith
  case isFalse positive =>
    have positive := not_lt.mp positive
    have reached := roundedAt.le_of_le (c := c) (by rw [abs_of_nonneg positive]; exact above.trans (le_abs_self _))
    rwa [abs_of_nonneg (positive.trans above)] at reached

theorem ge_of_ge (rounded : Rounds a x) (below : c.toRat ≤ x) : c.toRat ≤ a.toRat := by
  have turned := rounded.neg.le_of_le (c := c.neg) (by rw [toRat_neg]; linarith)
  rw [toRat_neg, toRat_neg] at turned
  linarith

/-- A number that is a decimal is not moved. -/
theorem eq_of_eq (rounded : Rounds a x) (same : x = c.toRat) : a.toRat = x :=
  le_antisymm (by rw [same]; exact rounded.le_of_le same.le) (by rw [same]; exact rounded.ge_of_ge same.ge)

theorem eq_zero (rounded : Rounds a 0) : a.toRat = 0 := rounded.eq_of_eq toRat_zero.symm

theorem pos_of_add {b : Decimal} (rounded : Rounds a (b.toRat + c.toRat)) (positive : 0 < b.toRat + c.toRat) :
    0 < a.toRat :=
  lt_of_lt_of_le (by rw [toRat_unit]; norm_num) (rounded.ge_of_ge (unit_le_add positive))

theorem neg_of_add {b : Decimal} (rounded : Rounds a (b.toRat + c.toRat)) (negative : b.toRat + c.toRat < 0) :
    a.toRat < 0 := by
  have turned := rounded.neg
  rw [neg_add, ← toRat_neg, ← toRat_neg] at turned
  have positive := turned.pos_of_add (by rw [toRat_neg, toRat_neg]; linarith)
  rwa [toRat_neg, neg_pos] at positive

theorem pos_of_sub {b : Decimal} (rounded : Rounds a (b.toRat - c.toRat)) (less : c.toRat < b.toRat) :
    0 < a.toRat := by
  rw [sub_eq_add_neg, ← toRat_neg] at rounded
  exact rounded.pos_of_add (by rw [toRat_neg]; linarith)

theorem neg_of_sub {b : Decimal} (rounded : Rounds a (b.toRat - c.toRat)) (less : b.toRat < c.toRat) :
    a.toRat < 0 := by
  rw [sub_eq_add_neg, ← toRat_neg] at rounded
  exact rounded.neg_of_add (by rw [toRat_neg]; linarith)

theorem nonneg (rounded : Rounds a x) (nonneg : 0 ≤ x) : 0 ≤ a.toRat := by
  simpa using rounded.ge_of_ge (c := zero) (by simpa using nonneg)

end Rounds

theorem Rounds.of_parts {a : Decimal} {x : ℚ} (rounded : RoundedAt |x| a.magnitude a.scale)
    (below : x < 0 → a.negative = true) (above : 0 < x → a.negative = false) : Rounds a x := by
  refine ⟨a.magnitude, a.scale, rounded, ?_⟩
  rw [toRat_of_sign]
  rcases lt_trichotomy x 0 with negative | rfl | positive
  · rw [if_pos negative, if_pos (below negative)]
  · rw [abs_zero] at rounded
    simp [rounded.digits_eq_zero]
  · rw [if_neg (not_lt.mpr positive.le), above positive]
    simp

end TradeLedger.Decimal
