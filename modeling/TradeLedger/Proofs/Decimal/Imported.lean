import TradeLedger.Decimal.Binary
import TradeLedger.Proofs.Decimal.Value

/-! The size of imported numbers. Neither the change to tenths nor the rounding of digits takes a
number past a whole bound that it starts below, so every imported decimal is within the limit of
the ledger. -/
namespace TradeLedger.Decimal

attribute [local instance (high)] instPowNat

theorem toTenths_le (halvings : ℕ) : ∀ {significand bound : ℕ}, significand ≤ bound * 2 ^ halvings →
    (toTenths halvings significand).1 ≤ bound * 10 ^ (toTenths halvings significand).2 := by
  induction halvings with
  | zero =>
    intro significand bound small
    simpa [toTenths] using small
  | succ halvings ih =>
    intro significand bound small
    rw [Nat.pow_succ, ← Nat.mul_assoc] at small
    simp only [toTenths]
    split
    · exact ih (by omega)
    · have tenfold : (toTenths halvings (significand * 5)).1 ≤
          bound * 10 * 10 ^ (toTenths halvings (significand * 5)).2 := ih (by
        rw [Nat.mul_right_comm]
        omega)
      rw [Nat.mul_right_comm, Nat.mul_assoc, ← Nat.pow_succ] at tenfold
      exact tenfold

theorem roundDigits_le (places : ℕ) : ∀ {magnitude bound : ℕ}, magnitude ≤ bound * 10 ^ places →
    (roundDigits places magnitude).1 ≤ bound * 10 ^ (roundDigits places magnitude).2 := by
  induction places with
  | zero => exact fun small => small
  | succ places ih =>
    intro magnitude bound small
    simp only [roundDigits]
    split
    · exact small
    split
    · exact Nat.zero_le _
    · -- A digit that goes up leaves room below the bound, which ends in zero there.
      refine ih ?_
      rw [Nat.pow_succ, ← Nat.mul_assoc] at small
      generalize bound * 10 ^ places = scaled at *
      split <;> omega

theorem dropTrailingZeros_scaled (places : ℕ) : ∀ {magnitude bound : ℕ}, magnitude ≤ bound * 10 ^ places →
    (dropTrailingZeros magnitude places).1 ≤ bound * 10 ^ (dropTrailingZeros magnitude places).2 := by
  induction places with
  | zero => exact fun small => small
  | succ places ih =>
    intro magnitude bound small
    simp only [dropTrailingZeros]
    split
    · refine ih ?_
      rw [Nat.pow_succ, ← Nat.mul_assoc] at small
      omega
    · exact small

theorem partsOfWord_le {word bound : ℕ} (small : Binary64.units word ≤ bound * Binary64.unitsPerOne) :
    (partsOfWord word).1 ≤ bound * 10 ^ (partsOfWord word).2 := by
  refine dropTrailingZeros_scaled _ (roundDigits_le _ (toTenths_le _ ?_))
  rw [Binary64.units, Binary64.unitsPerOne] at small
  generalize 1074 = top at small ⊢
  rcases Nat.le_total (Binary64.doublings word) top with few | many
  · rw [← Nat.sub_add_cancel few, Nat.pow_add, ← Nat.mul_assoc] at small
    exact Nat.le_of_mul_le_mul_right small (Nat.pow_pos (by decide))
  · rw [Nat.sub_eq_zero_of_le many]
    have power : 2 ^ top ≤ 2 ^ Binary64.doublings word := Nat.pow_le_pow_right (by decide) many
    have scaled := (Nat.mul_le_mul_left (Binary64.significand word) power).trans small
    exact (Nat.le_of_mul_le_mul_right scaled (Nat.pow_pos (by decide))).trans (Nat.le_mul_of_pos_right _ (by decide))

/-- No imported number is past the limit of the ledger. -/
theorem abs_ofImported_le (raw : Option Binary64) : |(ofImported raw).toRat| ≤ 10 ^ 15 := by
  unfold ofImported
  split
  case h_1 negative word =>
    split
    case isTrue small =>
      have parts := partsOfWord_le small
      rw [abs_toRat, div_le_iff₀ (by positivity)]
      exact_mod_cast parts
    case isFalse => simp
  case h_2 => simp

/-- A decimal that is not zero is not below the smallest one. -/
theorem eq_zero_or_le_abs (a : Decimal) : a.toRat = 0 ∨ 1 / 10 ^ 28 ≤ |a.toRat| := by
  by_cases none : a.toRat = 0
  · exact .inl none
  · have least := unit_le_of_pos (a := a.abs) (by rw [toRat_abs]; exact abs_pos.mpr none)
    rw [toRat_abs, toRat_unit] at least
    exact .inr least

end TradeLedger.Decimal
