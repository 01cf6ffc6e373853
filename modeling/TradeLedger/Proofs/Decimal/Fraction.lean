import TradeLedger.Proofs.Decimal.Congruence
import TradeLedger.Proofs.Decimal.Quotient

/-! Quotients of counts. Long division finds the same digits for 1/3 and for 2/6, so equal fractions have one
quotient. Different fractions of counts lie further apart than quotients are moved by rounding, as long as the counts
are not too large. So the quotients are ordered as the fractions themselves. -/
namespace TradeLedger.Decimal

variable {k part whole part' whole' : ℕ} {share share' : Decimal}

/-- A dividend and a divisor that are both so many times as large have the same digits. -/
theorem divideFrom_mul (divisor digits rest room : ℕ) (positive : 0 < k) :
    divideFrom (divisor * k) digits (rest * k) room = divideFrom divisor digits rest room := by
  induction room using Nat.strong_induction_on generalizing digits rest with
  | h room ih =>
    have none : rest * k = 0 ↔ rest = 0 := by simp [positive.ne']
    have joined : ∀ digits rest, digits * (divisor * k) + rest * k = (digits * divisor + rest) * k := by
      intro digits rest
      ring
    have shifted : rest * k * 10 ^ nextBlock digits room = rest * 10 ^ nextBlock digits room * k := by ring
    have tenfold : 10 * (divisor * k) = 10 * divisor * k := by ring
    rw [divideFrom, divideFrom]
    simp only [none, joined, shifted, tenfold, roundHalfEven_mul_mul _ _ positive,
      Nat.mul_div_mul_right _ _ positive, Nat.mul_mod_mul_right]
    by_cases last : nextBlock digits room = 0
    · rw [dif_pos last, dif_pos last]
    · have fewer : room - nextBlock digits room < room := by
        have := nextBlock_le digits room
        omega
      rw [ih _ fewer]

theorem ofCount_isZero (nonzero : 0 < whole) : (ofCount whole).isZero = false := by
  rw [isZero, beq_eq_false_iff_ne]
  exact (Nat.lt_min.mpr ⟨nonzero, by decide⟩).ne'

theorem magnitude_ofCount (small : whole < capacity) : (ofCount whole).magnitude = whole :=
  Nat.min_eq_left (Nat.le_pred_of_lt small)

theorem toRat_ofCount_of_lt (small : whole < capacity) : (ofCount whole).toRat = whole := by
  rw [toRat_ofCount, show Nat.min whole (capacity - 1) = whole from magnitude_ofCount small]

/-- A fraction is divided like the same fraction in lower terms. -/
theorem div_ofCount_mul (positive : 0 < k) (smallPart : part * k < capacity) (smallWhole : whole * k < capacity) :
    (ofCount (part * k)).div (ofCount (whole * k)) = (ofCount part).div (ofCount whole) := by
  have lower : ∀ {n}, n * k < capacity → n < capacity := fun {n} small =>
    (Nat.le_mul_of_pos_right n positive).trans_lt small
  have none : ∀ n, n * k = 0 ↔ n = 0 := fun n => by simp [positive.ne']
  have noneOf : ∀ n, (n * k == 0) = (n == 0) := fun n => by rw [Bool.eq_iff_iff, beq_iff_eq, beq_iff_eq, none]
  simp only [div, quotient?, isZero, magnitude_ofCount smallPart, magnitude_ofCount smallWhole,
    magnitude_ofCount (lower smallPart), magnitude_ofCount (lower smallWhole), none, noneOf,
    Nat.mul_div_mul_right _ _ positive, Nat.mul_mod_mul_right, divideFrom_mul _ _ _ _ positive]
  rfl

/-- The largest count whose fractions are told apart. -/
def mostCounted : ℕ := 10 ^ 13

/-- A count out of another. -/
structure IsShare (share : Decimal) (part whole : ℕ) : Prop where
  divided : (ofCount part).div (ofCount whole) = .ok share
  positive : 0 < whole
  le : part ≤ whole
  few : whole ≤ mostCounted

namespace IsShare

/-- Counts that are not too large have products within the bounds of decimals. -/
theorem mul_lt_capacity (left : whole ≤ mostCounted) (right : whole' ≤ mostCounted) : whole * whole' < capacity :=
  (Nat.mul_le_mul left right).trans_lt (by decide)

/-- Equal fractions have one quotient. -/
theorem eq_of_mul_eq (own : IsShare share part whole) (other : IsShare share' part' whole')
    (equal : part * whole' = part' * whole) : share = share' := by
  have left := div_ofCount_mul other.positive (mul_lt_capacity (own.le.trans own.few) other.few)
    (mul_lt_capacity own.few other.few)
  have right := div_ofCount_mul own.positive (mul_lt_capacity (other.le.trans other.few) own.few)
    (mul_lt_capacity other.few own.few)
  rw [own.divided, equal, mul_comm whole, right, other.divided] at left
  exact (Except.ok.inj left).symm

/-- A share is within two units of the last place that there is. -/
theorem abs_sub_le (own : IsShare share part whole) : |share.toRat - part / whole| ≤ 2 / 10 ^ 28 := by
  have rounded := (div_computes (ofCount part) (ofCount_isZero own.positive)).rounds own.divided
  have small : ∀ {n}, n ≤ mostCounted → n < capacity := fun few => few.trans_lt (by decide)
  rw [toRat_ofCount_of_lt (small (own.le.trans own.few)), toRat_ofCount_of_lt (small own.few)] at rounded
  have positive : (0 : ℚ) < whole := by exact_mod_cast own.positive
  have atMost : |(part / whole : ℚ)| ≤ 1 := by
    rw [abs_of_nonneg (by positivity), div_le_one positive]
    exact_mod_cast own.le
  refine rounded.abs_sub_le.trans ?_
  gcongr
  linarith

/-- The smaller of two fractions has the smaller quotient, for the fractions differ by more than the quotients are
rounded. -/
theorem lt_of_mul_lt (own : IsShare share part whole) (other : IsShare share' part' whole')
    (less : part * whole' < part' * whole) : share.toRat < share'.toRat := by
  have positive : (0 : ℚ) < whole := by exact_mod_cast own.positive
  have positive' : (0 : ℚ) < whole' := by exact_mod_cast other.positive
  have product : (whole * whole' : ℚ) ≤ 10 ^ 26 := by
    have few := Nat.mul_le_mul own.few other.few
    exact_mod_cast few
  have apart : (1 / 10 ^ 26 : ℚ) ≤ part' / whole' - part / whole := by
    have crossed : (part * whole' + 1 : ℚ) ≤ part' * whole := by exact_mod_cast less
    rw [div_sub_div _ _ positive'.ne' positive.ne', div_le_div_iff₀ (by positivity) (by positivity)]
    nlinarith
  have near := abs_le.mp own.abs_sub_le
  have near' := abs_le.mp other.abs_sub_le
  have tiny : (2 / 10 ^ 28 + 2 / 10 ^ 28 : ℚ) < 1 / 10 ^ 26 := by norm_num
  linarith

/-- Shares are ordered as the fractions that they round. -/
theorem le_iff (own : IsShare share part whole) (other : IsShare share' part' whole') :
    share.toRat ≤ share'.toRat ↔ part * whole' ≤ part' * whole := by
  rcases lt_trichotomy (part * whole') (part' * whole) with less | equal | greater
  · exact iff_of_true (own.lt_of_mul_lt other less).le less.le
  · exact iff_of_true (own.eq_of_mul_eq other equal ▸ le_rfl) equal.le
  · exact iff_of_false (other.lt_of_mul_lt own greater).not_ge greater.not_ge

end IsShare

end TradeLedger.Decimal
