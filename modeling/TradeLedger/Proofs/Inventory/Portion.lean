import TradeLedger.Inventory.Holding
import TradeLedger.Proofs.Decimal.Quotient
import TradeLedger.Proofs.Fault

/-! Portions of a cost and of an amount. A sale takes the average cost of the shares it sells
and a trade across zero splits its amount between the shares on either side. Both go through a
quotient and a product, so a portion is rounded twice; it stays within a few parts in `10 ^ 28`
of the exact one, and a portion of an amount never exceeds the amount if its product is exact. -/
namespace TradeLedger

open Decimal

/-- The part of an amount that falls on `part` of `whole` shares. -/
def prorate (amount part whole : Decimal) : Except Fault Decimal := do
  (← amount.mul part).div whole

/-- The part of a holding's cost that falls on `part` of its shares, at the average. -/
def Holding.basisOf (holding : Holding) (part : Decimal) : Except Fault Decimal := do
  ((← holding.averageCost).getD .zero).mul part

/-- The cost per share before any rounding. -/
def Holding.price (holding : Holding) : ℚ := holding.cost.toRat / |holding.shares.toRat|

theorem Holding.isFlat_eq_false {holding : Holding} (held : holding.shares.toRat ≠ 0) :
    holding.isFlat = false := isZero_eq_false_iff.mpr held

theorem Holding.basisOf_eq {holding : Holding} (held : holding.shares.toRat ≠ 0) (part : Decimal) :
    holding.basisOf part = (do (← holding.cost.div holding.shares.abs).mul part) := by
  rw [basisOf, averageCost, if_neg (by simp [isFlat_eq_false held])]
  cases holding.cost.div holding.shares.abs <;> rfl

/-- What two roundings leave of `x * factor`, when `x` is rounded before and the product after. -/
theorem rounded_twice_near {x factor : ℚ} {first second : Decimal} (nonneg : 0 ≤ factor) (before : Rounds first x)
    (after : Rounds second (first.toRat * factor)) :
    |second.toRat - x * factor| ≤ (1 + 2 * factor + 3 * (|x| * factor)) / 10 ^ 28 := by
  have early := before.abs_sub_le
  have late := after.abs_sub_le
  rw [le_div_iff₀ (by positivity)] at early late ⊢
  have moved : |first.toRat - x| * factor * 10 ^ 28 ≤ factor + |x| * factor := by
    linarith [mul_le_mul_of_nonneg_right early nonneg]
  have size : |first.toRat * factor| ≤ |x| * factor + |first.toRat - x| * factor := by
    rw [abs_mul, abs_of_nonneg nonneg, ← add_mul]
    refine mul_le_mul_of_nonneg_right ?_ nonneg
    have triangle := abs_add_le x (first.toRat - x)
    rwa [add_sub_cancel] at triangle
  have sum : |second.toRat - x * factor| ≤ |second.toRat - first.toRat * factor| + |first.toRat - x| * factor := by
    have triangle := abs_sub_le second.toRat (first.toRat * factor) (x * factor)
    rwa [← sub_mul, abs_mul (first.toRat - x), abs_of_nonneg nonneg] at triangle
  have product : 0 ≤ |x| * factor := by positivity
  linarith

section Basis

variable {holding : Holding} {part basis : Decimal}

theorem Holding.average_computes (held : holding.shares.toRat ≠ 0) :
    Computes (holding.cost.div holding.shares.abs) holding.price (.overflow .division) := by
  have computes := div_computes holding.cost (b := holding.shares.abs) (by
    rw [isZero_eq_false_iff, toRat_abs]
    exact abs_ne_zero.mpr held)
  rwa [toRat_abs] at computes

theorem Holding.basisOf_rounds (held : holding.shares.toRat ≠ 0) (ran : holding.basisOf part = .ok basis) :
    ∃ average : Decimal, Rounds average holding.price ∧ Rounds basis (average.toRat * part.toRat) := by
  rw [basisOf_eq held, bind_eq_ok] at ran
  obtain ⟨average, divided, multiplied⟩ := ran
  exact ⟨average, (average_computes held).rounds divided, (mul_computes average part).rounds multiplied⟩

/-- The average cost of at most all shares is at most the whole cost. -/
private theorem abs_average_mul_le (few : part.toRat ≤ |holding.shares.toRat|) :
    |holding.price| * part.toRat ≤ |holding.cost.toRat| := by
  rw [Holding.price, abs_div, abs_abs, div_mul_eq_mul_div]
  exact div_le_of_le_mul₀ (abs_nonneg _) (abs_nonneg _) (mul_le_mul_of_nonneg_left few (abs_nonneg _))

/-- A basis is the cost in proportion to the shares. -/
theorem Holding.basisOf_near (held : holding.shares.toRat ≠ 0) (nonneg : 0 ≤ part.toRat)
    (few : part.toRat ≤ |holding.shares.toRat|) (ran : holding.basisOf part = .ok basis) :
    |basis.toRat - holding.cost.toRat * (part.toRat / |holding.shares.toRat|)| ≤
      (1 + 2 * part.toRat + 3 * |holding.cost.toRat|) / 10 ^ 28 := by
  obtain ⟨average, averageRounds, basisRounds⟩ := basisOf_rounds held ran
  have near := rounded_twice_near nonneg averageRounds basisRounds
  have size : |holding.price| * part.toRat ≤ |holding.cost.toRat| := abs_average_mul_le few
  have same : holding.price * part.toRat = holding.cost.toRat * (part.toRat / |holding.shares.toRat|) := by
    rw [price, div_mul_eq_mul_div, mul_div_assoc]
  rw [same] at near
  refine near.trans (div_le_div_of_nonneg_right ?_ (by positivity))
  linarith

/-- A basis can be taken exactly if the average cost is below the limit. -/
theorem Holding.basisOf_exists (held : holding.shares.toRat ≠ 0) (nonneg : 0 ≤ part.toRat)
    (few : part.toRat ≤ |holding.shares.toRat|) (sharesFit : |holding.shares.toRat| ≤ 3 * 10 ^ 28)
    (costFits : |holding.cost.toRat| ≤ 10 ^ 28)
    (below : |holding.price| < limit) :
    ∃ basis, holding.basisOf part = .ok basis := by
  obtain ⟨average, divided, rounded⟩ := (average_computes held).exists_ok below
  have size : |holding.price| * part.toRat ≤ |holding.cost.toRat| := abs_average_mul_le few
  have moved := rounded.abs_sub_le
  rw [le_div_iff₀ (by positivity)] at moved
  have product : |average.toRat * part.toRat| < limit := by
    have triangle := abs_add_le holding.price (average.toRat - holding.price)
    rw [add_sub_cancel] at triangle
    have scaled := mul_le_mul_of_nonneg_right triangle nonneg
    have shifted := mul_le_mul_of_nonneg_right moved nonneg
    rw [abs_mul, abs_of_nonneg nonneg, limit_eq]
    linarith
  obtain ⟨basis, multiplied, _⟩ := (mul_computes average part).exists_ok product
  exact ⟨basis, by rw [basisOf_eq held, divided, ok_bind, multiplied]⟩

theorem Holding.basisOf_overflows (held : holding.shares.toRat ≠ 0) (part : Decimal)
    (large : limit ≤ |holding.price|) :
    holding.basisOf part = .error (.overflow .division) := by
  rw [basisOf_eq held, (average_computes held).eq_error large, error_bind]

end Basis

section Prorate

variable {amount part whole share : Decimal}

theorem prorate_rounds (positive : 0 < whole.toRat) (ran : prorate amount part whole = .ok share) :
    ∃ product, amount.mul part = .ok product ∧ Rounds product (amount.toRat * part.toRat) ∧
      Rounds share (product.toRat / whole.toRat) := by
  rw [prorate, bind_eq_ok] at ran
  obtain ⟨product, multiplied, divided⟩ := ran
  exact ⟨product, multiplied, (mul_computes amount part).rounds multiplied,
    (div_computes product (isZero_eq_false_iff.mpr positive.ne')).rounds divided⟩

private theorem abs_mul_div_le (positive : 0 < whole.toRat) (nonneg : 0 ≤ part.toRat)
    (few : part.toRat ≤ whole.toRat) : |amount.toRat * part.toRat| / whole.toRat ≤ |amount.toRat| := by
  rw [abs_mul, abs_of_nonneg nonneg, div_le_iff₀ positive]
  exact mul_le_mul_of_nonneg_left few (abs_nonneg _)

/-- A share of an amount is the amount in proportion. -/
theorem prorate_near (positive : 0 < whole.toRat) (nonneg : 0 ≤ part.toRat)
    (few : part.toRat ≤ whole.toRat) (ran : prorate amount part whole = .ok share) :
    |share.toRat - amount.toRat * (part.toRat / whole.toRat)| ≤
      (1 + 2 / whole.toRat + 3 * |amount.toRat|) / 10 ^ 28 := by
  obtain ⟨product, _, productRounds, shareRounds⟩ := prorate_rounds positive ran
  rw [div_eq_mul_inv] at shareRounds
  have near := rounded_twice_near (inv_nonneg.mpr positive.le) productRounds shareRounds
  simp only [← div_eq_mul_inv] at near
  have size : |amount.toRat * part.toRat| / whole.toRat ≤ |amount.toRat| :=
    abs_mul_div_le positive nonneg few
  rw [mul_div_assoc] at near
  refine near.trans (div_le_div_of_nonneg_right ?_ (by positivity))
  linarith

/-- If the product is not rounded, no share is more than the whole amount. -/
theorem prorate_le (positive : 0 < whole.toRat) (few : part.toRat ≤ whole.toRat)
    (amountNonneg : 0 ≤ amount.toRat) (ran : prorate amount part whole = .ok share)
    (unrounded : IsExact (amount.mul part) (amount.toRat * part.toRat)) :
    share.toRat ≤ amount.toRat := by
  obtain ⟨product, multiplied, _, shareRounds⟩ := prorate_rounds positive ran
  refine shareRounds.le_of_le ?_
  rw [unrounded.toRat_eq multiplied, div_le_iff₀ positive]
  exact mul_le_mul_of_nonneg_left few amountNonneg

/-- A share can be taken exactly if the product is below the limit. -/
theorem prorate_exists (large : 1 / 10 ^ 28 ≤ whole.toRat) (nonneg : 0 ≤ part.toRat)
    (few : part.toRat ≤ whole.toRat) (amountFits : |amount.toRat| ≤ 10 ^ 28)
    (below : |amount.toRat * part.toRat| < limit) : ∃ share, prorate amount part whole = .ok share := by
  have positive : 0 < whole.toRat := lt_of_lt_of_le (by positivity) large
  obtain ⟨product, multiplied, rounded⟩ := (mul_computes amount part).exists_ok below
  have size : |amount.toRat * part.toRat| / whole.toRat ≤ |amount.toRat| :=
    abs_mul_div_le positive nonneg few
  have moved := rounded.abs_sub_le
  have quotient : |product.toRat / whole.toRat| < limit := by
    have triangle := abs_add_le (amount.toRat * part.toRat) (product.toRat - amount.toRat * part.toRat)
    rw [add_sub_cancel] at triangle
    rw [div_le_iff₀ positive] at size
    rw [le_div_iff₀ (by positivity)] at moved
    rw [div_le_iff₀ (by positivity)] at large
    rw [abs_div, abs_of_pos positive, div_lt_iff₀ positive, limit_eq]
    nlinarith [mul_le_mul_of_nonneg_right amountFits positive.le]
  obtain ⟨share, divided, _⟩ :=
    (div_computes product (isZero_eq_false_iff.mpr positive.ne')).exists_ok quotient
  exact ⟨share, by rw [prorate, multiplied, ok_bind, divided]⟩

theorem prorate_overflows (whole : Decimal) (large : limit ≤ |amount.toRat * part.toRat|) :
    prorate amount part whole = .error (.overflow .multiplication) := by
  rw [prorate, (mul_computes amount part).eq_error large, error_bind]

end Prorate

end TradeLedger
