import TradeLedger.Proofs.Inventory.Posting

/-! How far one posting goes. When holding and line leave room, every rounding of the posting
moves its figure by at most a fixed error. The profit and the new cost then come out of the old
cost and the amount of the line, so that together they do not grow by more than the amount. -/
namespace TradeLedger

open Decimal

theorem abs_le_add_of_near {x y e : ℚ} (near : |x - y| ≤ e) : |x| ≤ |y| + e := by
  have triangle := abs_add_le (x - y) y
  rw [sub_add_cancel] at triangle
  linarith

/-- `part` is a part of `whole`, up to an error of `e`. -/
def NearPart (e whole part : ℚ) : Prop := ∃ ratio, 0 ≤ ratio ∧ ratio ≤ 1 ∧ |part - whole * ratio| ≤ e

namespace NearPart

variable {e whole part : ℚ}

/-- A part and the rest are together no larger than the whole. -/
theorem abs_add_abs_le (near : NearPart e whole part) : |part| + |whole - part| ≤ |whole| + 2 * e := by
  obtain ⟨ratio, nonneg, le_one, near⟩ := near
  have here := abs_le_add_of_near near
  have there : |whole - part| ≤ |whole - whole * ratio| + e := by
    refine abs_le_add_of_near ?_
    rwa [sub_sub_sub_cancel_left, abs_sub_comm]
  have whole_eq : |whole * ratio| + |whole - whole * ratio| = |whole| := by
    rw [← mul_one_sub, abs_mul, abs_mul, abs_of_nonneg nonneg, abs_of_nonneg (sub_nonneg.mpr le_one)]
    ring
  linarith

/-- What is left of a whole above `-m` is above `-m`. -/
theorem neg_le_sub {m : ℚ} (near : NearPart e whole part) (nonneg : 0 ≤ m) (above : -m ≤ whole) :
    -(m + e) ≤ whole - part := by
  obtain ⟨ratio, positive, le_one, near⟩ := near
  have moved := (abs_le.mp near).2
  have rest : -m ≤ whole * (1 - ratio) := by nlinarith
  linarith

end NearPart

/-- The figures of a holding and a line are small enough, and the quantity large enough, for every
rounding of the posting to stay within an error of `e`. -/
structure Calm (e : ℚ) (before : Holding) (quantity amount : Decimal) : Prop where
  small : e ≤ 3
  room : 20 + 2 / |quantity.toRat| + 2 * |quantity.toRat| + |before.shares.toRat| +
    3 * |before.cost.toRat| + 3 * |amount.toRat| ≤ e * 10 ^ 28

namespace Calm

variable {e : ℚ} {before : Holding} {quantity amount part : Decimal}

theorem nonneg (calm : Calm e before quantity amount) : 0 ≤ e := by
  have room := calm.room
  have quotient : 0 ≤ 2 / |quantity.toRat| := by positivity
  have sizes := abs_nonneg before.shares.toRat
  have sizes' := abs_nonneg before.cost.toRat
  linarith [abs_nonneg quantity.toRat, abs_nonneg amount.toRat]

theorem close (calm : Calm e before quantity amount) {a : Decimal} {x : ℚ} (rounded : Rounds a x)
    (size : |x| ≤ 19 + |quantity.toRat| + |before.shares.toRat| + |before.cost.toRat| + |amount.toRat|) :
    |a.toRat - x| ≤ e := by
  have room := calm.room
  have moved := rounded.abs_sub_le
  have quotient : 0 ≤ 2 / |quantity.toRat| := by positivity
  refine moved.trans ?_
  rw [div_le_iff₀ (by positivity)]
  linarith [abs_nonneg quantity.toRat, abs_nonneg amount.toRat, abs_nonneg before.cost.toRat]

/-- Such a figure is below the limit of decimals. -/
theorem below (calm : Calm e before quantity amount) {x : ℚ}
    (size : |x| ≤ 19 + |quantity.toRat| + |before.shares.toRat| + |before.cost.toRat| + |amount.toRat|) :
    |x| < limit := by
  have room := calm.room
  have small := calm.small
  have quotient : 0 ≤ 2 / |quantity.toRat| := by positivity
  rw [limit_eq]
  linarith [abs_nonneg quantity.toRat, abs_nonneg amount.toRat, abs_nonneg before.cost.toRat]

section Part

variable {basis whole share : Decimal} (part_eq : part.toRat = min |quantity.toRat| |before.shares.toRat|)
include part_eq

theorem basis_near (calm : Calm e before quantity amount) (held : before.shares.toRat ≠ 0)
    (average : before.basisOf part = .ok basis) :
    |basis.toRat - before.cost.toRat * (part.toRat / |before.shares.toRat|)| ≤ e := by
  have room := calm.room
  have positive : 0 ≤ part.toRat := by rw [part_eq]; positivity
  have few : part.toRat ≤ |before.shares.toRat| := part_eq ▸ min_le_right ..
  have traded : part.toRat ≤ |quantity.toRat| := part_eq ▸ min_le_left ..
  have quotient : 0 ≤ 2 / |quantity.toRat| := by positivity
  refine (Holding.basisOf_near held positive few average).trans ?_
  rw [div_le_iff₀ (by positivity)]
  linarith [abs_nonneg before.shares.toRat, abs_nonneg amount.toRat]

theorem basis_part (calm : Calm e before quantity amount) (held : before.shares.toRat ≠ 0)
    (average : before.basisOf part = .ok basis) : NearPart e before.cost.toRat basis.toRat := by
  refine ⟨part.toRat / |before.shares.toRat|, ?_, ?_, calm.basis_near part_eq held average⟩
  · rw [part_eq]
    positivity
  · exact div_le_one_of_le₀ (part_eq ▸ min_le_right ..) (abs_nonneg _)

theorem basis_whole (calm : Calm e before quantity amount) (held : before.shares.toRat ≠ 0)
    (all : |before.shares.toRat| ≤ |quantity.toRat|) (average : before.basisOf part = .ok basis) :
    |basis.toRat - before.cost.toRat| ≤ e := by
  have near := calm.basis_near part_eq held average
  rwa [part_eq, min_eq_right all, div_self (abs_ne_zero.mpr held), mul_one] at near

theorem share_near (calm : Calm e before quantity amount) (same : |whole.toRat| = |amount.toRat|)
    (traded : 0 < |quantity.toRat|) (split : prorate whole part quantity.abs = .ok share) :
    |share.toRat - whole.toRat * (part.toRat / |quantity.toRat|)| ≤ e := by
  have room := calm.room
  have positive : 0 ≤ part.toRat := by rw [part_eq]; positivity
  have few : part.toRat ≤ |quantity.toRat| := part_eq ▸ min_le_left ..
  have near := prorate_near (by rwa [toRat_abs]) positive (by rwa [toRat_abs]) split
  rw [toRat_abs, same] at near
  refine near.trans ?_
  rw [div_le_iff₀ (by positivity)]
  linarith [abs_nonneg before.shares.toRat, abs_nonneg before.cost.toRat]

theorem share_part (calm : Calm e before quantity amount) (same : |whole.toRat| = |amount.toRat|)
    (traded : 0 < |quantity.toRat|) (split : prorate whole part quantity.abs = .ok share) :
    NearPart e whole.toRat share.toRat := by
  refine ⟨part.toRat / |quantity.toRat|, ?_, ?_, calm.share_near part_eq same traded split⟩
  · rw [part_eq]
    positivity
  · exact div_le_one_of_le₀ (part_eq ▸ min_le_left ..) (abs_nonneg _)

theorem share_whole (calm : Calm e before quantity amount) (same : |whole.toRat| = |amount.toRat|)
    (traded : 0 < |quantity.toRat|) (all : |quantity.toRat| ≤ |before.shares.toRat|)
    (split : prorate whole part quantity.abs = .ok share) : |share.toRat - whole.toRat| ≤ e := by
  have near := calm.share_near part_eq same traded split
  rwa [part_eq, min_eq_left all, div_self traded.ne', mul_one] at near

end Part

end Calm

namespace Holding

/-- The number that a line realizes; zero if it realizes nothing. -/
def gain (profit : Option Decimal) : ℚ := profit.elim 0 toRat

@[simp] theorem gain_none : gain none = 0 := rfl

@[simp] theorem gain_some (pnl : Decimal) : gain (some pnl) = pnl.toRat := rfl

namespace Posting

variable {policy : ShortSales} {before after : Holding} {quantity amount part : Decimal} {action : Action}
  {profit : Option Decimal} {e : ℚ}

theorem part_of_cover (owed : before.shares.toRat < 0) (part_eq : part = quantity.abs.min before.shares.neg) :
    part.toRat = min |quantity.toRat| |before.shares.toRat| := by
  rw [part_eq, toRat_min, toRat_abs, toRat_neg, abs_of_neg owed]

theorem part_of_sale (owned : 0 < before.shares.toRat) (part_eq : part = quantity.abs.min before.shares) :
    part.toRat = min |quantity.toRat| |before.shares.toRat| := by
  rw [part_eq, toRat_min, toRat_abs, abs_of_pos owned]

section Parts

variable {basis paid backing pnl : Decimal}

/-- A covering purchase takes its part of the proceeds for its part of the cost, and realizes what
lies between them. -/
theorem cover_parts (calm : Calm e before quantity amount) (traded : 0 < |quantity.toRat|)
    (owed : before.shares.toRat < 0) (part_eq : part = quantity.abs.min before.shares.neg)
    (average : before.basisOf part = .ok basis) (share : prorate amount.abs part quantity.abs = .ok paid)
    (realized : Rounds pnl (basis.toRat - paid.toRat)) :
    NearPart e before.cost.toRat basis.toRat ∧ NearPart e |amount.toRat| paid.toRat ∧
      |pnl.toRat - (basis.toRat - paid.toRat)| ≤ e := by
  have part_eq := part_of_cover owed part_eq
  have near := calm.basis_part part_eq owed.ne average
  have paidNear := calm.share_part part_eq (by rw [toRat_abs, abs_abs]) traded share
  rw [toRat_abs] at paidNear
  have basisParts := near.abs_add_abs_le
  have paidParts := paidNear.abs_add_abs_le
  rw [abs_abs] at paidParts
  refine ⟨near, paidNear, calm.close realized ?_⟩
  linarith [calm.small, abs_sub basis.toRat paid.toRat, abs_nonneg (before.cost.toRat - basis.toRat),
    abs_nonneg (|amount.toRat| - paid.toRat), abs_nonneg quantity.toRat, abs_nonneg before.shares.toRat]

/-- A sale takes its part of the cost, and realizes what its amount is more than that. -/
theorem sale_parts (calm : Calm e before quantity amount) (owned : 0 < before.shares.toRat)
    (part_eq : part = quantity.abs.min before.shares) (average : before.basisOf part = .ok basis)
    (realized : Rounds pnl (amount.toRat - basis.toRat)) :
    NearPart e before.cost.toRat basis.toRat ∧ |pnl.toRat - (amount.toRat - basis.toRat)| ≤ e := by
  have near := calm.basis_part (part_of_sale owned part_eq) owned.ne' average
  have basisParts := near.abs_add_abs_le
  refine ⟨near, calm.close realized ?_⟩
  linarith [calm.small, abs_sub amount.toRat basis.toRat, abs_nonneg (before.cost.toRat - basis.toRat),
    abs_nonneg quantity.toRat, abs_nonneg before.shares.toRat]

/-- A sale through a long position takes all of its cost for a part of the amount; the rest of the
amount backs the short position. -/
theorem through_parts (calm : Calm e before quantity amount) (owned : 0 < before.shares.toRat)
    (beyond : before.shares.toRat < |quantity.toRat|) (part_eq : part = quantity.abs.min before.shares)
    (average : before.basisOf part = .ok basis) (share : prorate amount part quantity.abs = .ok paid)
    (rest : Rounds backing (amount.toRat - paid.toRat)) (realized : Rounds pnl (paid.toRat - basis.toRat)) :
    NearPart e before.cost.toRat basis.toRat ∧ NearPart e amount.toRat paid.toRat ∧
      |backing.toRat - (amount.toRat - paid.toRat)| ≤ e ∧ |pnl.toRat - (paid.toRat - basis.toRat)| ≤ e := by
  have part_eq := part_of_sale owned part_eq
  have near := calm.basis_part part_eq owned.ne' average
  have paidNear := calm.share_part part_eq rfl (owned.trans beyond) share
  have basisParts := near.abs_add_abs_le
  have paidParts := paidNear.abs_add_abs_le
  have restBasis := abs_nonneg (before.cost.toRat - basis.toRat)
  refine ⟨near, paidNear, calm.close rest ?_, calm.close realized ?_⟩
  · linarith [calm.small, abs_nonneg paid.toRat, abs_nonneg basis.toRat, abs_nonneg quantity.toRat,
      abs_nonneg before.shares.toRat]
  · linarith [calm.small, abs_sub paid.toRat basis.toRat, abs_nonneg (amount.toRat - paid.toRat),
      abs_nonneg quantity.toRat, abs_nonneg before.shares.toRat]

end Parts

/-- The shares change by no more than the quantity. -/
theorem abs_shares_le (posting : Posting policy before quantity amount action after profit)
    (calm : Calm e before quantity amount) :
    |after.shares.toRat| ≤ |before.shares.toRat| + |quantity.toRat| + e := by
  have nonneg := calm.nonneg
  have moved : ∀ {x : ℚ}, |x| ≤ |before.shares.toRat| + |quantity.toRat| → Rounds after.shares x →
      |after.shares.toRat| ≤ |before.shares.toRat| + |quantity.toRat| + e := by
    intro x size rounded
    have near := calm.close rounded (by linarith [abs_nonneg before.cost.toRat, abs_nonneg amount.toRat])
    linarith [abs_le_add_of_near near]
  have added := abs_add_le before.shares.toRat |quantity.toRat|
  have taken := abs_sub before.shares.toRat |quantity.toRat|
  have stays : 0 ≤ |before.shares.toRat| + |quantity.toRat| + e := by positivity
  rw [abs_abs] at added taken
  cases posting with
  | idle => linarith [abs_nonneg quantity.toRat]
  | bought traded covers shares cost => exact moved added shares
  | covered traded tracked owed part_eq average share left realized =>
    cases left with
    | short part shares owed rest cost => exact moved added shares
    | closed whole shares cost => rwa [shares, abs_zero]
    | turned beyond shares owned cost => exact moved added shares
  | sold sale traded owned part_eq enough average left realized =>
    cases left with
    | long part shares owned rest cost => exact moved taken shares
    | closed whole shares cost => rwa [shares, abs_zero]
  | soldThrough sale tracked owned part_eq beyond average share shares owed rest cost realized =>
    exact moved taken shares
  | proceeds => linarith [abs_nonneg quantity.toRat]
  | shorted sale traded tracked unowned shares owed cost => exact moved taken shares

/-- What is left of a cost, when it may not be below zero. -/
theorem abs_rest_le (calm : Calm e before quantity amount) {basis remaining : Decimal}
    (near : NearPart e before.cost.toRat basis.toRat)
    (rest : Rounds remaining (before.cost.toRat - basis.toRat)) :
    |max remaining.toRat 0| ≤ |before.cost.toRat - basis.toRat| + e := by
  have small := calm.small
  have parts := near.abs_add_abs_le
  have sizes := abs_nonneg basis.toRat
  have close := calm.close rest (by
    linarith [abs_nonneg quantity.toRat, abs_nonneg before.shares.toRat, abs_nonneg amount.toRat])
  refine le_trans ?_ (abs_le_add_of_near close)
  rcases le_total remaining.toRat 0 with below | above
  · rw [max_eq_right below, abs_zero]
    exact abs_nonneg _
  · rw [max_eq_left above]

/-- Profit and cost together come out of the cost before and the amount. -/
theorem abs_gain_add_cost_le (posting : Posting policy before quantity amount action after profit)
    (calm : Calm e before quantity amount) :
    |gain profit| + |after.cost.toRat| ≤ |before.cost.toRat| + |amount.toRat| + 7 * e := by
  have small := calm.small
  have nonneg := calm.nonneg
  have quantities := abs_nonneg quantity.toRat
  have shares' := abs_nonneg before.shares.toRat
  have amounts := abs_nonneg amount.toRat
  have costs := abs_nonneg before.cost.toRat
  have added := abs_add_le before.cost.toRat |amount.toRat|
  rw [abs_abs] at added
  cases posting with
  | idle =>
    rw [gain_none, abs_zero]
    linarith
  | bought traded covers shares cost =>
    have close := abs_le_add_of_near (calm.close cost (by linarith))
    rw [gain_none, abs_zero]
    linarith
  | @covered _ _ basis paid pnl traded tracked owed part_eq average share left realized =>
    obtain ⟨near, paidNear, close⟩ := cover_parts calm traded owed part_eq average share realized
    have basisParts := near.abs_add_abs_le
    have paidParts := paidNear.abs_add_abs_le
    rw [abs_abs] at paidParts
    have restPaid := abs_nonneg (|amount.toRat| - paid.toRat)
    have restBasis := abs_nonneg (before.cost.toRat - basis.toRat)
    have difference := abs_sub basis.toRat paid.toRat
    have close := abs_le_add_of_near close
    rw [gain_some]
    cases left with
    | short part shares owed rest cost =>
      have kept := abs_rest_le calm near rest
      rw [cost]
      linarith
    | closed whole shares cost =>
      rw [cost, abs_zero]
      linarith
    | turned beyond shares owned cost =>
      have opened := abs_le_add_of_near (calm.close cost (by linarith [abs_nonneg paid.toRat]))
      linarith
  | @sold _ _ _ basis pnl sale traded owned part_eq enough average left realized =>
    obtain ⟨near, close⟩ := sale_parts calm owned part_eq average realized
    have basisParts := near.abs_add_abs_le
    have restBasis := abs_nonneg (before.cost.toRat - basis.toRat)
    have difference := abs_sub amount.toRat basis.toRat
    have close := abs_le_add_of_near close
    rw [gain_some]
    cases left with
    | long part shares owned rest cost =>
      have kept := abs_rest_le calm near rest
      rw [cost]
      linarith
    | closed whole shares cost =>
      rw [cost, abs_zero]
      linarith
  | @soldThrough _ _ _ basis closing backing pnl sale tracked owned part_eq beyond average share shares owed rest cost
      realized =>
    obtain ⟨near, closingNear, backed, close⟩ := through_parts calm owned beyond part_eq average share rest realized
    have basisParts := near.abs_add_abs_le
    have closingParts := closingNear.abs_add_abs_le
    have restBasis := abs_nonneg (before.cost.toRat - basis.toRat)
    have difference := abs_sub closing.toRat basis.toRat
    have close := abs_le_add_of_near close
    have backed := abs_le_add_of_near backed
    rw [gain_some, cost, abs_abs]
    linarith
  | proceeds =>
    rw [gain_some]
    linarith
  | shorted sale traded tracked unowned shares owed cost =>
    have close := abs_le_add_of_near (calm.close cost (by linarith))
    rw [gain_none, abs_zero]
    linarith

end Posting

end Holding

end TradeLedger
