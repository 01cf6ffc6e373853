import TradeLedger.Ledger.Line
import TradeLedger.Proofs.Decimal.Imported
import TradeLedger.Proofs.Inventory.Bound

/-! The postings that overflow. Where holding and line leave room every sum and difference of a
posting is a decimal, but the cost per share and the product that splits an amount may be too
large: a line is strained at a holding if one of them is, and exactly then it cannot be posted. -/
namespace TradeLedger

open Decimal

/-- Whether the fault is a quotient or a product that no decimal holds. -/
def Fault.ofScaling (fault : Fault) : Prop := fault = .overflow .division ∨ fault = .overflow .multiplication

namespace Holding

/-- Posting the line to the holding takes a cost per share or a product of its amount that no
decimal holds. -/
def Strained (policy : ShortSales) (holding : Holding) (line : LedgerLine) : Prop :=
  line.quantity.toRat ≠ 0 ∧
    ((line.action = .buy ∧ policy = .trackInventory ∧ holding.shares.toRat < 0 ∧
        (limit ≤ |holding.price| ∨
          limit ≤ |line.amount.toRat| * min |line.quantity.toRat| |holding.shares.toRat|)) ∨
      (line.action.isSale = true ∧ 0 < holding.shares.toRat ∧
        (limit ≤ |holding.price| ∨
          (policy = .trackInventory ∧ holding.shares.toRat < |line.quantity.toRat| ∧
            limit ≤ |line.amount.toRat| * holding.shares.toRat))))

instance (policy : ShortSales) (holding : Holding) (line : LedgerLine) :
    Decidable (holding.Strained policy line) :=
  inferInstanceAs (Decidable (_ ∧ _))

variable {policy : ShortSales} {before : Holding} {quantity amount : Decimal} {e : ℚ}

theorem settle_shares (holding : Holding) : holding.settle.shares = holding.shares := by
  rw [settle]
  split <;> rfl

theorem abs_settle_cost_le (holding : Holding) : |holding.settle.cost.toRat| ≤ |holding.cost.toRat| := by
  rw [settle]
  split
  · rw [toRat_zero, abs_zero]
    exact abs_nonneg _
  · exact le_rfl

theorem reopen_exists (calm : Calm e before quantity amount) {shares remaining rest paid : Decimal}
    (sharesSmall : |shares.toRat| ≤ |before.shares.toRat| + e) (restSmall : |rest.toRat| ≤ |quantity.toRat| + e)
    (remainingSmall : |max remaining.toRat 0| ≤ |before.cost.toRat| + 3 * e)
    (paidSmall : |(|amount.toRat| - paid.toRat)| ≤ |amount.toRat| + 2 * e) :
    ∃ after, reopen (settle ⟨shares, remaining.max .zero⟩) rest amount.abs paid = .ok after := by
  have small := calm.small
  have kept := abs_settle_cost_le ⟨shares, remaining.max .zero⟩
  rw [toRat_max, toRat_zero] at kept
  rw [reopen]
  split
  case isFalse => exact ⟨_, rfl⟩
  case isTrue =>
    obtain ⟨sum, summed, _⟩ := (add_computes (settle ⟨shares, remaining.max .zero⟩).shares rest).exists_ok (by
      rw [settle_shares]
      refine calm.below ((abs_add_le _ _).trans ?_)
      linarith [abs_nonneg before.cost.toRat, abs_nonneg amount.toRat])
    obtain ⟨restCost, costed, costRounds⟩ := (sub_computes amount.abs paid).exists_ok (by
      rw [toRat_abs]
      refine calm.below (paidSmall.trans ?_)
      linarith [abs_nonneg before.cost.toRat, abs_nonneg before.shares.toRat, abs_nonneg quantity.toRat])
    rw [toRat_abs] at costRounds
    have moved := abs_le_add_of_near (calm.close costRounds (by
      linarith [abs_nonneg before.cost.toRat, abs_nonneg before.shares.toRat, abs_nonneg quantity.toRat]))
    obtain ⟨cost, added, _⟩ :=
      (add_computes (settle ⟨shares, remaining.max .zero⟩).cost restCost).exists_ok (by
        refine calm.below ((abs_add_le _ _).trans ?_)
        linarith [abs_nonneg before.shares.toRat, abs_nonneg quantity.toRat])
    exact ⟨⟨sum, cost⟩, by rw [summed, ok_bind, costed, ok_bind, added]; rfl⟩

section Part

variable {part : Decimal} (part_eq : part.toRat = min |quantity.toRat| |before.shares.toRat|)
include part_eq

theorem part_nonneg : 0 ≤ part.toRat := by
  rw [part_eq]
  positivity

/-- What the part leaves of the quantity is no more than it. -/
theorem abs_quantity_sub_le : |quantity.abs.toRat - part.toRat| ≤ |quantity.toRat| := by
  have less : part.toRat ≤ |quantity.toRat| := part_eq ▸ min_le_left ..
  have positive := part_nonneg part_eq
  rw [toRat_abs, abs_le]
  constructor <;> linarith

/-- So it is with the shares, whichever side they are on. -/
theorem abs_abs_shares_sub_le : |(|before.shares.toRat| - part.toRat)| ≤ |before.shares.toRat| := by
  have fewer : part.toRat ≤ |before.shares.toRat| := part_eq ▸ min_le_right ..
  have positive := part_nonneg part_eq
  rw [abs_le]
  constructor <;> linarith

theorem basis_exists (calm : Calm e before quantity amount) (held : before.shares.toRat ≠ 0)
    (price : |before.price| < limit) : ∃ basis, before.basisOf part = .ok basis := by
  have room := calm.room
  have small := calm.small
  have quotient : 0 ≤ 2 / |quantity.toRat| := by positivity
  have shares := abs_nonneg before.shares.toRat
  refine basisOf_exists held (part_nonneg part_eq) (part_eq ▸ min_le_right ..) ?_ ?_ price
  · linarith [abs_nonneg quantity.toRat, abs_nonneg amount.toRat, abs_nonneg before.cost.toRat]
  · linarith [abs_nonneg quantity.toRat, abs_nonneg amount.toRat]

theorem share_exists (calm : Calm e before quantity amount) {whole : Decimal}
    (same : |whole.toRat| = |amount.toRat|) (traded : 0 < |quantity.toRat|)
    (product : |amount.toRat| * min |quantity.toRat| |before.shares.toRat| < limit) :
    ∃ share, prorate whole part quantity.abs = .ok share := by
  have room := calm.room
  have small := calm.small
  have quotient : 0 ≤ 2 / |quantity.toRat| := by positivity
  have positive := part_nonneg part_eq
  have shares := abs_nonneg before.shares.toRat
  refine prorate_exists ?_ positive ?_ ?_ ?_
  · rw [toRat_abs]
    exact (eq_zero_or_le_abs quantity).resolve_left (abs_pos.mp traded)
  · rw [toRat_abs, part_eq]
    exact min_le_left ..
  · rw [same]
    linarith [abs_nonneg quantity.toRat, abs_nonneg before.cost.toRat]
  · rwa [abs_mul, same, abs_of_nonneg positive, part_eq]

end Part

theorem cover_exists (calm : Calm e before quantity amount) (owed : before.shares.toRat < 0)
    (traded : 0 < |quantity.toRat|) (price : |before.price| < limit)
    (product : |amount.toRat| * min |quantity.toRat| |before.shares.toRat| < limit) :
    ∃ result, before.cover quantity.abs amount.abs = .ok result := by
  have small := calm.small
  have quantities := abs_nonneg quantity.toRat
  have shares' := abs_nonneg before.shares.toRat
  have amounts := abs_nonneg amount.toRat
  have costs := abs_nonneg before.cost.toRat
  have part_eq : (quantity.abs.min before.shares.neg).toRat = min |quantity.toRat| |before.shares.toRat| :=
    Posting.part_of_cover owed rfl
  obtain ⟨basis, averaged⟩ := basis_exists part_eq calm owed.ne price
  obtain ⟨paid, shared⟩ : ∃ paid, prorate amount.abs (quantity.abs.min before.shares.neg) quantity.abs = .ok paid :=
    share_exists part_eq calm (by rw [toRat_abs, abs_abs]) traded product
  have near := calm.basis_part part_eq owed.ne averaged
  have basisParts := near.abs_add_abs_le
  have restBasis := abs_nonneg (before.cost.toRat - basis.toRat)
  have paidParts := (calm.share_part part_eq (by rw [toRat_abs, abs_abs]) traded shared).abs_add_abs_le
  rw [toRat_abs, abs_abs] at paidParts
  have restPaid := abs_nonneg (|amount.toRat| - paid.toRat)
  obtain ⟨remaining, subtracted, remainingRounds⟩ := (sub_computes before.cost basis).exists_ok
    (calm.below (by linarith [abs_nonneg basis.toRat]))
  have sharesSmall : |before.shares.toRat + (quantity.abs.min before.shares.neg).toRat| ≤ |before.shares.toRat| := by
    have small := abs_abs_shares_sub_le part_eq
    rwa [abs_of_neg owed, ← neg_add', abs_neg, ← abs_of_neg owed] at small
  obtain ⟨shares, summed, sharesRounds⟩ :=
    (add_computes before.shares (quantity.abs.min before.shares.neg)).exists_ok (calm.below (by linarith))
  have restSmall := abs_quantity_sub_le part_eq
  obtain ⟨rest, rested, restRounds⟩ :=
    (sub_computes quantity.abs (quantity.abs.min before.shares.neg)).exists_ok (calm.below (by linarith))
  obtain ⟨after, reopened⟩ := reopen_exists calm
    ((abs_le_add_of_near (calm.close sharesRounds (by linarith))).trans (by linarith))
    ((abs_le_add_of_near (calm.close restRounds (by linarith))).trans (by linarith))
    ((Posting.abs_rest_le calm near remainingRounds).trans (by linarith [abs_nonneg basis.toRat]))
    (show |(|amount.toRat| - paid.toRat)| ≤ _ by linarith [abs_nonneg paid.toRat])
  obtain ⟨pnl, realized, _⟩ := (sub_computes basis paid).exists_ok
    (calm.below (by linarith [abs_sub basis.toRat paid.toRat]))
  refine ⟨(after, pnl), ?_⟩
  rw [cover_eq]
  simp only [averaged, shared, subtracted, summed, rested, reopened, realized, ok_bind]
  rfl

theorem sellHeld_exists (calm : Calm e before quantity amount) (owned : 0 < before.shares.toRat)
    (traded : 0 < |quantity.toRat|) (price : |before.price| < limit)
    (product : policy = .trackInventory → before.shares.toRat < |quantity.toRat| →
      |amount.toRat| * before.shares.toRat < limit) :
    ∃ result, before.sellHeld policy quantity.abs amount = .ok result := by
  have small := calm.small
  have quantities := abs_nonneg quantity.toRat
  have shares' := abs_nonneg before.shares.toRat
  have amounts := abs_nonneg amount.toRat
  have costs := abs_nonneg before.cost.toRat
  have part_eq : (quantity.abs.min before.shares).toRat = min |quantity.toRat| |before.shares.toRat| :=
    Posting.part_of_sale owned rfl
  obtain ⟨basis, averaged⟩ := basis_exists part_eq calm owned.ne' price
  have basisParts := (calm.basis_part part_eq owned.ne' averaged).abs_add_abs_le
  have restBasis := abs_nonneg (before.cost.toRat - basis.toRat)
  rw [sellHeld_eq]
  simp only [averaged, ok_bind]
  split
  case isTrue both =>
    have beyond : before.shares.toRat < |quantity.toRat| := by
      have through := lt_iff.mp both.2
      rw [part_eq, toRat_abs, abs_of_pos owned, min_lt_iff] at through
      exact through.resolve_left (lt_irrefl _)
    obtain ⟨closing, shared⟩ := share_exists part_eq calm rfl traded (by
      rw [abs_of_pos owned, min_eq_right beyond.le]
      exact product both.1 beyond)
    have closingParts := (calm.share_part part_eq rfl traded shared).abs_add_abs_le
    have restClosing := abs_nonneg (amount.toRat - closing.toRat)
    obtain ⟨short, shorted, _⟩ := (sub_computes quantity.abs (quantity.abs.min before.shares)).exists_ok
      (calm.below (by linarith [abs_quantity_sub_le part_eq]))
    obtain ⟨backing, backed, _⟩ := (sub_computes amount closing).exists_ok
      (calm.below (by linarith [abs_nonneg closing.toRat]))
    obtain ⟨pnl, realized, _⟩ := (sub_computes closing basis).exists_ok
      (calm.below (by linarith [abs_sub closing.toRat basis.toRat]))
    exact ⟨(⟨short.neg, backing.abs⟩, pnl), by simp only [shared, shorted, backed, realized, ok_bind]; rfl⟩
  case isFalse =>
    obtain ⟨pnl, realized, _⟩ := (sub_computes amount basis).exists_ok
      (calm.below (by linarith [abs_sub amount.toRat basis.toRat]))
    obtain ⟨remaining, subtracted, _⟩ := (sub_computes before.cost basis).exists_ok
      (calm.below (by linarith [abs_nonneg basis.toRat]))
    have sharesSmall : |before.shares.toRat - (quantity.abs.min before.shares).toRat| ≤ |before.shares.toRat| := by
      have small := abs_abs_shares_sub_le part_eq
      rwa [abs_of_pos owned] at small ⊢
    obtain ⟨shares, reduced, _⟩ :=
      (sub_computes before.shares (quantity.abs.min before.shares)).exists_ok (calm.below (by linarith))
    exact ⟨_, by simp only [realized, subtracted, reduced, ok_bind]; rfl⟩

section Answers

variable {action : Action} {line : LedgerLine}

/-- A cost grows by an amount without overflow. -/
theorem cost_add_exists (calm : Calm e before quantity amount) : ∃ cost, before.cost.add amount.abs = .ok cost := by
  have triangle := abs_add_le before.cost.toRat |amount.toRat|
  rw [abs_abs] at triangle
  obtain ⟨cost, added, _⟩ := (add_computes before.cost amount.abs).exists_ok (calm.below (by
    rw [toRat_abs]
    linarith [abs_nonneg before.shares.toRat, abs_nonneg quantity.toRat]))
  exact ⟨cost, added⟩

theorem buy_exists (calm : Calm e before quantity amount) (traded : 0 < |quantity.toRat|)
    (free : policy = .trackInventory → before.shares.toRat < 0 → |before.price| < limit ∧
      |amount.toRat| * min |quantity.toRat| |before.shares.toRat| < limit) :
    ∃ result, before.buy policy quantity.abs amount.abs = .ok result := by
  rw [buy]
  split
  case isTrue both =>
    have owed : before.shares.toRat < 0 := by simpa using lt_iff.mp both.2
    obtain ⟨price, product⟩ := free both.1 owed
    obtain ⟨result, covers⟩ := cover_exists calm owed traded price product
    exact ⟨_, by rw [covers]; rfl⟩
  case isFalse =>
    obtain ⟨shares, summed, _⟩ := (add_computes before.shares quantity.abs).exists_ok (calm.below (by
      have triangle := abs_add_le before.shares.toRat quantity.abs.toRat
      rw [toRat_abs, abs_abs] at triangle
      rw [toRat_abs]
      linarith [abs_nonneg before.cost.toRat, abs_nonneg amount.toRat]))
    obtain ⟨cost, costed⟩ := cost_add_exists calm
    exact ⟨_, by rw [add, summed, ok_bind, costed]; rfl⟩

theorem sell_exists (calm : Calm e before quantity amount) (traded : 0 < |quantity.toRat|)
    (free : 0 < before.shares.toRat → |before.price| < limit ∧
      (policy = .trackInventory → before.shares.toRat < |quantity.toRat| →
        |amount.toRat| * before.shares.toRat < limit)) :
    ∃ result, before.sell policy quantity.abs amount = .ok result := by
  unfold sell
  split
  case isTrue owned =>
    have owned : 0 < before.shares.toRat := by simpa using lt_iff.mp owned
    obtain ⟨price, product⟩ := free owned
    obtain ⟨result, sells⟩ := sellHeld_exists calm owned traded price product
    exact ⟨_, by rw [sells]; rfl⟩
  case isFalse =>
    cases policy with
    | proceedsAsPnl => exact ⟨_, rfl⟩
    | trackInventory =>
      obtain ⟨shares, reduced, _⟩ := (sub_computes before.shares quantity.abs).exists_ok (calm.below (by
        have triangle := abs_sub before.shares.toRat quantity.abs.toRat
        rw [toRat_abs, abs_abs] at triangle
        rw [toRat_abs]
        linarith [abs_nonneg before.cost.toRat, abs_nonneg amount.toRat]))
      obtain ⟨cost, costed⟩ := cost_add_exists calm
      exact ⟨_, by rw [reduced, ok_bind, costed]; rfl⟩

/-- A line that is not strained can be posted. -/
theorem apply_exists (calm : Calm e before line.quantity line.amount) (free : ¬before.Strained policy line) :
    ∃ result, before.apply policy line.action line.quantity line.amount = .ok result := by
  rw [apply]
  split
  case isTrue => exact ⟨_, rfl⟩
  case isFalse moves =>
    have nonzero : line.quantity.toRat ≠ 0 := isZero_eq_false_iff.mp (Bool.not_eq_true _ ▸ moves)
    have traded : 0 < |line.quantity.toRat| := abs_pos.mpr nonzero
    have sales : line.action.isSale = true →
        ∃ result, before.sell policy line.quantity.abs line.amount = .ok result := by
      intro sale
      apply sell_exists calm traded
      intro owned
      constructor
      · exact not_le.mp fun large => free ⟨nonzero, .inr ⟨sale, owned, .inl large⟩⟩
      · intro tracked beyond
        exact not_le.mp fun large => free ⟨nonzero, .inr ⟨sale, owned, .inr ⟨tracked, beyond, large⟩⟩⟩
    cases acted : line.action with
    | buy =>
      obtain ⟨result, bought⟩ : ∃ result, before.buy policy line.quantity.abs line.amount.abs = .ok result := by
        refine buy_exists calm traded fun tracked owed => ⟨?_, ?_⟩
        · exact not_le.mp fun large => free ⟨nonzero, .inl ⟨acted, tracked, owed, .inl large⟩⟩
        · exact not_le.mp fun large => free ⟨nonzero, .inl ⟨acted, tracked, owed, .inr large⟩⟩
      exact ⟨_, by simp only [bought, ok_bind]; rfl⟩
    | sell =>
      obtain ⟨result, sold⟩ := sales (by rw [acted]; rfl)
      exact ⟨_, by simp only [sold, ok_bind]; rfl⟩
    | sellShort =>
      obtain ⟨result, sold⟩ := sales (by rw [acted]; rfl)
      exact ⟨_, by simp only [sold, ok_bind]; rfl⟩
    | dividend => exact ⟨_, rfl⟩
    | other label => exact ⟨_, rfl⟩

theorem cover_overflows (calm : Calm e before quantity amount) (owed : before.shares.toRat < 0)
    (large : limit ≤ |before.price| ∨ limit ≤ |amount.toRat| * min |quantity.toRat| |before.shares.toRat|) :
    ∃ fault : Fault, fault.ofScaling ∧ before.cover quantity.abs amount.abs = .error fault := by
  have part_eq : (quantity.abs.min before.shares.neg).toRat = min |quantity.toRat| |before.shares.toRat| :=
    Posting.part_of_cover owed rfl
  rw [cover_eq]
  rcases le_or_gt limit |before.price| with price | price
  · refine ⟨_, .inl rfl, ?_⟩
    simp only [basisOf_overflows owed.ne _ price, error_bind]
  · have product := large.resolve_left (not_le.mpr price)
    obtain ⟨basis, averaged⟩ := basis_exists part_eq calm owed.ne price
    have overflows : prorate amount.abs (quantity.abs.min before.shares.neg) quantity.abs =
        .error (.overflow .multiplication) := by
      have nonneg : 0 ≤ min |quantity.toRat| |before.shares.toRat| := by positivity
      refine prorate_overflows _ ?_
      rwa [abs_mul, toRat_abs, abs_abs, part_eq, abs_of_nonneg nonneg]
    refine ⟨_, .inr rfl, ?_⟩
    simp only [averaged, overflows, ok_bind, error_bind]

theorem sellHeld_overflows (calm : Calm e before quantity amount) (owned : 0 < before.shares.toRat)
    (large : limit ≤ |before.price| ∨ (policy = .trackInventory ∧ before.shares.toRat < |quantity.toRat| ∧
      limit ≤ |amount.toRat| * before.shares.toRat)) :
    ∃ fault : Fault, fault.ofScaling ∧ before.sellHeld policy quantity.abs amount = .error fault := by
  have part_eq : (quantity.abs.min before.shares).toRat = min |quantity.toRat| |before.shares.toRat| :=
    Posting.part_of_sale owned rfl
  rw [sellHeld_eq]
  rcases le_or_gt limit |before.price| with price | price
  · refine ⟨_, .inl rfl, ?_⟩
    simp only [basisOf_overflows owned.ne' _ price, error_bind]
  · obtain ⟨tracked, beyond, product⟩ := large.resolve_left (not_le.mpr price)
    obtain ⟨basis, averaged⟩ := basis_exists part_eq calm owned.ne' price
    have sold_eq : (quantity.abs.min before.shares).toRat = before.shares.toRat := by
      rw [part_eq, abs_of_pos owned, min_eq_right beyond.le]
    have overflows : prorate amount (quantity.abs.min before.shares) quantity.abs =
        .error (.overflow .multiplication) := by
      refine prorate_overflows _ ?_
      rwa [abs_mul, sold_eq, abs_of_pos owned]
    have through : quantity.abs.min before.shares < quantity.abs := by
      rw [lt_iff, sold_eq, toRat_abs]
      exact beyond
    refine ⟨_, .inr rfl, ?_⟩
    simp only [averaged, ok_bind, if_pos (And.intro tracked through), overflows, error_bind]

theorem sell_overflows (calm : Calm e before quantity amount) (owned : 0 < before.shares.toRat)
    (large : limit ≤ |before.price| ∨ (policy = .trackInventory ∧ before.shares.toRat < |quantity.toRat| ∧
      limit ≤ |amount.toRat| * before.shares.toRat)) :
    ∃ fault : Fault, fault.ofScaling ∧ before.sell policy quantity.abs amount = .error fault := by
  obtain ⟨fault, scaling, overflows⟩ := sellHeld_overflows calm owned large
  refine ⟨fault, scaling, ?_⟩
  unfold sell
  rw [if_pos (lt_iff.mpr (by simpa using owned)), overflows, error_bind]

/-- A line that is strained cannot. -/
theorem apply_overflows (calm : Calm e before line.quantity line.amount) (strained : before.Strained policy line) :
    ∃ fault : Fault, fault.ofScaling ∧
      before.apply policy line.action line.quantity line.amount = .error fault := by
  obtain ⟨nonzero, strained⟩ := strained
  rw [apply, if_neg (by rw [isZero_eq_false_iff.mpr nonzero]; exact Bool.false_ne_true)]
  rcases strained with ⟨acted, tracked, owed, large⟩ | ⟨sale, owned, large⟩
  · obtain ⟨fault, scaling, overflows⟩ := cover_overflows calm owed large
    refine ⟨fault, scaling, ?_⟩
    have both : policy = .trackInventory ∧ before.shares < Decimal.zero :=
      ⟨tracked, lt_iff.mpr (by simpa using owed)⟩
    rw [acted]
    simp only [buy, if_pos both, overflows, error_bind]
  · obtain ⟨fault, scaling, overflows⟩ := sell_overflows calm owned large
    refine ⟨fault, scaling, ?_⟩
    cases acted : line.action with
    | sell => simp only [overflows, error_bind]
    | sellShort => simp only [overflows, error_bind]
    | buy => simp [acted, Action.isSale] at sale
    | dividend => simp [acted, Action.isSale] at sale
    | other label => simp [acted, Action.isSale] at sale

end Answers

end Holding

end TradeLedger
