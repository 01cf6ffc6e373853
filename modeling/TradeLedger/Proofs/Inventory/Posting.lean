import TradeLedger.Proofs.Inventory.Portion

/-! What a line does to a holding. `Posting` lists the ways in which a line can change a holding
and what it then realizes, with every rounding in its place; `apply_posts` says that there are no
others. Everything else about a step of the book is read off these cases. -/
namespace TradeLedger

open Decimal

/-- Whether the action moves shares. -/
def Action.trades (action : Action) : Prop := action = .buy ∨ action.isSale = true

namespace Holding

/-- What a purchase of `quantity` shares for `amount` leaves of a short position, when `basis` is
the proceeds of the shares covered and `paid` what they cost. -/
inductive AfterCover (before : Holding) (quantity amount : ℚ) (basis paid : Decimal) : Holding → Prop
  | short {after : Holding} {remaining : Decimal} (part : quantity < -before.shares.toRat)
      (shares : Rounds after.shares (before.shares.toRat + quantity)) (owed : after.shares.toRat < 0)
      (rest : Rounds remaining (before.cost.toRat - basis.toRat))
      (cost : after.cost.toRat = max remaining.toRat 0) : AfterCover before quantity amount basis paid after
  | closed {after : Holding} (whole : quantity = -before.shares.toRat) (shares : after.shares.toRat = 0)
      (cost : after.cost.toRat = 0) : AfterCover before quantity amount basis paid after
  | turned {after : Holding} (beyond : -before.shares.toRat < quantity)
      (shares : Rounds after.shares (before.shares.toRat + quantity)) (owned : 0 < after.shares.toRat)
      (cost : Rounds after.cost (amount - paid.toRat)) : AfterCover before quantity amount basis paid after

/-- What a sale of `quantity` shares leaves of a long position, when `basis` is what the shares
sold cost. -/
inductive AfterSale (before : Holding) (quantity : ℚ) (basis : Decimal) : Holding → Prop
  | long {after : Holding} {remaining : Decimal} (part : quantity < before.shares.toRat)
      (shares : Rounds after.shares (before.shares.toRat - quantity)) (owned : 0 < after.shares.toRat)
      (rest : Rounds remaining (before.cost.toRat - basis.toRat))
      (cost : after.cost.toRat = max remaining.toRat 0) : AfterSale before quantity basis after
  | closed {after : Holding} (whole : before.shares.toRat ≤ quantity) (shares : after.shares.toRat = 0)
      (cost : after.cost.toRat = 0) : AfterSale before quantity basis after

/-- What a line does to the holding `before`, and what it realizes before that is rounded to
cents. -/
inductive Posting (policy : ShortSales) (before : Holding) (quantity amount : Decimal) :
    Action → Holding → Option Decimal → Prop
  | idle {action : Action} (untraded : quantity.toRat = 0 ∨ ¬action.trades) :
      Posting policy before quantity amount action before none
  | bought {after : Holding} (traded : 0 < |quantity.toRat|)
      (covers : policy = .trackInventory → 0 ≤ before.shares.toRat)
      (shares : Rounds after.shares (before.shares.toRat + |quantity.toRat|))
      (cost : Rounds after.cost (before.cost.toRat + |amount.toRat|)) :
      Posting policy before quantity amount .buy after none
  | covered {after : Holding} {part basis paid pnl : Decimal} (traded : 0 < |quantity.toRat|)
      (tracked : policy = .trackInventory) (owed : before.shares.toRat < 0)
      (part_eq : part = quantity.abs.min before.shares.neg)
      (average : before.basisOf part = .ok basis) (share : prorate amount.abs part quantity.abs = .ok paid)
      (left : AfterCover before |quantity.toRat| |amount.toRat| basis paid after)
      (realized : Rounds pnl (basis.toRat - paid.toRat)) :
      Posting policy before quantity amount .buy after (some pnl)
  | sold {action : Action} {after : Holding} {part basis pnl : Decimal} (sale : action.isSale = true)
      (traded : 0 < |quantity.toRat|) (owned : 0 < before.shares.toRat)
      (part_eq : part = quantity.abs.min before.shares)
      (enough : policy = .trackInventory → |quantity.toRat| ≤ before.shares.toRat)
      (average : before.basisOf part = .ok basis) (left : AfterSale before |quantity.toRat| basis after)
      (realized : Rounds pnl (amount.toRat - basis.toRat)) :
      Posting policy before quantity amount action after (some pnl)
  | soldThrough {action : Action} {after : Holding} {part basis closing backing pnl : Decimal}
      (sale : action.isSale = true) (tracked : policy = .trackInventory) (owned : 0 < before.shares.toRat)
      (part_eq : part = quantity.abs.min before.shares)
      (beyond : before.shares.toRat < |quantity.toRat|) (average : before.basisOf part = .ok basis)
      (share : prorate amount part quantity.abs = .ok closing)
      (shares : Rounds after.shares (before.shares.toRat - |quantity.toRat|)) (owed : after.shares.toRat < 0)
      (rest : Rounds backing (amount.toRat - closing.toRat)) (cost : after.cost.toRat = |backing.toRat|)
      (realized : Rounds pnl (closing.toRat - basis.toRat)) :
      Posting policy before quantity amount action after (some pnl)
  | proceeds {action : Action} (sale : action.isSale = true) (traded : 0 < |quantity.toRat|)
      (untracked : policy = .proceedsAsPnl) (unowned : before.shares.toRat ≤ 0) :
      Posting policy before quantity amount action before (some amount)
  | shorted {action : Action} {after : Holding} (sale : action.isSale = true) (traded : 0 < |quantity.toRat|)
      (tracked : policy = .trackInventory) (unowned : before.shares.toRat ≤ 0)
      (shares : Rounds after.shares (before.shares.toRat - |quantity.toRat|)) (owed : after.shares.toRat < 0)
      (cost : Rounds after.cost (before.cost.toRat + |amount.toRat|)) :
      Posting policy before quantity amount action after none

/-- What is left of a covering purchase opens a long position with its part of the cost. -/
def reopen (closed : Holding) (rest cost paid : Decimal) : Except Fault Holding :=
  if Decimal.zero < rest then do
    let shares ← closed.shares.add rest
    let restCost ← cost.sub paid
    let cost ← closed.cost.add restCost
    return ⟨shares, cost⟩
  else .ok closed

theorem cover_eq (holding : Holding) (quantity cost : Decimal) :
    holding.cover quantity cost = (do
      let covered := quantity.min holding.shares.neg
      let basis ← holding.basisOf covered
      let paid ← prorate cost covered quantity
      let remaining ← holding.cost.sub basis
      let shares ← holding.shares.add covered
      let rest ← quantity.sub covered
      let left ← reopen (settle ⟨shares, remaining.max .zero⟩) rest cost paid
      return (left, ← basis.sub paid)) := by
  simp only [cover, basisOf, prorate, bind_assoc]
  refine bind_congr fun average => bind_congr fun basis => bind_congr fun product => bind_congr fun paid =>
    bind_congr fun remaining => bind_congr fun shares => bind_congr fun rest => ?_
  rw [reopen]
  split
  · simp only [bind_assoc, pure_bind]
  · rfl

theorem sellHeld_eq (policy : ShortSales) (holding : Holding) (quantity proceeds : Decimal) :
    holding.sellHeld policy quantity proceeds = (do
      let sold := quantity.min holding.shares
      let basis ← holding.basisOf sold
      if policy = .trackInventory ∧ sold < quantity then
        let closing ← prorate proceeds sold quantity
        let short ← quantity.sub sold
        let backing ← proceeds.sub closing
        return (⟨short.neg, backing.abs⟩, ← closing.sub basis)
      else
        let pnl ← proceeds.sub basis
        let cost ← holding.cost.sub basis
        let shares ← holding.shares.sub sold
        return (settle ⟨shares.max .zero, cost.max .zero⟩, pnl)) := by
  simp only [sellHeld, basisOf, prorate, bind_assoc]

theorem settle_of_isZero (holding : Holding) (none : holding.shares.toRat = 0) :
    holding.settle.shares.toRat = 0 ∧ holding.settle.cost.toRat = 0 := by
  rw [settle, if_pos (by rw [isFlat, isZero_iff, none])]
  exact ⟨none, toRat_zero⟩

theorem settle_of_ne {holding : Holding} (held : holding.shares.toRat ≠ 0) : holding.settle = holding := by
  rw [settle, if_neg (by rw [isFlat_eq_false held]; exact Bool.false_ne_true)]

section Cases

variable {policy : ShortSales} {before after : Holding} {quantity amount basis paid pnl : Decimal}

/-- What covering leaves, from the results of its steps. -/
private theorem afterCover_of_steps {covered remaining shares rest : Decimal}
    (covered_eq : covered.toRat = min quantity.toRat (-before.shares.toRat))
    (remainingRounds : Rounds remaining (before.cost.toRat - basis.toRat))
    (sharesRounds : Rounds shares (before.shares.toRat + covered.toRat))
    (restRounds : Rounds rest (quantity.toRat - covered.toRat))
    (ran : reopen (settle ⟨shares, remaining.max .zero⟩) rest amount paid = .ok after) :
    AfterCover before quantity.toRat amount.toRat basis paid after := by
  have rest_pos : Decimal.zero < rest ↔ covered.toRat < quantity.toRat := by
    rw [lt_iff, toRat_zero]
    constructor
    · intro positive
      by_contra short
      have nothing := restRounds.le_of_le (c := zero) (by rw [toRat_zero]; linarith)
      rw [toRat_zero] at nothing
      linarith
    · exact restRounds.pos_of_sub
  rcases lt_trichotomy quantity.toRat (-before.shares.toRat) with part | whole | beyond
  · rw [min_eq_left part.le] at covered_eq
    rw [covered_eq] at sharesRounds
    have short : shares.toRat < 0 := sharesRounds.neg_of_add (by linarith)
    rw [reopen, if_neg (by rw [rest_pos, covered_eq]; exact lt_irrefl _), settle_of_ne short.ne] at ran
    cases ran
    exact .short part sharesRounds short remainingRounds (by rw [toRat_max, toRat_zero])
  · rw [min_eq_left whole.le] at covered_eq
    rw [covered_eq, whole, add_neg_cancel] at sharesRounds
    obtain ⟨noShares, noCost⟩ :=
      settle_of_isZero ⟨shares, remaining.max .zero⟩ sharesRounds.eq_zero
    rw [reopen, if_neg (by rw [rest_pos, covered_eq]; exact lt_irrefl _)] at ran
    cases ran
    exact .closed whole noShares noCost
  · rw [min_eq_right beyond.le] at covered_eq
    rw [covered_eq, add_neg_cancel] at sharesRounds
    obtain ⟨noShares, noCost⟩ :=
      settle_of_isZero ⟨shares, remaining.max .zero⟩ sharesRounds.eq_zero
    rw [reopen, if_pos (by rw [rest_pos, covered_eq]; exact beyond)] at ran
    generalize settle ⟨shares, remaining.max .zero⟩ = flat at *
    obtain ⟨sum, summed, ran⟩ := bind_eq_ok.mp ran
    obtain ⟨restCost, costed, ran⟩ := bind_eq_ok.mp ran
    obtain ⟨cost, added, ran⟩ := bind_eq_ok.mp ran
    cases ran
    have sumRounds := (add_computes flat.shares rest).rounds summed
    have costRounds := (add_computes flat.cost restCost).rounds added
    rw [noShares, zero_add] at sumRounds
    rw [noCost, zero_add] at costRounds
    rw [covered_eq, sub_neg_eq_add, add_comm] at restRounds
    refine .turned beyond (restRounds.congr (sumRounds.eq_of_eq rfl)) ?_
      (((sub_computes amount paid).rounds costed).congr (costRounds.eq_of_eq rfl))
    rw [sumRounds.eq_of_eq rfl, ← toRat_zero]
    exact lt_iff.mp (rest_pos.mpr (by rw [covered_eq]; exact beyond))

theorem cover_posts (ran : before.cover quantity amount = .ok (after, pnl)) :
    ∃ basis paid, before.basisOf (quantity.min before.shares.neg) = .ok basis ∧
      prorate amount (quantity.min before.shares.neg) quantity = .ok paid ∧
      AfterCover before quantity.toRat amount.toRat basis paid after ∧
      Rounds pnl (basis.toRat - paid.toRat) := by
  rw [cover_eq] at ran
  obtain ⟨basis, averaged, ran⟩ := bind_eq_ok.mp ran
  obtain ⟨paid, shared, ran⟩ := bind_eq_ok.mp ran
  obtain ⟨remaining, subtracted, ran⟩ := bind_eq_ok.mp ran
  obtain ⟨shares, summed, ran⟩ := bind_eq_ok.mp ran
  obtain ⟨rest, rested, ran⟩ := bind_eq_ok.mp ran
  obtain ⟨left, leaves, ran⟩ := bind_eq_ok.mp ran
  obtain ⟨profit, realized, ran⟩ := bind_eq_ok.mp ran
  cases ran
  have covered_eq : (quantity.min before.shares.neg).toRat = min quantity.toRat (-before.shares.toRat) := by
    rw [toRat_min, toRat_neg]
  exact ⟨basis, paid, averaged, shared,
    afterCover_of_steps covered_eq ((sub_computes _ _).rounds subtracted)
      ((add_computes _ _).rounds summed) ((sub_computes _ _).rounds rested) leaves,
    (sub_computes _ _).rounds realized⟩

/-- What a sale of held shares leaves, from the results of its steps. -/
private theorem afterSale_of_steps {sold remaining shares : Decimal}
    (sold_eq : sold.toRat = min quantity.toRat before.shares.toRat)
    (remainingRounds : Rounds remaining (before.cost.toRat - basis.toRat))
    (sharesRounds : Rounds shares (before.shares.toRat - sold.toRat)) :
    AfterSale before quantity.toRat basis (settle ⟨shares.max .zero, remaining.max .zero⟩) := by
  rcases lt_or_ge quantity.toRat before.shares.toRat with part | whole
  · rw [min_eq_left part.le] at sold_eq
    have owned : 0 < shares.toRat := sharesRounds.pos_of_sub (by rwa [sold_eq])
    have kept : (shares.max .zero).toRat = shares.toRat := by
      rw [toRat_max, toRat_zero, max_eq_left owned.le]
    rw [settle_of_ne (by rw [kept]; exact owned.ne')]
    rw [sold_eq] at sharesRounds
    exact .long part (sharesRounds.congr kept) (by rw [kept]; exact owned) remainingRounds
      (by rw [toRat_max, toRat_zero])
  · rw [min_eq_right whole] at sold_eq
    rw [sold_eq, sub_self] at sharesRounds
    obtain ⟨noShares, noCost⟩ :=
      settle_of_isZero ⟨shares.max .zero, remaining.max .zero⟩
        (by rw [toRat_max, toRat_zero, sharesRounds.eq_zero, max_self])
    exact .closed whole noShares noCost

theorem sellHeld_posts {action : Action} (sale : action.isSale = true) (traded : 0 < |quantity.toRat|)
    (owned : 0 < before.shares.toRat)
    (ran : before.sellHeld policy quantity.abs amount = .ok (after, pnl)) :
    Posting policy before quantity amount action after (some pnl) := by
  have sold_eq : (quantity.abs.min before.shares).toRat = min quantity.abs.toRat before.shares.toRat :=
    toRat_min ..
  have through : quantity.abs.min before.shares < quantity.abs ↔ before.shares.toRat < |quantity.toRat| := by
    rw [lt_iff, sold_eq, min_lt_iff, toRat_abs]
    exact or_iff_right (lt_irrefl _)
  rw [sellHeld_eq] at ran
  obtain ⟨basis, averaged, ran⟩ := bind_eq_ok.mp ran
  split at ran
  case isTrue both =>
    have beyond := through.mp both.2
    obtain ⟨closing, shared, ran⟩ := bind_eq_ok.mp ran
    obtain ⟨short, shorted, ran⟩ := bind_eq_ok.mp ran
    obtain ⟨backing, backed, ran⟩ := bind_eq_ok.mp ran
    obtain ⟨profit, realized, ran⟩ := bind_eq_ok.mp ran
    cases ran
    rw [toRat_abs, min_eq_right beyond.le] at sold_eq
    have shortRounds := (sub_computes _ _).rounds shorted
    have positive := shortRounds.pos_of_sub (by rwa [sold_eq, toRat_abs])
    have turned := shortRounds.neg
    rw [neg_sub, sold_eq, toRat_abs] at turned
    exact .soldThrough sale both.1 owned rfl beyond averaged shared turned (by rw [toRat_neg]; linarith)
      ((sub_computes _ _).rounds backed) (toRat_abs backing) ((sub_computes _ _).rounds realized)
  case isFalse kept =>
    obtain ⟨profit, realized, ran⟩ := bind_eq_ok.mp ran
    obtain ⟨remaining, subtracted, ran⟩ := bind_eq_ok.mp ran
    obtain ⟨shares, reduced, ran⟩ := bind_eq_ok.mp ran
    cases ran
    have left := afterSale_of_steps sold_eq ((sub_computes _ _).rounds subtracted)
      ((sub_computes _ _).rounds reduced)
    rw [toRat_abs] at left
    refine .sold sale traded owned rfl ?_ averaged left ((sub_computes _ _).rounds realized)
    intro tracked
    by_contra beyond
    exact kept ⟨tracked, through.mpr (not_le.mp beyond)⟩

theorem buy_posts {pnl : Option Decimal} (traded : 0 < |quantity.toRat|)
    (ran : before.buy policy quantity.abs amount.abs = .ok (after, pnl)) :
    Posting policy before quantity amount .buy after pnl := by
  rw [buy] at ran
  split at ran
  case isTrue both =>
    obtain ⟨⟨left, profit⟩, covers, ran⟩ := bind_eq_ok.mp ran
    cases ran
    have owed : before.shares.toRat < 0 := by simpa using lt_iff.mp both.2
    obtain ⟨basis, paid, averaged, shared, sharesRounds, realized⟩ := cover_posts covers
    rw [toRat_abs, toRat_abs] at sharesRounds
    exact .covered traded both.1 owed rfl averaged shared sharesRounds realized
  case isFalse neither =>
    obtain ⟨added, adds, ran⟩ := bind_eq_ok.mp ran
    cases ran
    rw [add] at adds
    obtain ⟨shares, summed, adds⟩ := bind_eq_ok.mp adds
    obtain ⟨cost, costed, adds⟩ := bind_eq_ok.mp adds
    cases adds
    have sharesRounds := (add_computes _ _).rounds summed
    have costRounds := (add_computes _ _).rounds costed
    rw [toRat_abs] at sharesRounds costRounds
    refine .bought traded ?_ sharesRounds costRounds
    intro tracked
    by_contra owed
    exact neither ⟨tracked, lt_iff.mpr (by simpa using owed)⟩

theorem sell_posts {action : Action} {pnl : Option Decimal} (sale : action.isSale = true)
    (traded : 0 < |quantity.toRat|) (ran : before.sell policy quantity.abs amount = .ok (after, pnl)) :
    Posting policy before quantity amount action after pnl := by
  unfold sell at ran
  split at ran
  case isTrue owned =>
    obtain ⟨⟨left, profit⟩, sells, ran⟩ := bind_eq_ok.mp ran
    cases ran
    exact sellHeld_posts sale traded (by simpa using lt_iff.mp owned) sells
  case isFalse unowned =>
    have unowned : before.shares.toRat ≤ 0 := by
      by_contra owned
      exact unowned (lt_iff.mpr (by simpa using owned))
    cases policy with
    | proceedsAsPnl =>
      cases ran
      exact .proceeds sale traded rfl unowned
    | trackInventory =>
      obtain ⟨shares, reduced, ran⟩ := bind_eq_ok.mp ran
      obtain ⟨cost, costed, ran⟩ := bind_eq_ok.mp ran
      cases ran
      have sharesRounds := (sub_computes _ _).rounds reduced
      have costRounds := (add_computes _ _).rounds costed
      have owed := sharesRounds.neg_of_sub (by rw [toRat_abs]; linarith)
      rw [toRat_abs] at sharesRounds costRounds
      exact .shorted sale traded rfl unowned sharesRounds owed costRounds

/-- Every line that is posted to a holding is a posting, and realizes its profit in cents. -/
theorem apply_posts {action : Action} {pnl : Option Decimal}
    (ran : before.apply policy action quantity amount = .ok (after, pnl)) :
    ∃ profit, pnl = profit.map roundCents ∧ Posting policy before quantity amount action after profit := by
  rw [apply] at ran
  split at ran
  case isTrue empty =>
    cases ran
    exact ⟨none, rfl, .idle (.inl (isZero_iff.mp empty))⟩
  case isFalse traded =>
    have traded : 0 < |quantity.toRat| := abs_pos.mpr (isZero_eq_false_iff.mp (Bool.not_eq_true _ ▸ traded))
    cases action with
    | buy =>
      obtain ⟨⟨left, profit⟩, moved, ran⟩ := bind_eq_ok.mp ran
      cases ran
      exact ⟨profit, rfl, buy_posts traded moved⟩
    | sell =>
      obtain ⟨⟨left, profit⟩, moved, ran⟩ := bind_eq_ok.mp ran
      cases ran
      exact ⟨profit, rfl, sell_posts rfl traded moved⟩
    | sellShort =>
      obtain ⟨⟨left, profit⟩, moved, ran⟩ := bind_eq_ok.mp ran
      cases ran
      exact ⟨profit, rfl, sell_posts rfl traded moved⟩
    | dividend =>
      cases ran
      exact ⟨none, rfl, .idle (.inr (by simp [Action.trades, Action.isSale]))⟩
    | other label =>
      cases ran
      exact ⟨none, rfl, .idle (.inr (by simp [Action.trades, Action.isSale]))⟩

/-- A line without a quantity realizes nothing. -/
theorem Posting.quantity_ne_zero {action : Action}
    (posting : Posting policy before quantity amount action after (some pnl)) : quantity.toRat ≠ 0 := by
  cases posting with
  | covered traded => exact abs_pos.mp traded
  | sold sale traded => exact abs_pos.mp traded
  | soldThrough sale tracked owned part_eq beyond => exact abs_pos.mp (owned.trans beyond)
  | proceeds sale traded => exact abs_pos.mp traded

end Cases

end Holding

end TradeLedger
