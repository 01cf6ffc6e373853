import TradeLedger.Proofs.Inventory.Position

/-! Where the policies on short sales do not differ. The policies part ways at a sale of more shares than
are held, and at a purchase for a holding that such a sale has left short. A run without such sales never
comes there: tracking short positions posts every line as the default does, to the same fault if there is
one. Whether a sale is covered depends on the lines of its own holding, so it stays covered where the
lines of other holdings are left out. -/
namespace TradeLedger

open Decimal

namespace Holding

variable {before after : Holding} {quantity amount : Decimal} {action : Action} {profit : Option Decimal}

/-- If the line is a sale, the holding has the shares. -/
def Covers (holding : Holding) (line : LedgerLine) : Prop :=
  line.action.isSale = true → |line.quantity.toRat| ≤ holding.shares.toRat

instance (holding : Holding) (line : LedgerLine) : Decidable (holding.Covers line) :=
  inferInstanceAs (Decidable (_ → _))

/-- Without short positions no line takes a holding below zero. -/
theorem Posting.shares_nonneg (posting : Posting .proceedsAsPnl before quantity amount action after profit)
    (nonneg : 0 ≤ before.shares.toRat) : 0 ≤ after.shares.toRat :=
  (posting.shares_rounds fun _ => nonneg).nonneg (le_max_left ..)

theorem buy_policies (nonneg : 0 ≤ before.shares.toRat) (quantity cost : Decimal) :
    before.buy .trackInventory quantity cost = before.buy .proceedsAsPnl quantity cost := by
  have owing : ¬before.shares < Decimal.zero := by
    rw [lt_iff, toRat_zero]
    exact not_lt.mpr nonneg
  rw [buy, buy, if_neg fun both => owing both.2, if_neg fun both => owing both.2]

theorem sellHeld_policies (enough : quantity.toRat ≤ before.shares.toRat) (proceeds : Decimal) :
    before.sellHeld .trackInventory quantity proceeds = before.sellHeld .proceedsAsPnl quantity proceeds := by
  have through : ¬quantity.min before.shares < quantity := by
    rw [lt_iff, toRat_min, min_eq_left enough]
    exact lt_irrefl _
  rw [sellHeld_eq, sellHeld_eq]
  refine bind_congr fun basis => ?_
  rw [if_neg fun both => through both.2, if_neg fun both => through both.2]

theorem sell_policies (traded : 0 < quantity.toRat) (enough : quantity.toRat ≤ before.shares.toRat)
    (proceeds : Decimal) :
    before.sell .trackInventory quantity proceeds = before.sell .proceedsAsPnl quantity proceeds := by
  have owned : Decimal.zero < before.shares := by
    rw [lt_iff, toRat_zero]
    exact traded.trans_le enough
  rw [sell, sell, if_pos owned, if_pos owned, sellHeld_policies enough]

/-- A line that the holding covers does the same under both. -/
theorem apply_policies {line : LedgerLine} (nonneg : 0 ≤ before.shares.toRat) (covers : before.Covers line) :
    before.apply .trackInventory line.action line.quantity line.amount =
      before.apply .proceedsAsPnl line.action line.quantity line.amount := by
  rw [apply, apply]
  split
  case isTrue => rfl
  case isFalse traded =>
    have traded : 0 < line.quantity.abs.toRat := by
      rw [toRat_abs]
      exact abs_pos.mpr (isZero_eq_false_iff.mp (Bool.not_eq_true _ ▸ traded))
    have enough : line.action.isSale = true → line.quantity.abs.toRat ≤ before.shares.toRat := by
      rw [toRat_abs]
      exact covers
    cases acted : line.action with
    | buy => rw [buy_policies nonneg]
    | sell => rw [sell_policies traded (enough (by rw [acted]; rfl))]
    | sellShort => rw [sell_policies traded (enough (by rw [acted]; rfl))]
    | dividend => rfl
    | other label => rfl

end Holding

namespace Book

variable {book other final : Book} {posted : List DatedLine} {realized : List Realized}

/-- No sale of the run without short positions is of more shares than its holding has when it is posted. -/
def CoversSales (book : Book) (posted : List DatedLine) : Prop :=
  Throughout .proceedsAsPnl (fun book dated => (book.holding (keyOf dated)).Covers dated.line) book posted

instance (book : Book) (posted : List DatedLine) : Decidable (book.CoversSales posted) :=
  inferInstanceAs (Decidable (Throughout ..))

/-- Then short positions never come up. -/
theorem postAll_policies (nonneg : ∀ key, 0 ≤ (book.holding key).shares.toRat) (covered : book.CoversSales posted) :
    book.postAll .trackInventory posted = book.postAll .proceedsAsPnl posted := by
  induction posted generalizing book with
  | nil => rfl
  | cons dated rest ih =>
    have alike : book.post .trackInventory dated = book.post .proceedsAsPnl dated := by
      rw [post, post]
      exact congrArg (· >>= _) (Holding.apply_policies (nonneg _) covered.1)
    rw [postAll, postAll, alike]
    cases post : book.post .proceedsAsPnl dated with
    | error fault => rfl
    | ok answer =>
      obtain ⟨next, first⟩ := answer
      obtain ⟨_, others⟩ := (Throughout.cons_iff post).mp covered
      obtain ⟨after, _, rfl, _, posting⟩ := post_posts post
      have kept := forall_holding_insert (P := fun holding => 0 ≤ holding.shares.toRat)
        (posting.shares_nonneg (nonneg _)) nonneg (keyOf dated)
      rw [ok_bind, ok_bind]
      dsimp only
      rw [ih kept others]

/-- A run that covers the sales of all holdings covers those of some of them on their own. -/
theorem CoversSales.filter {chosen : HoldingKey → Bool}
    (ran : book.postAll .proceedsAsPnl posted = .ok (final, realized)) (covered : book.CoversSales posted)
    (same : ∀ key, chosen key = true → other.holding key = book.holding key) :
    other.CoversSales (posted.filter fun dated => chosen (keyOf dated)) := by
  induction posted generalizing book other realized with
  | nil => trivial
  | cons dated rest ih =>
    obtain ⟨next, first, later, post, followed, _⟩ := postAll_cons.mp ran
    obtain ⟨here, others⟩ := (Throughout.cons_iff post).mp covered
    obtain ⟨after, alone, rfl⟩ := post_eq_ok.mp post
    by_cases own : chosen (keyOf dated) = true
    · rw [List.filter_cons_of_pos (by simpa using own)]
      rw [← same _ own] at alone here
      refine (Throughout.cons_iff (post_eq_ok.mpr ⟨after, alone, rfl⟩)).mpr ⟨here, ih followed others fun key held => ?_⟩
      rw [holding_insert, holding_insert, same key held]
    · rw [List.filter_cons_of_neg (by simpa using own)]
      refine ih followed others fun key held => ?_
      -- The line is of a holding that is left out, so it is not this one.
      have apart : key ≠ keyOf dated := fun equal => own (equal ▸ held)
      rw [holding_insert, if_neg apart, same key held]

end Book

end TradeLedger
