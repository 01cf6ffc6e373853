import Mathlib.Data.Finset.Lattice.Fold
import TradeLedger.Proofs.Inventory.Separation

/-! The shares that a holding has after its lines. Where short positions are tracked they are the shares
bought less the shares sold. Where they are not, a sale of more shares than are held stops at none, so what
is left is the net quantity above its lowest point: the net quantity reflected at zero. A line that closes a
position and opens one on the other side moves the shares in up to three steps, which come to its signed
quantity as long as none of them rounds. -/
namespace TradeLedger

open Decimal

/-- The shares that a line brings; shares sold count as negative. -/
def Action.shareChange (action : Action) (quantity : ℚ) : ℚ :=
  match action with
  | .buy => |quantity|
  | .sell | .sellShort => -|quantity|
  | .dividend | .other _ => 0

theorem Action.shareChange_of_sale {action : Action} (sale : action.isSale = true) (quantity : ℚ) :
    action.shareChange quantity = -|quantity| := by
  cases action with
  | sell => rfl
  | sellShort => rfl
  | buy => cases sale
  | dividend => cases sale
  | other label => cases sale

theorem Action.shareChange_of_untraded {action : Action} {quantity : ℚ} (untraded : quantity = 0 ∨ ¬action.trades) :
    action.shareChange quantity = 0 := by
  rcases untraded with rfl | idle
  · cases action <;> simp [shareChange]
  · cases action <;> simp_all [shareChange, trades, isSale]

/-- The shares that a line brings. -/
def LedgerLine.shareChange (line : LedgerLine) : ℚ := line.action.shareChange line.quantity.toRat

/-- The position after a change. Without short positions it does not fall below zero. -/
def ShortSales.position (policy : ShortSales) (shares change : ℚ) : ℚ :=
  match policy with
  | .trackInventory => shares + change
  | .proceedsAsPnl => max 0 (shares + change)

theorem ShortSales.position_of_nonneg {policy : ShortSales} {shares change : ℚ}
    (nonneg : policy = .proceedsAsPnl → 0 ≤ shares + change) : policy.position shares change = shares + change := by
  cases policy with
  | trackInventory => rfl
  | proceedsAsPnl => exact max_eq_right (nonneg rfl)

namespace Holding

variable {policy : ShortSales} {before after final : Holding} {quantity amount : Decimal} {action : Action}
  {profit : Option Decimal} {lines : List DatedLine} {realized : List Realized}

/-- The sums of shares that a purchase makes are exact: what the holding has with what it buys, or, against
a short position, with what that covers, and what is then left of the purchase. -/
def BuysExactly (policy : ShortSales) (holding : Holding) (quantity : Decimal) : Prop :=
  let covered := quantity.min holding.shares.neg
  if policy = .trackInventory ∧ holding.shares < Decimal.zero then
    IsExact (holding.shares.add covered) (holding.shares.toRat + covered.toRat) ∧
      IsExact (quantity.sub covered) (quantity.toRat - covered.toRat)
  else IsExact (holding.shares.add quantity) (holding.shares.toRat + quantity.toRat)

/-- The differences of shares that a sale makes are exact: what the holding has without what it sells, or
what is sold beyond that. -/
def SellsExactly (policy : ShortSales) (holding : Holding) (quantity : Decimal) : Prop :=
  let sold := quantity.min holding.shares
  if Decimal.zero < holding.shares then
    if policy = .trackInventory ∧ sold < quantity then IsExact (quantity.sub sold) (quantity.toRat - sold.toRat)
    else IsExact (holding.shares.sub sold) (holding.shares.toRat - sold.toRat)
  else policy = .trackInventory → IsExact (holding.shares.sub quantity) (holding.shares.toRat - quantity.toRat)

/-- No addition of shares rounds when the line is posted. -/
def MovesExactly (policy : ShortSales) (holding : Holding) (action : Action) (quantity : Decimal) : Prop :=
  match action with
  | .buy => holding.BuysExactly policy quantity.abs
  | .sell | .sellShort => holding.SellsExactly policy quantity.abs
  | .dividend | .other _ => True

instance (holding : Holding) (quantity : Decimal) : Decidable (holding.BuysExactly policy quantity) :=
  inferInstanceAs (Decidable (@ite ..))

instance (holding : Holding) (quantity : Decimal) : Decidable (holding.SellsExactly policy quantity) :=
  inferInstanceAs (Decidable (@ite ..))

instance (holding : Holding) (action : Action) (quantity : Decimal) :
    Decidable (holding.MovesExactly policy action quantity) :=
  match action with
  | .buy => inferInstanceAs (Decidable (BuysExactly ..))
  | .sell => inferInstanceAs (Decidable (SellsExactly ..))
  | .sellShort => inferInstanceAs (Decidable (SellsExactly ..))
  | .dividend => .isTrue trivial
  | .other _ => .isTrue trivial

/-- Whichever part of a short position a purchase covers, the shares after it are a decimal. -/
theorem BuysExactly.exists_position {quantity : Decimal} (unrounded : before.BuysExactly policy quantity) :
    ∃ c : Decimal, before.shares.toRat + quantity.toRat = c.toRat := by
  rw [BuysExactly] at unrounded
  split at unrounded
  case isTrue =>
    rw [toRat_min, toRat_neg] at unrounded
    obtain ⟨⟨c, _, covers⟩, ⟨d, _, rest⟩⟩ := unrounded
    rcases le_total quantity.toRat (-before.shares.toRat) with part | beyond
    · rw [min_eq_left part] at covers
      exact ⟨c, covers.symm⟩
    · rw [min_eq_right beyond] at rest
      exact ⟨d, by rw [rest, sub_neg_eq_add, add_comm]⟩
  case isFalse =>
    obtain ⟨c, _, same⟩ := unrounded
    exact ⟨c, same.symm⟩

/-- So are they after a sale, within the shares held or beyond them. -/
theorem SellsExactly.exists_position {quantity : Decimal} (unrounded : before.SellsExactly policy quantity)
    (traded : 0 ≤ quantity.toRat) : ∃ c : Decimal, policy.position before.shares.toRat (-quantity.toRat) = c.toRat := by
  rw [SellsExactly, toRat_min] at unrounded
  split at unrounded
  case isTrue owned =>
    split at unrounded
    case isTrue through =>
      obtain ⟨tracked, beyond⟩ := through
      rw [lt_iff, toRat_min, min_lt_iff, or_iff_right (lt_irrefl _)] at beyond
      rw [min_eq_right beyond.le] at unrounded
      obtain ⟨c, _, same⟩ := unrounded
      refine ⟨c.neg, ?_⟩
      rw [tracked, toRat_neg, same, ShortSales.position, neg_sub, sub_eq_add_neg]
    case isFalse within =>
      obtain ⟨c, _, same⟩ := unrounded
      refine ⟨c, ?_⟩
      rw [same]
      rcases le_total quantity.toRat before.shares.toRat with part | whole
      · rw [min_eq_left part, ShortSales.position_of_nonneg fun _ => by linarith, sub_eq_add_neg]
      · rw [min_eq_right whole, sub_self]
        cases policy with
        | trackInventory =>
          have enough : quantity.toRat ≤ before.shares.toRat := by
            by_contra beyond
            exact within ⟨rfl, by rw [lt_iff, toRat_min]; exact min_lt_iff.mpr (.inr (not_le.mp beyond))⟩
          exact add_neg_eq_zero.mpr (le_antisymm whole enough)
        | proceedsAsPnl => exact max_eq_left (by linarith)
  case isFalse unowned =>
    rw [lt_iff, toRat_zero, not_lt] at unowned
    cases policy with
    | trackInventory =>
      obtain ⟨c, _, same⟩ := unrounded rfl
      exact ⟨c, by rw [same, ShortSales.position, sub_eq_add_neg]⟩
    | proceedsAsPnl => exact ⟨.zero, by rw [toRat_zero, ShortSales.position, max_eq_left (by linarith)]⟩

/-- The shares after a line are the position after it, rounded once. -/
theorem Posting.shares_rounds (posting : Posting policy before quantity amount action after profit)
    (nonneg : policy = .proceedsAsPnl → 0 ≤ before.shares.toRat) :
    Rounds after.shares (policy.position before.shares.toRat (action.shareChange quantity.toRat)) := by
  cases posting with
  | idle untraded =>
    rw [Action.shareChange_of_untraded untraded, ShortSales.position_of_nonneg (by rwa [add_zero]), add_zero]
    exact .of_eq rfl
  | bought traded covers shares cost =>
    rw [Action.shareChange, ShortSales.position_of_nonneg fun untracked => by have := nonneg untracked; positivity]
    exact shares
  | covered traded tracked owed part_eq average share left realized =>
    rw [tracked]
    cases left with
    | short part shares owed rest cost => exact shares
    | closed whole shares cost =>
      refine .of_eq ?_
      rw [shares, Action.shareChange, whole, ShortSales.position, add_neg_cancel]
    | turned beyond shares owned cost => exact shares
  | sold sale traded owned part_eq enough average left realized =>
    rw [Action.shareChange_of_sale sale]
    cases left with
    | long part shares owned rest cost =>
      rw [ShortSales.position_of_nonneg fun _ => by linarith, ← sub_eq_add_neg]
      exact shares
    | closed whole shares cost =>
      refine .of_eq ?_
      rw [shares]
      cases policy with
      | trackInventory => exact (add_neg_eq_zero.mpr (le_antisymm whole (enough rfl))).symm
      | proceedsAsPnl => exact (max_eq_left (by linarith)).symm
  | soldThrough sale tracked owned part_eq beyond average share shares owed rest cost realized =>
    rw [Action.shareChange_of_sale sale, tracked, ShortSales.position, ← sub_eq_add_neg]
    exact shares
  | proceeds sale traded untracked unowned =>
    subst untracked
    refine .of_eq ?_
    rw [Action.shareChange_of_sale sale, ShortSales.position, max_eq_left (by linarith)]
    exact le_antisymm unowned (nonneg rfl)
  | shorted sale traded tracked unowned shares owed cost =>
    rw [Action.shareChange_of_sale sale, tracked, ShortSales.position, ← sub_eq_add_neg]
    exact shares

theorem MovesExactly.exists_position (unrounded : before.MovesExactly policy action quantity)
    (nonneg : policy = .proceedsAsPnl → 0 ≤ before.shares.toRat) :
    ∃ c : Decimal, policy.position before.shares.toRat (action.shareChange quantity.toRat) = c.toRat := by
  have sold (sells : before.SellsExactly policy quantity.abs) :
      ∃ c : Decimal, policy.position before.shares.toRat (-|quantity.toRat|) = c.toRat := by
    rw [← toRat_abs]
    exact sells.exists_position (by rw [toRat_abs]; exact abs_nonneg _)
  have still : policy.position before.shares.toRat 0 = before.shares.toRat := by
    rw [ShortSales.position_of_nonneg (by rwa [add_zero]), add_zero]
  cases action with
  | buy =>
    obtain ⟨c, same⟩ := BuysExactly.exists_position unrounded
    rw [toRat_abs] at same
    refine ⟨c, ?_⟩
    rw [← same, Action.shareChange, ShortSales.position_of_nonneg fun untracked => ?_]
    exact add_nonneg (nonneg untracked) (abs_nonneg _)
  | sell => exact sold unrounded
  | sellShort => exact sold unrounded
  | dividend => exact ⟨before.shares, still⟩
  | other label => exact ⟨before.shares, still⟩

/-- No line of a run rounds a sum of shares. -/
def MovesAllExactly (policy : ShortSales) : Holding → List DatedLine → Prop :=
  Along (fun holding dated => (holding.post policy dated).map Prod.fst)
    (fun holding dated => holding.MovesExactly policy dated.line.action dated.line.quantity)

instance (holding : Holding) (lines : List DatedLine) : Decidable (holding.MovesAllExactly policy lines) :=
  inferInstanceAs (Decidable (Along ..))

/-- Then the shares after a line are the position after it. -/
theorem post_shares {dated : DatedLine} {first : Option Realized}
    (posted : before.post policy dated = .ok (after, first))
    (unrounded : before.MovesExactly policy dated.line.action dated.line.quantity)
    (nonneg : policy = .proceedsAsPnl → 0 ≤ before.shares.toRat) :
    after.shares.toRat = policy.position before.shares.toRat dated.line.shareChange := by
  rw [post] at posted
  obtain ⟨⟨left, pnl⟩, applied, posted⟩ := bind_eq_ok.mp posted
  cases posted
  obtain ⟨profit, _, posting⟩ := apply_posts applied
  obtain ⟨c, same⟩ := unrounded.exists_position nonneg
  exact (posting.shares_rounds nonneg).eq_of_eq same

theorem postAll_shares (ran : postAll policy before lines = .ok (final, realized))
    (unrounded : before.MovesAllExactly policy lines) (nonneg : policy = .proceedsAsPnl → 0 ≤ before.shares.toRat) :
    final.shares.toRat =
      lines.foldl (fun shares dated => policy.position shares dated.line.shareChange) before.shares.toRat := by
  induction lines generalizing before realized with
  | nil =>
    cases ran
    rfl
  | cons dated rest ih =>
    obtain ⟨next, first, later, posted, followed, _⟩ := postAll_cons.mp ran
    have moved := post_shares posted unrounded.head nonneg
    have next_nonneg : policy = .proceedsAsPnl → 0 ≤ next.shares.toRat := by
      rintro rfl
      rw [moved]
      exact le_max_left ..
    rw [List.foldl_cons, ← moved]
    exact ih followed (unrounded.tail (by rw [posted]; rfl)) next_nonneg

end Holding

section Net

variable {dated : DatedLine} {lines : List DatedLine}

/-- The shares bought less the shares sold. -/
def netShares (lines : List DatedLine) : ℚ := (lines.map fun dated => dated.line.shareChange).sum

/-- The lowest net quantity that the lines come to, before the first of them or after any. -/
def lowestNetShares (lines : List DatedLine) : ℚ :=
  (Finset.range (lines.length + 1)).inf' Finset.nonempty_range_add_one fun k => netShares (lines.take k)

theorem netShares_cons : netShares (dated :: lines) = dated.line.shareChange + netShares lines := by
  rw [netShares, List.map_cons, List.sum_cons, netShares]

theorem lowestNetShares_le {k : ℕ} (reached : k ≤ lines.length) :
    lowestNetShares lines ≤ netShares (lines.take k) :=
  Finset.inf'_le _ (Finset.mem_range_succ_iff.mpr reached)

theorem lowestNetShares_nonpos : lowestNetShares lines ≤ 0 := lowestNetShares_le (Nat.zero_le _)

theorem lowestNetShares_nil : lowestNetShares [] = 0 := rfl

/-- The lowest point is the start, or it is the lowest point of what follows the first line. -/
theorem lowestNetShares_cons :
    lowestNetShares (dated :: lines) = min 0 (dated.line.shareChange + lowestNetShares lines) := by
  apply le_antisymm
  · refine le_min lowestNetShares_nonpos ?_
    obtain ⟨k, reached, lowest⟩ := Finset.exists_mem_eq_inf' Finset.nonempty_range_add_one
      fun k => netShares (lines.take k)
    have later : lowestNetShares (dated :: lines) ≤ netShares ((dated :: lines).take (k + 1)) :=
      lowestNetShares_le (Nat.succ_le_succ (Finset.mem_range_succ_iff.mp reached))
    rw [List.take_succ_cons, netShares_cons] at later
    exact later.trans_eq (congrArg _ lowest.symm)
  · refine Finset.le_inf' _ _ fun k reached => ?_
    cases k with
    | zero => exact min_le_left ..
    | succ k =>
      rw [List.take_succ_cons, netShares_cons]
      refine (min_le_right ..).trans ?_
      gcongr
      exact lowestNetShares_le (Nat.le_of_succ_le_succ (Finset.mem_range_succ_iff.mp reached))

theorem foldl_position_tracked (shares : ℚ) :
    lines.foldl (fun shares dated => ShortSales.position .trackInventory shares dated.line.shareChange) shares =
      shares + netShares lines := by
  induction lines generalizing shares with
  | nil => exact (add_zero shares).symm
  | cons dated rest ih => rw [List.foldl_cons, ih, netShares_cons, ShortSales.position, add_assoc]

/-- From any start, stopping at zero takes away how far the lines would fall below it. -/
theorem foldl_position_proceeds {shares : ℚ} (nonneg : 0 ≤ shares) :
    lines.foldl (fun shares dated => ShortSales.position .proceedsAsPnl shares dated.line.shareChange) shares =
      shares + netShares lines - min 0 (shares + lowestNetShares lines) := by
  induction lines generalizing shares with
  | nil =>
    rw [lowestNetShares_nil, add_zero, min_eq_left nonneg, sub_zero]
    exact (add_zero shares).symm
  | cons dated rest ih =>
    have lowest : lowestNetShares rest ≤ 0 := lowestNetShares_nonpos
    -- The start is not the lowest point, as it is not below zero.
    have deeper : min 0 (shares + min 0 (dated.line.shareChange + lowestNetShares rest)) =
        min 0 (shares + dated.line.shareChange + lowestNetShares rest) := by
      rw [← min_add_add_left, add_zero, ← min_assoc, min_eq_left nonneg, add_assoc]
    rw [List.foldl_cons, ShortSales.position, ih (le_max_left ..), netShares_cons, lowestNetShares_cons, deeper]
    rcases le_total 0 (shares + dated.line.shareChange) with above | below
    · rw [max_eq_right above]
      ring
    · rw [max_eq_left below, zero_add, zero_add, min_eq_right lowest, min_eq_right (add_nonpos below lowest)]
      ring

end Net

/-- Lines posted to a holding without shares, in any order of buying and selling, where no addition of
shares rounds. With short positions tracked the shares at the end are the net quantity of the lines;
without, they are the net quantity above its lowest point, the start included. -/
theorem Holding.postAll_position {policy : ShortSales} {lines : List DatedLine} {final : Holding}
    {realized : List Realized} (ran : flat.postAll policy lines = .ok (final, realized))
    (unrounded : flat.MovesAllExactly policy lines) :
    (policy = .trackInventory → final.shares.toRat = netShares lines) ∧
      (policy = .proceedsAsPnl → final.shares.toRat = netShares lines - lowestNetShares lines) := by
  have none : flat.shares.toRat = 0 := toRat_zero
  rw [postAll_shares ran unrounded fun _ => none.ge, none]
  constructor
  · rintro rfl
    rw [foldl_position_tracked, zero_add]
  · rintro rfl
    rw [foldl_position_proceeds le_rfl, zero_add, zero_add, min_eq_right lowestNetShares_nonpos]

/-- Shares sold before any are held, bought, sold through and bought again. -/
def Holding.reflectedLines : List DatedLine :=
  [(.sell, 2), (.buy, 10), (.sellShort, 15), (.buy, 4), (.sell, 1)].map fun (action, quantity) =>
    ⟨⟨1, by decide, by decide⟩,
      ⟨"A", "X", "X", .equity, Date.ofDayNumber? 1, action, .ofUInt32 quantity, .ofUInt32 30⟩⟩

/-- The net quantity falls to seven shares sold short and ends at four of them, three above its lowest
point. -/
theorem Holding.reflected_run_position :
    (∃ final realized, flat.postAll .trackInventory reflectedLines = .ok (final, realized) ∧
      final.shares.toRat = -4) ∧
    ∃ final realized, flat.postAll .proceedsAsPnl reflectedLines = .ok (final, realized) ∧
      final.shares.toRat = 3 := by
  have net : netShares reflectedLines = -4 := by decide +kernel
  have lowest : lowestNetShares reflectedLines = -7 := by decide +kernel
  obtain ⟨⟨final, realized⟩, ran⟩ := exists_of_isOk
    (show (flat.postAll .trackInventory reflectedLines).isOk by decide +kernel)
  obtain ⟨⟨final', realized'⟩, ran'⟩ := exists_of_isOk
    (show (flat.postAll .proceedsAsPnl reflectedLines).isOk by decide +kernel)
  have tracked := (postAll_position ran (by decide +kernel)).1 rfl
  have floored := (postAll_position ran' (by decide +kernel)).2 rfl
  rw [net] at tracked
  rw [net, lowest] at floored
  exact ⟨⟨final, realized, ran, tracked⟩, final', realized', ran', by rw [floored]; norm_num⟩

end TradeLedger
