import TradeLedger.Proofs.Inventory.Growth
import TradeLedger.Proofs.Inventory.Invariant

/-! Conservation of cash. What the sales of a run bring in and what its purchases cost ends up
either in the profit that is realized or in the cost of what is held at the end. The roundings
inside a step cancel between the two, since the basis of a sale leaves the cost with the same
digits that it enters the profit with; what stays is a half cent for each profit and what the
floors at zero cut off. -/
namespace TradeLedger

open Decimal

namespace Holding

/-- The cash behind a holding: what its shares cost, or what a short position still owes. -/
def stake (holding : Holding) : ℚ := if holding.shares.toRat < 0 then -holding.cost.toRat else holding.cost.toRat

theorem stake_of_nonneg {holding : Holding} (owned : 0 ≤ holding.shares.toRat) :
    holding.stake = holding.cost.toRat := if_neg (not_lt.mpr owned)

theorem stake_of_neg {holding : Holding} (owed : holding.shares.toRat < 0) :
    holding.stake = -holding.cost.toRat := if_pos owed

/-- The cash that a line brings in: the amount of a sale, and what a purchase costs with a minus
sign. -/
def cash (action : Action) (quantity amount : Decimal) : ℚ :=
  if quantity.toRat = 0 then 0
  else if action = .buy then -|amount.toRat|
  else if action.isSale = true then amount.toRat
  else 0

namespace Posting

variable {policy : ShortSales} {before after : Holding} {quantity amount basis : Decimal} {action : Action}
  {profit : Option Decimal} {e : ℚ}

theorem cash_of_sale (sale : action.isSale = true) (traded : 0 < |quantity.toRat|) :
    cash action quantity amount = amount.toRat := by
  have other : action ≠ .buy := by
    rintro rfl
    cases sale
  rw [cash, if_neg (abs_pos.mp traded), if_neg other, if_pos sale]

theorem cash_of_buy (traded : 0 < |quantity.toRat|) : cash .buy quantity amount = -|amount.toRat| := by
  rw [cash, if_neg (abs_pos.mp traded), if_pos rfl]

theorem cash_of_idle (untraded : quantity.toRat = 0 ∨ ¬action.trades) : cash action quantity amount = 0 := by
  rcases untraded with none | other
  · exact if_pos none
  · rw [Action.trades, not_or] at other
    rw [cash, if_neg other.1, if_neg other.2, ite_self]

/-- No cost falls below zero by more than the errors of one step: a cost that is not floored is
the rest of an amount of which at most all was taken. -/
theorem cost_above (posting : Posting policy before quantity amount action after profit)
    (calm : Calm e before quantity amount) (above : -(2 * e) ≤ before.cost.toRat) :
    -(2 * e) ≤ after.cost.toRat := by
  have nonneg := calm.nonneg
  have low : -(2 * e) ≤ 0 := by linarith
  have adds : Rounds after.cost (before.cost.toRat + |amount.toRat|) → -(2 * e) ≤ after.cost.toRat := by
    intro rounded
    exact above.trans (rounded.ge_of_ge (le_add_of_nonneg_right (abs_nonneg _)))
  cases posting with
  | idle => exact above
  | bought traded covers shares cost => exact adds cost
  | @covered _ _ basis paid pnl traded tracked owed part_eq average share left realized =>
    cases left with
    | short part shares owed rest cost => exact cost ▸ low.trans (le_max_right ..)
    | closed whole shares cost => exact cost ▸ low
    | turned beyond shares owned cost =>
      obtain ⟨_, paidPart, _⟩ := cover_parts calm traded owed part_eq average share realized
      have rest := paidPart.neg_le_sub le_rfl (by rw [neg_zero]; exact abs_nonneg _)
      have parts := paidPart.abs_add_abs_le
      rw [abs_abs] at parts
      have close := calm.close cost (by
        linarith [calm.small, abs_nonneg paid.toRat, abs_nonneg quantity.toRat, abs_nonneg before.shares.toRat,
          abs_nonneg before.cost.toRat])
      linarith [(abs_le.mp close).1]
  | sold sale traded owned part_eq enough average left realized =>
    cases left with
    | long part shares owned rest cost => exact cost ▸ low.trans (le_max_right ..)
    | closed whole shares cost => exact cost ▸ low
  | soldThrough sale tracked owned part_eq beyond average share shares owed rest cost realized =>
    exact cost ▸ low.trans (abs_nonneg _)
  | proceeds => exact above
  | shorted sale traded tracked unowned shares owed cost => exact adds cost

/-- The floor at zero cuts off no more than the errors of two steps. -/
theorem floored_near (calm : Calm e before quantity amount) (above : -(2 * e) ≤ before.cost.toRat)
    {remaining : Decimal} (near : NearPart e before.cost.toRat basis.toRat)
    (rest : Rounds remaining (before.cost.toRat - basis.toRat)) :
    |max remaining.toRat 0 - (before.cost.toRat - basis.toRat)| ≤ 3 * e := by
  have nonneg := calm.nonneg
  have left := near.neg_le_sub (by linarith) above
  have parts := near.abs_add_abs_le
  have close := abs_le.mp (calm.close rest (by
    linarith [calm.small, abs_nonneg basis.toRat, abs_nonneg quantity.toRat, abs_nonneg before.shares.toRat,
      abs_nonneg amount.toRat]))
  rw [abs_le]
  rcases le_total remaining.toRat 0 with below | above
  · rw [max_eq_right below]
    constructor <;> linarith
  · rw [max_eq_left above]
    constructor <;> linarith

section Closing

variable {part paid backing pnl : Decimal}

/-- A covering purchase realizes what the shares covered were sold for, less what they cost now. -/
theorem cover_conserves (calm : Calm e before quantity amount) (above : -(2 * e) ≤ before.cost.toRat)
    (traded : 0 < |quantity.toRat|) (owed : before.shares.toRat < 0)
    (part_eq : part = quantity.abs.min before.shares.neg) (average : before.basisOf part = .ok basis)
    (share : prorate amount.abs part quantity.abs = .ok paid)
    (left : AfterCover before |quantity.toRat| |amount.toRat| basis paid after)
    (realized : Rounds pnl (basis.toRat - paid.toRat)) :
    |pnl.toRat - (-|amount.toRat| + after.stake + before.cost.toRat)| ≤ 7 * e := by
  obtain ⟨near, paidNear, close⟩ := cover_parts calm traded owed part_eq average share realized
  have part_eq := part_of_cover owed part_eq
  have nonneg := calm.nonneg
  have paidParts := paidNear.abs_add_abs_le
  have close := abs_le.mp close
  rw [abs_abs] at paidParts
  rw [abs_le]
  cases left with
  | short part shares owes rest cost =>
    have floored := abs_le.mp (floored_near calm above near rest)
    have whole := calm.share_whole part_eq (by rw [toRat_abs, abs_abs]) traded
      (by rw [abs_of_neg owed]; exact part.le) share
    rw [toRat_abs] at whole
    have whole := abs_le.mp whole
    rw [stake_of_neg owes, cost]
    constructor <;> linarith
  | closed whole shares cost =>
    have same : |quantity.toRat| = |before.shares.toRat| := by rw [abs_of_neg owed, whole]
    have paidWhole := calm.share_whole part_eq (by rw [toRat_abs, abs_abs]) traded same.le share
    rw [toRat_abs] at paidWhole
    have paidWhole := abs_le.mp paidWhole
    have basisWhole := abs_le.mp (calm.basis_whole part_eq owed.ne same.ge average)
    rw [stake_of_nonneg shares.ge, cost]
    constructor <;> linarith
  | turned beyond shares owned cost =>
    have basisWhole := abs_le.mp (calm.basis_whole part_eq owed.ne
      (by rw [abs_of_neg owed]; exact beyond.le) average)
    have opened := abs_le.mp (calm.close cost (by
      linarith [calm.small, abs_nonneg paid.toRat, abs_nonneg quantity.toRat, abs_nonneg before.shares.toRat,
        abs_nonneg before.cost.toRat]))
    rw [stake_of_nonneg owned.le]
    constructor <;> linarith

/-- A sale realizes its amount, less what the shares sold cost. -/
theorem sale_conserves (calm : Calm e before quantity amount) (above : -(2 * e) ≤ before.cost.toRat)
    (owned : 0 < before.shares.toRat) (part_eq : part = quantity.abs.min before.shares)
    (average : before.basisOf part = .ok basis) (left : AfterSale before |quantity.toRat| basis after)
    (realized : Rounds pnl (amount.toRat - basis.toRat)) :
    |pnl.toRat - (amount.toRat + after.stake - before.cost.toRat)| ≤ 7 * e := by
  obtain ⟨near, close⟩ := sale_parts calm owned part_eq average realized
  have nonneg := calm.nonneg
  have close := abs_le.mp close
  rw [abs_le]
  cases left with
  | long part shares owns rest cost =>
    have floored := abs_le.mp (floored_near calm above near rest)
    rw [stake_of_nonneg owns.le, cost]
    constructor <;> linarith
  | closed whole shares cost =>
    have basisWhole := abs_le.mp (calm.basis_whole (part_of_sale owned part_eq) owned.ne'
      (by rw [abs_of_pos owned]; exact whole) average)
    rw [stake_of_nonneg shares.ge, cost]
    constructor <;> linarith

/-- A sale through a long position realizes the part of its amount that closes the position, less all
of its cost. With proceeds that are not negative, what backs the short position is not either, up to
errors. -/
theorem through_conserves (calm : Calm e before quantity amount) (proceeds : 0 ≤ amount.toRat)
    (owned : 0 < before.shares.toRat) (beyond : before.shares.toRat < |quantity.toRat|)
    (part_eq : part = quantity.abs.min before.shares) (average : before.basisOf part = .ok basis)
    (share : prorate amount part quantity.abs = .ok paid) (rest : Rounds backing (amount.toRat - paid.toRat))
    (realized : Rounds pnl (paid.toRat - basis.toRat)) :
    |pnl.toRat - (amount.toRat - |backing.toRat| - before.cost.toRat)| ≤ 7 * e := by
  obtain ⟨_, paidNear, backed, close⟩ := through_parts calm owned beyond part_eq average share rest realized
  have nonneg := calm.nonneg
  have backed := abs_le.mp backed
  have close := abs_le.mp close
  have basisWhole := abs_le.mp (calm.basis_whole (part_of_sale owned part_eq) owned.ne'
    (by rw [abs_of_pos owned]; exact beyond.le) average)
  have positive := paidNear.neg_le_sub le_rfl (by rwa [neg_zero])
  have upper : |backing.toRat| ≤ backing.toRat + 4 * e := by
    rw [abs_le]
    constructor <;> linarith
  have lower := le_abs_self backing.toRat
  rw [abs_le]
  constructor <;> linarith

end Closing

/-- A step realizes the cash that it brings in and that no longer stands behind the holding. -/
theorem conserves (posting : Posting policy before quantity amount action after profit)
    (calm : Calm e before quantity amount) (sound : before.Sound policy)
    (above : -(2 * e) ≤ before.cost.toRat)
    (proper : policy = .trackInventory → action.isSale = true → 0 ≤ amount.toRat) :
    |gain profit - (cash action quantity amount + after.stake - before.stake)| ≤ 7 * e := by
  have nonneg := calm.nonneg
  have adds : Rounds after.cost (before.cost.toRat + |amount.toRat|) →
      |after.cost.toRat - (before.cost.toRat + |amount.toRat|)| ≤ e := by
    intro rounded
    have added := abs_add_le before.cost.toRat |amount.toRat|
    rw [abs_abs] at added
    exact calm.close rounded (by linarith [abs_nonneg quantity.toRat, abs_nonneg before.shares.toRat])
  cases posting with
  | idle untraded =>
    rw [gain_none, cash_of_idle untraded, zero_add, sub_self, sub_zero, abs_zero]
    positivity
  | bought traded covers shares cost =>
    have long : 0 ≤ before.shares.toRat := by
      cases policy with
      | proceedsAsPnl => exact (sound.owned rfl).1
      | trackInventory => exact covers rfl
    have close := abs_le.mp (adds cost)
    rw [gain_none, cash_of_buy traded, stake_of_nonneg long, stake_of_nonneg (shares.nonneg (by positivity)), abs_le]
    constructor <;> linarith
  | covered traded tracked owed part_eq average share left realized =>
    have conserved := cover_conserves calm above traded owed part_eq average share left realized
    rwa [gain_some, cash_of_buy traded, stake_of_neg owed, sub_neg_eq_add]
  | sold sale traded owned part_eq enough average left realized =>
    rw [gain_some, cash_of_sale sale traded, stake_of_nonneg owned.le]
    exact sale_conserves calm above owned part_eq average left realized
  | soldThrough sale tracked owned part_eq beyond average share shares owed rest cost realized =>
    have conserved := through_conserves calm (proper tracked sale) owned beyond part_eq average share rest realized
    rwa [gain_some, cash_of_sale sale (owned.trans beyond), stake_of_nonneg owned.le, stake_of_neg owed, cost,
      ← sub_eq_add_neg]
  | proceeds sale traded untracked unowned =>
    rw [gain_some, cash_of_sale sale traded, add_sub_cancel_right, sub_self, abs_zero]
    positivity
  | shorted sale traded tracked unowned shares owed cost =>
    have close := abs_le.mp (adds cost)
    have received := abs_of_nonneg (proper tracked sale)
    have stood : before.stake = -before.cost.toRat := by
      rcases unowned.lt_or_eq with owes | none
      · exact stake_of_neg owes
      · rw [stake_of_nonneg none.ge, sound.settled none, neg_zero]
    rw [gain_none, cash_of_sale sale traded, stood, stake_of_neg owed, abs_le]
    constructor <;> linarith

end Posting

end Holding

/-- Whether the line is a dated line about shares with a quantity. -/
def LedgerLine.movesShares (line : LedgerLine) : Bool :=
  line.instrument = .equity && line.date.isSome && !line.quantity.isZero

/-- What the sales of shares bring in. -/
def saleProceeds (lines : List LedgerLine) : ℚ :=
  ((lines.filter fun line => line.movesShares && line.action.isSale).map fun line => line.amount.toRat).sum

/-- What the purchases of shares cost. -/
def purchaseCosts (lines : List LedgerLine) : ℚ :=
  ((lines.filter fun line => line.movesShares && line.action = .buy).map fun line => |line.amount.toRat|).sum

/-- The cash of a line about shares. -/
def DatedLine.cash (dated : DatedLine) : ℚ :=
  Holding.cash dated.line.action dated.line.quantity dated.line.amount

private theorem saleProceeds_cons (line : LedgerLine) (lines : List LedgerLine) :
    saleProceeds (line :: lines) =
      (if line.movesShares && line.action.isSale then line.amount.toRat else 0) + saleProceeds lines := by
  by_cases counted : (line.movesShares && line.action.isSale) = true <;> simp [saleProceeds, counted]

private theorem purchaseCosts_cons (line : LedgerLine) (lines : List LedgerLine) :
    purchaseCosts (line :: lines) =
      (if line.movesShares && line.action = .buy then |line.amount.toRat| else 0) + purchaseCosts lines := by
  by_cases counted : (line.movesShares && line.action = .buy) = true <;> simp [purchaseCosts, counted]

private theorem DatedLine.cash_eq {dated : DatedLine} {line : LedgerLine} (equity : ofEquity? line = some dated) :
    dated.cash = (if line.movesShares && line.action.isSale then line.amount.toRat else 0) -
      (if line.movesShares && line.action = .buy then |line.amount.toRat| else 0) := by
  rw [ofEquity?] at equity
  split at equity
  case isFalse => cases equity
  case isTrue about =>
    obtain ⟨date, known, rfl⟩ := Option.map_eq_some_iff.mp equity
    by_cases none : line.quantity.toRat = 0
    · simp [cash, Holding.cash, LedgerLine.movesShares, isZero_iff.mpr none, none]
    · have moves : line.movesShares = true := by
        simp [LedgerLine.movesShares, about, known, isZero_eq_false_iff.mpr none]
      cases acted : line.action <;> simp [cash, Holding.cash, none, moves, acted, Action.isSale]

private theorem DatedLine.sum_cash_eq (lines : List LedgerLine) :
    ((lines.filterMap DatedLine.ofEquity?).map cash).sum = saleProceeds lines - purchaseCosts lines := by
  induction lines with
  | nil => simp [saleProceeds, purchaseCosts]
  | cons line lines ih =>
    rw [saleProceeds_cons, purchaseCosts_cons]
    cases equity : ofEquity? line with
    | none =>
      have still : line.movesShares = false := by
        rw [ofEquity?] at equity
        split at equity
        case isTrue about => simp [LedgerLine.movesShares, Option.map_eq_none_iff.mp equity]
        case isFalse other => simp [LedgerLine.movesShares, other]
      simp [equity, ih, still]
    | some dated =>
      rw [List.filterMap_cons_some equity, List.map_cons, List.sum_cons, ih, cash_eq equity]
      ring

theorem sum_cash_equityByDate (lines : List LedgerLine) :
    ((equityByDate lines).map DatedLine.cash).sum = saleProceeds lines - purchaseCosts lines := by
  rw [← DatedLine.sum_cash_eq]
  exact ((Ordered.sortBy_perm _ _).map _).sum_eq

namespace Book

variable {policy : ShortSales} {book next final : Book} {dated : DatedLine} {lines : List DatedLine} {b e : ℚ}

/-- What a run keeps while it conserves cash. -/
structure Balanced (policy : ShortSales) (b e : ℚ) (book : Book) : Prop where
  within : Within b book
  sound : ∀ key, (book.holding key).Sound policy
  above : ∀ key, -(2 * e) ≤ (book.holding key).cost.toRat

theorem balanced_empty (nonneg : 0 ≤ e) : Balanced policy 0 e ∅ := by
  refine ⟨within_empty le_rfl, fun _ => Holding.sound_flat, ?_⟩
  intro key
  rw [holding_empty, Holding.flat, toRat_zero]
  linarith

/-- What is realized. -/
def pnl (realized : List Realized) : ℚ := (realized.map fun one => one.pnl.toRat).sum

theorem pnl_append (early late : List Realized) : pnl (early ++ late) = pnl early + pnl late := by
  rw [pnl, List.map_append, List.sum_append]
  rfl

theorem abs_pnl_sub_gain_le (date : Date) (profit : Option Decimal) :
    |pnl (profit.map fun one => (⟨date, one.roundCents⟩ : Realized)).toList - Holding.gain profit| ≤ 1 / 200 := by
  cases profit with
  | none => norm_num [pnl]
  | some one => simpa [pnl] using one.abs_roundCents_sub_le

/-- One line conserves cash up to a half cent and the errors of its step. -/
theorem Balanced.post {realized : Option Realized} (balanced : Balanced policy b e book)
    (moderate : dated.line.Moderate (1 / 10 ^ 8))
    (calm : Calm e (book.holding (keyOf dated)) dated.line.quantity dated.line.amount)
    (proper : policy = .trackInventory → dated.line.action.isSale = true → 0 ≤ dated.line.amount.toRat)
    (posted : book.post policy dated = .ok (next, realized)) :
    Balanced policy (b + 2 * 10 ^ 15) e next ∧
      |pnl realized.toList - (dated.cash + next.total Holding.stake - book.total Holding.stake)| ≤
        1 / 200 + 7 * e := by
  have within := balanced.within.post moderate calm posted
  obtain ⟨after, profit, rfl, rfl, posting⟩ := post_posts posted
  have above := posting.cost_above calm (balanced.above _)
  refine ⟨⟨within, ?_, ?_⟩, ?_⟩
  · exact forall_holding_insert (posting.sound (balanced.sound _)) balanced.sound (keyOf dated)
  · exact forall_holding_insert (P := fun holding => -(2 * e) ≤ holding.cost.toRat) above balanced.above (keyOf dated)
  · have rounded := abs_pnl_sub_gain_le dated.date profit
    have conserved := posting.conserves calm (balanced.sound _) (balanced.above _) proper
    have stakes : OrderedMap.total Holding.stake (book.insert (keyOf dated) after) =
        book.total Holding.stake - (book.holding (keyOf dated)).stake + after.stake :=
      OrderedMap.total_insert _ (by simp [Holding.flat, Holding.stake])
    rw [stakes]
    rw [abs_le] at rounded conserved ⊢
    change _ ≤ Holding.gain profit - (dated.cash + _ - _) ∧ Holding.gain profit - (dated.cash + _ - _) ≤ _ at conserved
    constructor <;> linarith

theorem postAll_conserves {k : ℕ} {realized : List Realized}
    (balanced : Balanced policy (2 * 10 ^ 15 * k) (1 / 10 ^ 6) book) (few : k + lines.length ≤ 10 ^ 6)
    (moderate : ∀ dated ∈ lines, dated.line.Moderate (1 / 10 ^ 8))
    (proper : ∀ dated ∈ lines, policy = .trackInventory → dated.line.action.isSale = true →
      0 ≤ dated.line.amount.toRat)
    (ran : postAll policy book lines = .ok (final, realized)) :
    |pnl realized - ((lines.map DatedLine.cash).sum + final.total Holding.stake - book.total Holding.stake)| ≤
      lines.length / 100 := by
  induction lines generalizing k book realized with
  | nil =>
    cases ran
    simp [pnl]
  | cons dated rest ih =>
    obtain ⟨next, first, later, posted, followed, rfl⟩ := postAll_cons.mp ran
    rw [List.length_cons] at few
    have bound : (k : ℚ) ≤ 10 ^ 6 := by exact_mod_cast (show k ≤ 10 ^ 6 by omega)
    have calm := balanced.within.calm (moderate dated List.mem_cons_self) (by positivity)
      (e := 1 / 10 ^ 6) (by norm_num) (by norm_num; linarith)
    obtain ⟨kept, step⟩ := balanced.post (moderate dated List.mem_cons_self) calm
      (proper dated List.mem_cons_self) posted
    have kept : Balanced policy (2 * 10 ^ 15 * (k + 1 : ℕ)) (1 / 10 ^ 6) next :=
      { kept with within := kept.within.succ }
    have others := ih kept (by omega) (fun other member => moderate other (List.mem_cons_of_mem _ member))
      (fun other member => proper other (List.mem_cons_of_mem _ member)) followed
    rw [pnl_append, List.map_cons, List.sum_cons, List.length_cons]
    push_cast
    rw [abs_le] at step others ⊢
    constructor <;> linarith

/-- What a run realizes is what its sales bring in, less what its purchases cost, and the cash behind
what is held at the end, up to a cent for each line of the ledger. -/
theorem run_conserves_cash {lines : List LedgerLine} {realized : List Realized} (few : lines.length ≤ 10 ^ 6)
    (quantities : ∀ line ∈ lines, line.quantity.toRat = 0 ∨
      (1 / 10 ^ 8 ≤ |line.quantity.toRat| ∧ |line.quantity.toRat| ≤ 10 ^ 15))
    (amounts : ∀ line ∈ lines, |line.amount.toRat| ≤ 10 ^ 15)
    (proceeds : policy = .trackInventory → ∀ line ∈ lines, line.action.isSale = true → 0 ≤ line.amount.toRat)
    (ran : run policy ∅ lines = .ok (final, realized)) :
    |(realized.map fun one => one.pnl.toRat).sum -
      (saleProceeds lines - purchaseCosts lines + final.total Holding.stake)| ≤ lines.length / 100 := by
  have shorter := length_equityByDate_le lines
  have moderate : ∀ dated ∈ equityByDate lines, dated.line.Moderate (1 / 10 ^ 8) := by
    intro dated member
    have amount := amounts _ (line_of_mem_equityByDate member)
    rcases quantities _ (line_of_mem_equityByDate member) with none | ⟨least, most⟩
    · exact ⟨amount, by rw [none, abs_zero]; positivity, .inl none⟩
    · exact ⟨amount, most, .inr least⟩
  have conserved := postAll_conserves (k := 0) (by
    rw [Nat.cast_zero, mul_zero]
    exact balanced_empty (by positivity)) (by omega) moderate
    (fun dated member tracked => proceeds tracked _ (line_of_mem_equityByDate member)) ran
  rw [sum_cash_equityByDate, OrderedMap.total_empty, sub_zero] at conserved
  have fewer : ((equityByDate lines).length : ℚ) ≤ lines.length := by exact_mod_cast shorter
  exact conserved.trans (by linarith)

/-- Three shares bought, five sold a day later and three bought again: the sale goes through the
shares held into a short position, and the last purchase covers it and keeps one share. -/
def crossingLines : List LedgerLine :=
  [⟨"A", "X", "X", .equity, Date.ofDayNumber? 1, .buy, .ofUInt32 3, .ofUInt32 10⟩,
    ⟨"A", "X", "X", .equity, Date.ofDayNumber? 2, .sell, .ofUInt32 5, .ofUInt32 20⟩,
    ⟨"A", "X", "X", .equity, Date.ofDayNumber? 3, .buy, .ofUInt32 3, .ofUInt32 11⟩]

theorem crossing_run_conserves_cash :
    ∃ final realized, run .trackInventory ∅ crossingLines = .ok (final, realized) ∧
      |(realized.map fun one => one.pnl.toRat).sum - (20 - 21 + final.total Holding.stake)| ≤ 3 / 100 := by
  obtain ⟨⟨final, realized⟩, ran⟩ := exists_of_isOk (show (run .trackInventory ∅ crossingLines).isOk by
    decide +kernel)
  have conserved := run_conserves_cash (by decide) (by decide +kernel) (by decide +kernel)
    (fun _ => by decide +kernel) ran
  have sales : saleProceeds crossingLines = 20 := by decide +kernel
  have purchases : purchaseCosts crossingLines = 21 := by decide +kernel
  rw [sales, purchases] at conserved
  exact ⟨final, realized, ran, conserved⟩

end Book

end TradeLedger
