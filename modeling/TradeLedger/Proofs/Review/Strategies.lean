import TradeLedger.Proofs.Decimal.Fraction
import TradeLedger.Proofs.Decimal.Totals
import TradeLedger.Proofs.Ordered.Argmax
import TradeLedger.Proofs.Ordered.Grouping
import TradeLedger.Proofs.Ordered.Parts
import TradeLedger.Proofs.Text.ByteOrder
import TradeLedger.Review.Strategy

/-! The most consistent strategy. Every strategy has one record, in the order of the names, with its trades, its
winners and its profit. Records are compared by rounded win rates, but these are ordered as the fractions of winners
among trades. So the strategy that is found is the one with the greatest fraction, of several the one named first. -/
namespace TradeLedger.Review

variable {groups : List TradeGroup} {tally : Tally} {tallies : OrderedMap String Tally} {strategy : String}

/-- The trades of one strategy. -/
def tradesOf (groups : List TradeGroup) (strategy : String) : List TradeGroup :=
  OrderedMap.ofKey TradeGroup.strategy groups strategy

/-- The profits of one strategy. -/
def profitsOf (groups : List TradeGroup) (strategy : String) : List Decimal :=
  (tradesOf groups strategy).map (·.pnl)

/-- A tally counts trades and winners and adds up the profits. -/
theorem Tally.foldlM_add (tally : Tally) (groups : List TradeGroup) :
    groups.foldlM Tally.add tally = do
      let pnl ← (groups.map (·.pnl)).foldlM Decimal.add tally.pnl
      return ⟨tally.trades + groups.length, tally.winners + groups.countP (·.isWinner), pnl⟩ := by
  induction groups generalizing tally with
  | nil => rfl
  | cons group groups ih =>
    rw [List.foldlM_cons, List.map_cons, List.foldlM_cons, add]
    cases tally.pnl.add group.pnl with
    | error fault => rfl
    | ok pnl =>
      rw [ok_bind, ok_bind]
      change groups.foldlM add _ = _
      rw [ih]
      cases own : group.isWinner <;>
        simp only [own, List.length_cons, List.countP_cons, Bool.false_eq_true, if_true, if_false] <;> grind

/-- The tally of some trades. -/
structure Tally.Sums (tally : Tally) (groups : List TradeGroup) : Prop where
  trades : tally.trades = groups.length
  winners : tally.winners = groups.countP (·.isWinner)
  pnl : Decimal.total (groups.map (·.pnl)) = .ok tally.pnl

theorem Tally.foldlM_eq_ok_iff : groups.foldlM Tally.add ⟨0, 0, .zero⟩ = .ok tally ↔ tally.Sums groups := by
  rw [foldlM_add, bind_eq_ok]
  constructor
  · rintro ⟨pnl, added, same⟩
    cases same
    exact ⟨Nat.zero_add _, Nat.zero_add _, added⟩
  · intro sums
    refine ⟨tally.pnl, sums.pnl, ?_⟩
    rw [Nat.zero_add, Nat.zero_add, ← sums.trades, ← sums.winners]
    rfl

namespace StrategyRecord

variable {record best : StrategyRecord} {records : List StrategyRecord}

theorem addGroup_eq : addGroup = OrderedMap.addByKey TradeGroup.strategy ⟨0, 0, .zero⟩ Tally.add := rfl

/-- The record of a strategy sums up its trades, and its win rate is the share of winners. -/
structure IsOf (record : StrategyRecord) (groups : List TradeGroup) : Prop where
  sums : record.tally.Sums (tradesOf groups record.strategy)
  winRate : (Decimal.ofCount record.tally.winners).div (.ofCount record.tally.trades) = .ok record.winRate

/-- The records of all strategies, in the order of the bytes of their names. -/
structure Divide (records : List StrategyRecord) (groups : List TradeGroup) : Prop where
  ascending : records.Pairwise fun a b => Text.bytesOf a.strategy < Text.bytesOf b.strategy
  named : ∀ strategy, strategy ∈ records.map (·.strategy) ↔ ∃ group ∈ groups, group.strategy = strategy
  each : ∀ record ∈ records, record.IsOf groups

theorem ofTally_eq_ok {record : StrategyRecord} (rated : ofTally strategy tally = .ok record) :
    record.strategy = strategy ∧ record.tally = tally ∧
      (Decimal.ofCount tally.winners).div (.ofCount tally.trades) = .ok record.winRate := by
  obtain ⟨winRate, divided, same⟩ := bind_eq_ok.mp rated
  cases same
  exact ⟨rfl, rfl, divided⟩

/-- The tally of a strategy sums up its trades. -/
theorem sums_of_filled (filled : groups.foldlM addGroup ∅ = .ok tallies) (strategy : String) :
    (tallies.getD strategy ⟨0, 0, .zero⟩).Sums (tradesOf groups strategy) := by
  rw [addGroup_eq] at filled
  exact Tally.foldlM_eq_ok_iff.mp (OrderedMap.getD_of_foldlM filled strategy)

theorem mem_keys_of_filled (filled : groups.foldlM addGroup ∅ = .ok tallies) (strategy : String) :
    strategy ∈ tallies.keys ↔ ∃ group ∈ groups, group.strategy = strategy := by
  rw [OrderedMap.mem_keys_of_foldlM (addGroup_eq ▸ filled), List.mem_map]
  exact or_iff_right List.not_mem_nil

theorem sums_of_mem_entries (filled : groups.foldlM addGroup ∅ = .ok tallies) {entry : String × Tally}
    (member : entry ∈ tallies.entries) : entry.2.Sums (tradesOf groups entry.1) := by
  have sums := sums_of_filled filled entry.1
  rwa [OrderedMap.getD, OrderedMap.get?_of_mem_entries member, Option.getD_some] at sums

theorem divide_of_ofGroups (answered : ofGroups groups = .ok records) : Divide records groups := by
  obtain ⟨tallies, filled, rated⟩ := bind_eq_ok.mp answered
  have names : records.map (·.strategy) = tallies.keys := by
    rw [OrderedMap.keys, eq_comm, ← List.forall₂_eq_eq_eq, List.forall₂_map_left_iff, List.forall₂_map_right_iff]
    exact (mapM_eq_ok_iff.mp rated).imp fun _ _ rated => (ofTally_eq_ok rated).1.symm
  refine ⟨?_, fun strategy => ?_, fun record member => ?_⟩
  · have ascending : (records.map (·.strategy)).Pairwise fun a b => compare a b = .lt := by
      rw [names]
      exact List.pairwise_map.mpr tallies.ascending
    exact (List.pairwise_map.mp ascending).imp fun less => (Text.compare_eq_lt_iff _ _).mp less
  · rw [names, mem_keys_of_filled filled]
  · obtain ⟨entry, listed, rated⟩ := exists_of_mem_mapM rated record member
    obtain ⟨name, tally, divided⟩ := ofTally_eq_ok rated
    exact ⟨name ▸ tally ▸ sums_of_mem_entries filled listed, tally ▸ divided⟩

/-- A tally of trades has a win rate, which is a fraction. -/
theorem ofTally_exists (strategy : String) (traded : 0 < tally.trades) (fewer : tally.winners ≤ tally.trades) :
    ∃ record, ofTally strategy tally = .ok record := by
  have trades : 0 < (Decimal.ofCount tally.trades).toRat := by
    rw [Decimal.toRat_ofCount]
    exact_mod_cast Nat.lt_min.mpr ⟨traded, by decide⟩
  have part : (Decimal.ofCount tally.winners).toRat ≤ (Decimal.ofCount tally.trades).toRat := by
    rw [Decimal.toRat_ofCount, Decimal.toRat_ofCount]
    exact_mod_cast min_le_min_right _ fewer
  have nonneg : 0 ≤ (Decimal.ofCount tally.winners).toRat := by
    rw [Decimal.toRat_ofCount]
    positivity
  have small : |(Decimal.ofCount tally.winners).toRat / (Decimal.ofCount tally.trades).toRat| < Decimal.limit := by
    rw [abs_of_nonneg (div_nonneg nonneg trades.le), Decimal.limit_eq]
    exact ((div_le_one trades).mpr part).trans_lt (by norm_num)
  obtain ⟨winRate, divided, _⟩ := (Decimal.div_computes _ (Decimal.ofCount_isZero traded)).exists_ok small
  exact ⟨⟨strategy, tally, winRate⟩, by rw [ofTally, divided]; rfl⟩

/-- There are records if and only if the profits of every strategy can be added up. -/
theorem exists_ofGroups_iff : (∃ records, ofGroups groups = .ok records) ↔
    ∀ group ∈ groups, ∃ pnl, Decimal.total (profitsOf groups group.strategy) = .ok pnl := by
  constructor
  · rintro ⟨records, answered⟩ group _
    obtain ⟨tallies, filled, _⟩ := bind_eq_ok.mp answered
    exact ⟨_, (sums_of_filled filled group.strategy).pnl⟩
  · intro totals
    have tallied : ∃ tallies, groups.foldlM addGroup ∅ = .ok tallies := by
      rw [addGroup_eq]
      apply OrderedMap.exists_foldlM_addByKey
      intro group member
      obtain ⟨pnl, total⟩ := totals group member
      exact ⟨⟨_, _, pnl⟩, Tally.foldlM_eq_ok_iff.mpr ⟨rfl, rfl, total⟩⟩
    obtain ⟨tallies, filled⟩ := tallied
    have rated : ∀ entry ∈ tallies.entries, ∃ record, ofTally entry.1 entry.2 = .ok record := by
      intro entry member
      have sums := sums_of_mem_entries filled member
      obtain ⟨group, listed, own⟩ := (mem_keys_of_filled filled entry.1).mp (List.mem_map_of_mem member)
      apply ofTally_exists
      · rw [sums.trades]
        exact List.length_pos_of_mem (List.mem_filter.mpr ⟨listed, decide_eq_true own⟩)
      · rw [sums.trades, sums.winners]
        exact List.countP_le_length
    obtain ⟨records, rated⟩ := exists_mapM rated
    exact ⟨records, by rw [ofGroups, filled, ok_bind]; exact rated⟩

/-- The records divide the trades. -/
theorem Divide.sum_eq {M : Type} [AddCommMonoid M] (divide : Divide records groups) (f : TradeGroup → M) :
    (records.map fun record => ((tradesOf groups record.strategy).map f).sum).sum = (groups.map f).sum := by
  have once : (records.map (·.strategy)).Nodup :=
    List.pairwise_map.mpr (divide.ascending.imp fun {a b} less same => by
      rw [same] at less
      exact List.lt_irrefl _ less)
  have parts := sum_parts_of_nodup TradeGroup.strategy f once fun group member =>
    (divide.named group.strategy).mpr ⟨group, member, rfl⟩
  rwa [List.map_map] at parts

theorem Divide.sum_trades (divide : Divide records groups) :
    (records.map fun record => record.tally.trades).sum = groups.length := by
  have ones : ∀ list : List TradeGroup, list.length = (list.map fun _ => 1).sum := by simp
  rw [ones groups, ← divide.sum_eq]
  exact congrArg List.sum (List.map_congr_left fun record member => by rw [(divide.each record member).sums.trades, ones])

theorem Divide.sum_winners (divide : Divide records groups) :
    (records.map fun record => record.tally.winners).sum = groups.countP (·.isWinner) := by
  rw [countP_eq_sum, ← divide.sum_eq]
  exact congrArg List.sum (List.map_congr_left fun record member => by
    rw [(divide.each record member).sums.winners, countP_eq_sum])

theorem Divide.sum_pnl (divide : Divide records groups)
    (unrounded : ∀ group ∈ groups, Decimal.TotalsExactly (profitsOf groups group.strategy)) :
    (records.map fun record => record.tally.pnl.toRat).sum = (groups.map fun group => group.pnl.toRat).sum := by
  rw [← divide.sum_eq]
  refine congrArg List.sum (List.map_congr_left fun record member => ?_)
  obtain ⟨group, listed, named⟩ := (divide.named record.strategy).mp (List.mem_map_of_mem member)
  have added := Decimal.total_exact (unrounded group listed)
  rw [named] at added
  rw [added.toRat_eq (divide.each record member).sums.pnl, profitsOf, List.map_map]
  rfl

theorem mostConsistent?_eq_argmax (records : List StrategyRecord) :
    mostConsistent? records =
      (records.filter fun record => fewestTrades ≤ record.tally.trades).argmax fun record => record.winRate.toRat := by
  apply Ordered.foldl_eq_argmax
  · exact fun _ => rfl
  · intro held record
    rw [better]
    simp only [Decimal.le_iff, ← not_lt, ite_not]

theorem IsOf.isShare (own : record.IsOf groups) (few : groups.length ≤ Decimal.mostCounted)
    (traded : 0 < record.tally.trades) :
    Decimal.IsShare record.winRate record.tally.winners record.tally.trades where
  divided := own.winRate
  positive := traded
  le := by
    rw [own.sums.winners, own.sums.trades]
    exact List.countP_le_length
  few := by
    rw [own.sums.trades]
    exact (List.length_filter_le ..).trans few

/-- Among the strategies with two trades or more one has the greatest fraction of winners, and of those with an equal
fraction the name whose bytes come first. -/
structure IsMostConsistent (best : StrategyRecord) (records : List StrategyRecord) : Prop where
  member : best ∈ records
  enough : 2 ≤ best.tally.trades
  most : ∀ other ∈ records, 2 ≤ other.tally.trades →
    other.tally.winners * best.tally.trades ≤ best.tally.winners * other.tally.trades
  first : ∀ other ∈ records, 2 ≤ other.tally.trades →
    other.tally.winners * best.tally.trades = best.tally.winners * other.tally.trades →
    other = best ∨ Text.bytesOf best.strategy < Text.bytesOf other.strategy

theorem Divide.isMostConsistent (divide : Divide records groups) (few : groups.length ≤ Decimal.mostCounted)
    (found : best ∈ mostConsistent? records) : best.IsMostConsistent records := by
  rw [mostConsistent?_eq_argmax] at found
  have counts : ∀ other ∈ records, 2 ≤ other.tally.trades →
      other ∈ records.filter fun record => fewestTrades ≤ record.tally.trades := fun other member enough =>
    List.mem_filter.mpr ⟨member, decide_eq_true enough⟩
  obtain ⟨member, enough⟩ := List.mem_filter.mp (List.argmax_mem found)
  have enough : 2 ≤ best.tally.trades := of_decide_eq_true enough
  have share : ∀ other ∈ records, 2 ≤ other.tally.trades →
      Decimal.IsShare other.winRate other.tally.winners other.tally.trades := fun other member enough =>
    (divide.each other member).isShare few (by omega)
  refine ⟨member, enough, fun other member' enough' => ?_, fun other member' enough' equal => ?_⟩
  · have most := List.le_of_mem_argmax (f := fun record => record.winRate.toRat) (counts other member' enough') found
    exact ((share other member' enough').le_iff (share best member enough)).mp most
  · have same := (share other member' enough').eq_of_mul_eq (share best member enough) equal
    exact Ordered.eq_or_precedes_of_argmax (divide.ascending.filter _) found (counts other member' enough')
      (congrArg Decimal.toRat same)

theorem Divide.mostConsistent?_eq_none_iff (divide : Divide records groups) :
    mostConsistent? records = none ↔ ∀ strategy, (tradesOf groups strategy).length < 2 := by
  rw [mostConsistent?_eq_argmax, List.argmax_eq_none, List.filter_eq_nil_iff]
  constructor
  · intro none strategy
    by_contra enough
    obtain ⟨group, listed⟩ := List.exists_mem_of_length_pos (l := tradesOf groups strategy) (by omega)
    obtain ⟨member, named⟩ := List.mem_filter.mp listed
    obtain ⟨record, recorded, rfl⟩ :=
      List.mem_map.mp ((divide.named strategy).mpr ⟨group, member, of_decide_eq_true named⟩)
    apply none record recorded
    rw [(divide.each record recorded).sums.trades]
    exact decide_eq_true (not_lt.mp enough)
  · intro few record recorded
    rw [(divide.each record recorded).sums.trades, decide_eq_true_eq, not_le]
    exact few record.strategy

/-- The most consistent strategy is found exactly, though win rates are rounded. Up to ten trillion trades have one
record for each strategy, if the profits of each can be added up. The records divide the trades and the winners,
and where no sum is rounded the profits. The strategy that is found has two trades or more and the greatest fraction
of winners, compared without division, and of several such fractions the name whose bytes come first; none is found
if and only if no strategy has two trades. -/
theorem mostConsistent_exact (few : groups.length ≤ 10 ^ 13) :
    ((∃ records, ofGroups groups = .ok records) ↔
      ∀ group ∈ groups, ∃ pnl, Decimal.total (profitsOf groups group.strategy) = .ok pnl) ∧
    ∀ records, ofGroups groups = .ok records →
      Divide records groups ∧
      (records.map fun record => record.tally.trades).sum = groups.length ∧
      (records.map fun record => record.tally.winners).sum = groups.countP (·.isWinner) ∧
      ((∀ group ∈ groups, Decimal.TotalsExactly (profitsOf groups group.strategy)) →
        (records.map fun record => record.tally.pnl.toRat).sum = (groups.map fun group => group.pnl.toRat).sum) ∧
      (∀ best ∈ mostConsistent? records, best.IsMostConsistent records) ∧
      (mostConsistent? records = none ↔ ∀ strategy, (tradesOf groups strategy).length < 2) := by
  refine ⟨exists_ofGroups_iff, fun records answered => ?_⟩
  have divide := divide_of_ofGroups answered
  exact ⟨divide, divide.sum_trades, divide.sum_winners, divide.sum_pnl,
    fun best found => divide.isMostConsistent few found, divide.mostConsistent?_eq_none_iff⟩

/-- Trades of one strategy: some won and some lost. -/
def wonAndLost (strategy : String) (won lost : ℕ) : List TradeGroup :=
  List.replicate won ⟨"A", "X", "X", strategy, "equity", none, none, .ofUInt32 30, 1, 2⟩ ++
    List.replicate lost ⟨"A", "Y", "Y", strategy, "equity", none, none, (Decimal.ofUInt32 7).neg, 1, 2⟩

/-- Two strategies that won a third of their trades, and one with a single trade that won. -/
def thirdsWon : List TradeGroup := wonAndLost "swing" 1 2 ++ wonAndLost "hold" 2 4 ++ wonAndLost "day" 1 0

/-- Of the two thirds the one of the first name is found. -/
theorem thirds_won_exactly : thirdsWon.length ≤ 10 ^ 13 ∧
    ∃ records best, ofGroups thirdsWon = .ok records ∧ mostConsistent? records = some best ∧
      best.strategy = "hold" ∧ best.IsMostConsistent records ∧
      (records.map fun record => record.tally.trades).sum = 10 ∧
      (records.map fun record => record.tally.winners).sum = 4 ∧
      (records.map fun record => record.tally.pnl.toRat).sum = 78 := by
  have few : thirdsWon.length ≤ 10 ^ 13 := by decide
  obtain ⟨records, answered⟩ := exists_of_isOk (show (ofGroups thirdsWon).isOk by decide +kernel)
  obtain ⟨divide, trades, winners, pnl, most, _⟩ := (mostConsistent_exact few).2 records answered
  have found : ((ofGroups thirdsWon).toOption.bind mostConsistent?).map (·.strategy) = some "hold" := by decide +kernel
  rw [answered] at found
  obtain ⟨best, consistent, named⟩ := Option.map_eq_some_iff.mp found
  exact ⟨few, records, best, answered, consistent, named, most best consistent, trades.trans (by decide +kernel),
    winners.trans (by decide +kernel), (pnl (by decide +kernel)).trans (by decide +kernel)⟩

end StrategyRecord

end TradeLedger.Review
