import Mathlib.Data.Int.ConditionallyCompleteOrder
import Mathlib.Order.ConditionallyCompleteLattice.Basic
import TradeLedger.Proofs.Ordered.Argmax
import TradeLedger.Proofs.Review.Weeks

/-! The highlights of a review. The best trade of a week is the most profitable one, of several the last closed,
and of several closed on one day the one that is listed first; the worst is found in the same way. The largest
mistake is looked for among the losing trades alone, but it is the worst of all trades if that lost money. The order
in which the trades are listed decides between equally good ones of one day, and nothing else. -/
namespace TradeLedger.Review

variable {groups shuffled : List TradeGroup} {opened : List Date} {journal : List JournalEntry} {today : Date}
  {week : Week} {review other : Weekly}

/-- The number of the day on which a trade was closed. -/
def closingDay (group : TradeGroup) : ℤ := group.closed.elim 0 Date.dayNumber

/-- More profitable trades rank higher, and of equally profitable ones those closed later. -/
def profitRank (group : TradeGroup) : ℚ ×ₗ ℤ := toLex (group.pnl.toRat, closingDay group)

/-- Trades that lost more rank higher, and of those that lost the same the ones closed later. -/
def lossRank (group : TradeGroup) : ℚ ×ₗ ℤ := toLex (-group.pnl.toRat, closingDay group)

/-- The trades closed in a week as they are listed. -/
def closedOf (week : Week) (groups : List TradeGroup) : List TradeGroup :=
  groups.filter fun group => week.containsSome group.closed

/-- The trades of a week are those closed in it, sorted by their closing days. -/
theorem closedInWeek_eq (week : Week) (groups : List TradeGroup) :
    closedInWeek week groups = Ordered.sortBy (Ordered.latestFirst closingDay) (closedOf week groups) := by
  have listed := map_snd_keyed TradeGroup.closed week.contains groups
  have dated : ∀ pair ∈ groups.filterMap fun group => (group.closed.filter week.contains).map fun date => (date, group),
      closingDay pair.2 = pair.1.dayNumber := by
    intro pair member
    obtain ⟨group, _, known⟩ := List.mem_filterMap.mp member
    obtain ⟨date, closed, rfl⟩ := Option.map_eq_some_iff.mp known
    rw [closingDay, (Option.filter_eq_some_iff.mp closed).1, Option.elim_some]
  unfold closedOf Week.containsSome
  rw [← listed, Ordered.sortBy_map, closedInWeek]
  apply congrArg (List.map Prod.snd)
  apply Ordered.sortBy_congr
  refine List.pairwise_of_forall_mem_list fun first own second other => ?_
  rw [Ordered.latestFirst, dated first own, dated second other]
  rfl

theorem best?_eq_argmax (groups : List TradeGroup) : best? groups = groups.argmax fun group => group.pnl.toRat := by
  apply Ordered.foldl_eq_argmax
  · exact fun _ => rfl
  · intro held group
    simp only [decide_eq_true_eq, Decimal.lt_iff]

theorem worst?_eq_argmax (groups : List TradeGroup) :
    worst? groups = groups.argmax fun group => -group.pnl.toRat := by
  apply Ordered.foldl_eq_argmax
  · exact fun _ => rfl
  · intro held group
    simp only [decide_eq_true_eq, Decimal.lt_iff, neg_lt_neg_iff]

theorem best?_closedInWeek (week : Week) (groups : List TradeGroup) :
    best? (closedInWeek week groups) = (closedOf week groups).argmax profitRank := by
  rw [best?_eq_argmax, closedInWeek_eq, Ordered.argmax_sortBy]
  rfl

theorem worst?_closedInWeek (week : Week) (groups : List TradeGroup) :
    worst? (closedInWeek week groups) = (closedOf week groups).argmax lossRank := by
  rw [worst?_eq_argmax, closedInWeek_eq, Ordered.argmax_sortBy]
  rfl

/-- The worst of the losing trades is the worst of all, if that is a losing one. -/
theorem worst?_losers (groups : List TradeGroup) :
    worst? (groups.filter (·.isLoser)) = (worst? groups).filter (·.isLoser) := by
  rw [worst?_eq_argmax, worst?_eq_argmax]
  apply Ordered.argmax_filter
  intro a b loser worse
  rw [TradeGroup.isLoser_iff] at *
  linarith

/-- There is a profitable trade if and only if the best one is. -/
theorem exists_best_iff (groups : List TradeGroup) :
    (∃ best ∈ best? groups, 0 < best.pnl.toRat) ↔ 0 < groups.countP (·.isWinner) := by
  rw [best?_eq_argmax, List.countP_pos_iff]
  constructor
  · rintro ⟨best, found, profitable⟩
    exact ⟨best, List.argmax_mem found, TradeGroup.isWinner_iff.mpr profitable⟩
  · rintro ⟨winner, member, profitable⟩
    cases found : groups.argmax fun group => group.pnl.toRat with
    | none => exact absurd member (List.argmax_eq_none.mp found ▸ List.not_mem_nil)
    | some best =>
      have most := List.le_of_mem_argmax (f := fun group : TradeGroup => group.pnl.toRat) member found
      exact ⟨best, rfl, (TradeGroup.isWinner_iff.mp profitable).trans_le most⟩

namespace Weekly

/-- The highlights of a review are found among the trades of its week. -/
structure Highlights (review : Weekly) (closed : List TradeGroup) : Prop where
  best : review.best = best? closed
  worst : review.worst = worst? closed
  largestMistake : review.largestMistake = worst? (closed.filter (·.isLoser))

theorem highlights_of_compute (computed : compute groups opened journal today = .ok review)
    (ended : Week.ending today = .ok week) : review.Highlights (closedInWeek week groups) := by
  unfold compute at computed
  rw [ended, ok_bind] at computed
  obtain ⟨pnl, _, computed⟩ := bind_eq_ok.mp computed
  obtain ⟨records, _, computed⟩ := bind_eq_ok.mp computed
  cases computed
  exact ⟨rfl, rfl, rfl⟩

/-- Reviews that count the same, and whose highlights rank alike. -/
structure SameHighlights (a b : Weekly) : Prop where
  trades : a.trades = b.trades
  winners : a.winners = b.winners
  best : a.best.map profitRank = b.best.map profitRank
  worst : a.worst.map lossRank = b.worst.map lossRank
  largestMistake : a.largestMistake.map lossRank = b.largestMistake.map lossRank

/-- Losing trades are known from their rank. -/
theorem map_filter_isLoser (worst : Option TradeGroup) :
    (worst.filter (·.isLoser)).map lossRank = (worst.map lossRank).filter fun rank => 0 < (ofLex rank).1 := by
  cases worst with
  | none => rfl
  | some group =>
    have known : group.isLoser = decide (0 < (ofLex (lossRank group)).1) := by
      rw [Bool.eq_iff_iff, TradeGroup.isLoser_iff, decide_eq_true_eq]
      exact neg_pos.symm
    cases own : group.isLoser <;> simp [Option.filter, ← known, own]

theorem sameHighlights_of_perm (grouped : groups.Perm shuffled) (ended : Week.ending today = .ok week)
    (computed : compute groups opened journal today = .ok review)
    (computed' : compute shuffled opened journal today = .ok other) : review.SameHighlights other := by
  obtain ⟨_, ended', shows⟩ := shows_of_compute computed
  obtain rfl := Except.ok.inj (ended.symm.trans ended')
  obtain ⟨_, ended'', shows'⟩ := shows_of_compute computed'
  obtain rfl := Except.ok.inj (ended.symm.trans ended'')
  have found := highlights_of_compute computed ended
  have found' := highlights_of_compute computed' ended
  have closed : (closedOf week groups).Perm (closedOf week shuffled) := grouped.filter _
  have sorted : (closedInWeek week groups).Perm (closedInWeek week shuffled) :=
    (closedInWeek_perm week groups).trans (closed.trans (closedInWeek_perm week shuffled).symm)
  have worst : review.worst.map lossRank = other.worst.map lossRank := by
    rw [found.worst, found'.worst, worst?_closedInWeek, worst?_closedInWeek]
    exact Ordered.map_argmax_perm closed
  exact {
    trades := by rw [shows.trades, shows'.trades, sorted.length_eq]
    winners := by rw [shows.winners, shows'.winners, sorted.countP_eq]
    best := by
      rw [found.best, found'.best, best?_closedInWeek, best?_closedInWeek]
      exact Ordered.map_argmax_perm closed
    worst
    largestMistake := by
      rw [found.largestMistake, found'.largestMistake, worst?_losers, worst?_losers, map_filter_isLoser,
        map_filter_isLoser, ← found.worst, ← found'.worst, worst] }

/-- The highlights of a review are the right extremes. Of the trades closed in the week the best is the first of
the most profitable ones closed last, and the worst the first of those closed last that lost most or gained least.
The largest mistake is the worst trade if it lost money, and otherwise there is none; the best trade gained if and
only if there is a winner. With the trades in any other order that has a review too, the highlights gain and lose the
same, and as many trades and winners are counted; the profit is the same where no sum is rounded. -/
theorem compute_highlights (computed : compute groups opened journal today = .ok review) :
    ∃ week, Week.ending today = .ok week ∧
      review.best = (closedOf week groups).argmax profitRank ∧
      review.worst = (closedOf week groups).argmax lossRank ∧
      review.largestMistake = review.worst.filter (fun worst => worst.pnl.toRat < 0) ∧
      ((∃ best ∈ review.best, 0 < best.pnl.toRat) ↔ 0 < review.winners) ∧
      ∀ shuffled other, groups.Perm shuffled → compute shuffled opened journal today = .ok other →
        review.SameHighlights other ∧
        (Decimal.TotalsExactly ((closedInWeek week groups).map (·.pnl)) →
          Decimal.TotalsExactly ((closedInWeek week shuffled).map (·.pnl)) → review.pnl.toRat = other.pnl.toRat) := by
  obtain ⟨week, ended, shows⟩ := shows_of_compute computed
  have found := highlights_of_compute computed ended
  refine ⟨week, ended, ?_, ?_, ?_, ?_, fun shuffled other grouped computed' => ⟨?_, fun unrounded unrounded' => ?_⟩⟩
  · rw [found.best, best?_closedInWeek]
  · rw [found.worst, worst?_closedInWeek]
  · have loses : ∀ group : TradeGroup, group.isLoser = decide (group.pnl.toRat < 0) := fun group => by
      rw [Bool.eq_iff_iff, TradeGroup.isLoser_iff, decide_eq_true_eq]
    rw [found.largestMistake, worst?_losers, ← found.worst]
    exact congrArg (fun keep => review.worst.filter keep) (funext loses)
  · rw [found.best, shows.winners]
    exact exists_best_iff _
  · exact sameHighlights_of_perm grouped ended computed computed'
  · obtain ⟨_, ended', shows'⟩ := shows_of_compute computed'
    obtain rfl := Except.ok.inj (ended.symm.trans ended')
    have sorted : (closedInWeek week groups).Perm (closedInWeek week shuffled) :=
      (closedInWeek_perm week groups).trans ((grouped.filter _).trans (closedInWeek_perm week shuffled).symm)
    rw [(Decimal.total_exact unrounded).toRat_eq shows.pnl, (Decimal.total_exact unrounded').toRat_eq shows'.pnl]
    exact ((sorted.map _).map _).sum_eq

end Weekly

/-- The week under review six days after 28 February 2024. -/
def weekAfterLeapDay : Week :=
  ⟨⟨738943, by decide, by decide⟩, afterLeapDay, ⟨738936, by decide, by decide⟩, beforeLeapDay⟩

/-- Trades of which three are the most profitable of that week and two lost most. -/
def tiedTrades : List TradeGroup :=
  [⟨"A", "WEEK BEFORE", "WEEK BEFORE", "hold", "equity", none, some beforeLeapDay, .ofUInt32 90, 1, 2⟩,
    ⟨"A", "LOST", "LOST", "swing", "equity", none, some weekAfterLeapDay.first,
      (Decimal.ofParts? true 125 1).getD .zero, 3, 2⟩,
    ⟨"A", "EARLIER", "EARLIER", "hold", "equity", none, some weekAfterLeapDay.first, .ofUInt32 30, 1, 2⟩,
    ⟨"A", "FIRST", "FIRST", "hold", "equity", none, some afterLeapDay,
      (Decimal.ofParts? false 3000 2).getD .zero, 1, 2⟩,
    ⟨"B", "SECOND", "SECOND", "swing", "equity", none, some afterLeapDay, .ofUInt32 30, 1, 2⟩,
    ⟨"B", "LOST LATER", "LOST LATER", "swing", "equity", none, some afterLeapDay,
      (Decimal.ofParts? true 12500 3).getD .zero, 4, 2⟩]

/-- The trades closed later are the highlights, and of two the one listed first; listed the other way round, the
second is the best, with the same profit. -/
theorem tied_trades_highlights : ∃ review backwards,
    Weekly.compute tiedTrades [] [] afterLeapDay = .ok review ∧
    Weekly.compute tiedTrades.reverse [] [] afterLeapDay = .ok backwards ∧
    review.best.map (·.symbol) = some "FIRST" ∧ backwards.best.map (·.symbol) = some "SECOND" ∧
    review.largestMistake.map (·.symbol) = some "LOST LATER" ∧ 0 < review.winners ∧
    review.SameHighlights backwards ∧ review.pnl.toRat = backwards.pnl.toRat := by
  obtain ⟨review, computed⟩ := exists_of_isOk
    (show (Weekly.compute tiedTrades [] [] afterLeapDay).isOk by decide +kernel)
  obtain ⟨backwards, computed'⟩ := exists_of_isOk
    (show (Weekly.compute tiedTrades.reverse [] [] afterLeapDay).isOk by decide +kernel)
  have reviewed : Week.ending afterLeapDay = .ok weekAfterLeapDay := by decide
  obtain ⟨week, ended, best, worst, mistake, gained, reordered⟩ := Weekly.compute_highlights computed
  obtain rfl := Except.ok.inj (reviewed.symm.trans ended)
  obtain ⟨week, ended', best', _⟩ := Weekly.compute_highlights computed'
  obtain rfl := Except.ok.inj (reviewed.symm.trans ended')
  obtain ⟨same, exact⟩ := reordered _ backwards (List.reverse_perm tiedTrades).symm computed'
  have lost : (closedOf weekAfterLeapDay tiedTrades).argmax lossRank = tiedTrades[5]? := by decide +kernel
  have won : (closedOf weekAfterLeapDay tiedTrades).argmax profitRank = tiedTrades[3]? := by decide +kernel
  have won' : (closedOf weekAfterLeapDay tiedTrades.reverse).argmax profitRank = tiedTrades[4]? := by decide +kernel
  refine ⟨review, backwards, computed, computed', ?_, ?_, ?_, gained.mp ⟨_, best.trans won, by decide +kernel⟩, same,
    exact (by decide +kernel) (by decide +kernel)⟩
  · rw [best, won]
    rfl
  · rw [best', won']
    rfl
  · rw [mistake, worst, lost]
    decide +kernel

end TradeLedger.Review
