import TradeLedger.Proofs.Review.Strategies
import TradeLedger.Proofs.Review.Weeks
import TradeLedger.Proofs.Tax.Budget

/-! The budget of a review. Each trade of the week is added into the profit of the week and into that of one strategy.
With the budget of tax reports, no report on imported numbers fails, and a review fails only where the calendar has
no two weeks before its day. -/
namespace TradeLedger

namespace Review

open Decimal

variable {groups : List TradeGroup}

/-- Affordable profits can be added up strategy by strategy. -/
theorem StrategyRecord.ofGroups_exists (profits : Affordable (fun group => |group.pnl.toRat|) groups) :
    ∃ records, ofGroups groups = .ok records := by
  rw [exists_ofGroups_iff]
  intro group _
  obtain ⟨pnl, total, _⟩ := Decimal.total_exists (profits.filter fun other => other.strategy = group.strategy)
  exact ⟨pnl, total⟩

theorem Week.ending_fault {day : Date} {fault : Fault} (failed : ending day = .error fault) :
    fault = .beforeCalendar := by
  have step {date : Date} {days : Nat} (failed : date.before days = .error fault) : fault = .beforeCalendar := by
    unfold Date.before at failed
    split at failed
    · cases failed
    · exact (Except.error.inj failed).symm
  rcases bind_eq_error.mp failed with failed | ⟨_, _, failed⟩
  · exact step failed
  rcases bind_eq_error.mp failed with failed | ⟨_, _, failed⟩
  · exact step failed
  rcases bind_eq_error.mp failed with failed | ⟨_, _, done⟩
  · exact step failed
  · cases done

/-- The first thirteen days of the calendar have no two weeks up to them. -/
theorem Week.ending_eq_error_iff {day : Date} :
    ending day = .error .beforeCalendar ↔ day.dayNumber < Calendar.firstDay + 13 := by
  constructor
  · intro failed
    by_contra! far
    obtain ⟨week, ended⟩ := exists_ending far
    cases failed.symm.trans ended
  · intro near
    cases ended : ending day with
    | error fault => rw [ending_fault ended]
    | ok week =>
      have opened := (endsOn_of_ending ended).previousFirst
      have inside := week.previousFirst.first_le
      omega

/-- Trades that are affordable have a review on every day that has two weeks before it. -/
theorem Weekly.compute_exists {today : Date} (profits : Affordable (fun group => |group.pnl.toRat|) groups)
    (opened : List Date) (journal : List JournalEntry) (far : Calendar.firstDay + 13 ≤ today.dayNumber) :
    ∃ review, compute groups opened journal today = .ok review := by
  obtain ⟨week, ended⟩ := Week.exists_ending far
  have closed := profits.of_perm_filter (closedInWeek_perm week groups)
  obtain ⟨pnl, summed, _⟩ := Decimal.total_exists closed
  obtain ⟨records, rated⟩ := StrategyRecord.ofGroups_exists closed
  exact ⟨_, by simp only [compute, ended, summed, rated, ok_bind]; rfl⟩

end Review

/-- Where profits and payments are within the limit on imported numbers, at whatever scale they are written, there
is a tax report for every year and rate, and a review for every day from the thirteenth after the first on. -/
theorem reports_exist {groups : List TradeGroup} {lines : List LedgerLine} (fewGroups : groups.length < 10 ^ 12)
    (fewLines : lines.length < 10 ^ 12) (profits : ∀ group ∈ groups, |group.pnl.toRat| ≤ 10 ^ 15)
    (amounts : ∀ line ∈ lines, |line.amount.toRat| ≤ 10 ^ 15) (rate : UInt32) (year : Int) (opened : List Date)
    (journal : List JournalEntry) :
    (∃ report, Tax.Report.build groups lines year (Tax.Rules.us.withBracket rate) = .ok report) ∧
      ∀ today : Date,
        (Calendar.firstDay + 13 ≤ today.dayNumber →
          ∃ review, Review.Weekly.compute groups opened journal today = .ok review) ∧
        ((∃ week, Review.Week.ending today = .ok week) ↔ Calendar.firstDay + 13 ≤ today.dayNumber) ∧
        (Review.Week.ending today = .error .beforeCalendar ↔ today.dayNumber < Calendar.firstDay + 13) := by
  have trades : Affordable (fun group => |group.pnl.toRat|) groups := ⟨fewGroups.le, profits⟩
  refine ⟨Tax.Report.build_exists (Tax.Bracket.ofRate_isPercent rate) year trades ⟨fewLines.le, amounts⟩,
    fun today => ⟨Review.Weekly.compute_exists trades opened journal, ⟨?_, Review.Week.exists_ending⟩,
      Review.Week.ending_eq_error_iff⟩⟩
  rintro ⟨week, ended⟩
  by_contra! near
  cases ended.symm.trans (Review.Week.ending_eq_error_iff.mpr near)

/-- Profits at the limit and at the last place there is, of one strategy and week. -/
def extremeTrades : List TradeGroup :=
  [⟨"A", "X", "X", "swing", "equity", Date.ofCivil? ⟨2024, 11, 1⟩, Date.ofCivil? ⟨2024, 12, 20⟩,
      (Decimal.ofParts? false (10 ^ 15) 0).getD .zero, 49, 2⟩,
    ⟨"A", "X", "X", "swing", "equity", Date.ofCivil? ⟨2023, 1, 5⟩, Date.ofCivil? ⟨2024, 12, 21⟩,
      (Decimal.ofParts? false 1 28).getD .zero, 716, 3⟩,
    ⟨"A", "X", "X", "swing", "equity", Date.ofCivil? ⟨2024, 12, 1⟩, Date.ofCivil? ⟨2024, 12, 22⟩,
      (Decimal.ofParts? true (10 ^ 15 - 1) 0).getD .zero, 21, 2⟩]

/-- Dividends at the limit and at the last place there is. -/
def extremeDividends : List LedgerLine :=
  [⟨"A", "X", "X", .equity, Date.ofCivil? ⟨2024, 6, 3⟩, .dividend, .zero,
      (Decimal.ofParts? false (10 ^ 15) 0).getD .zero⟩,
    ⟨"A", "X", "X", .equity, Date.ofCivil? ⟨2024, 9, 3⟩, .dividend, .zero, (Decimal.ofParts? false 1 28).getD .zero⟩]

theorem extreme_reports_exist :
    (∃ report, Tax.Report.build extremeTrades extremeDividends 2024 (Tax.Rules.us.withBracket 37) = .ok report) ∧
      (∃ review, Review.Weekly.compute extremeTrades [] [] ⟨739241, by decide, by decide⟩ = .ok review) ∧
      Review.Week.ending ⟨Calendar.firstDay + 12, by decide, by decide⟩ = .error .beforeCalendar := by
  have profits : ∀ group ∈ extremeTrades, |group.pnl.toRat| ≤ 10 ^ 15 := by decide +kernel
  have amounts : ∀ line ∈ extremeDividends, |line.amount.toRat| ≤ 10 ^ 15 := by decide +kernel
  obtain ⟨report, days⟩ := reports_exist (by decide) (by decide) profits amounts 37 2024 [] []
  exact ⟨report, (days ⟨739241, by decide, by decide⟩).1 (by decide),
    (days ⟨Calendar.firstDay + 12, by decide, by decide⟩).2.2.mpr (by decide)⟩

end TradeLedger
