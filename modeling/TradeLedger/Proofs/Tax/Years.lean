import Mathlib.Order.Defs.LinearOrder
import TradeLedger.Proofs.Tax.Report

/-! The years of a history. Every position, flag and dividend of a known day belongs to the report of one
year, the year of that day, and this is one of the years that the reports list. So the reports of the
listed years divide the history, and the report of any other year is empty. -/
namespace TradeLedger.Tax

open Decimal

/-- A sum over the elements of a known day is divided by their years. -/
theorem sum_years {α : Type} (dateOf : α → Option Date) (f : α → ℚ) {xs : List α} {years : List Int}
    (once : years.Nodup) (covers : ∀ x ∈ xs, ∀ date ∈ dateOf x, date.year ∈ years) :
    (years.map fun year => ((xs.filter fun x => (dateOf x).map Date.year = some year).map f).sum).sum =
      ((xs.filter fun x => (dateOf x).isSome).map f).sum := by
  have known : ∀ x ∈ xs.filter fun x => (dateOf x).isSome, (dateOf x).map Date.year ∈ years.map some := by
    intro x member
    obtain ⟨listed, dated⟩ := List.mem_filter.mp member
    obtain ⟨date, dated⟩ := Option.isSome_iff_exists.mp dated
    rw [dated]
    exact List.mem_map_of_mem (covers x listed date dated)
  rw [← sum_parts_of_nodup (fun x => (dateOf x).map Date.year) f (once.map (Option.some_injective _)) known,
    List.map_map]
  refine congrArg List.sum (List.map_congr_left fun year _ => ?_)
  have dated : ∀ x, decide ((dateOf x).map Date.year = some year) =
      (decide ((dateOf x).map Date.year = some year) && (dateOf x).isSome) := by
    intro x
    cases dateOf x <;> simp
  rw [Function.comp, List.filter_filter]
  simp only [← dated]

section Listed

variable {groups : List TradeGroup} {dividends : List LedgerLine} {year : Int}

theorem mem_availableYears : year ∈ availableYears groups dividends ↔
    (∃ group ∈ groups, ∃ date ∈ group.closed, date.year = year) ∨
      ∃ line ∈ dividends, ∃ date ∈ line.date, date.year = year := by
  simp only [availableYears, List.mem_reverse, mem_ascendingDistinct, List.map_append, List.mem_append, List.mem_map,
    List.mem_filterMap, Option.mem_def]
  constructor
  · rintro (⟨date, ⟨group, listed, known⟩, own⟩ | ⟨date, ⟨line, listed, known⟩, own⟩)
    · exact .inl ⟨group, listed, date, known, own⟩
    · exact .inr ⟨line, listed, date, known, own⟩
  · rintro (⟨group, listed, date, known, own⟩ | ⟨line, listed, date, known, own⟩)
    · exact .inl ⟨date, ⟨group, listed, known⟩, own⟩
    · exact .inr ⟨date, ⟨line, listed, known⟩, own⟩

/-- Among the lines of a ledger, those that pay dividends count. -/
theorem mem_availableYears_dividendLines {lines : List LedgerLine} :
    year ∈ availableYears groups (dividendLines lines) ↔
      (∃ group ∈ groups, group.closed.map Date.year = some year) ∨
        ∃ line ∈ lines, line.action = .dividend ∧ line.date.map Date.year = some year := by
  simp only [mem_availableYears, dividendLines, List.mem_filter, decide_eq_true_eq, and_assoc, Option.map_eq_some_iff,
    Option.mem_def]

/-- The latest year comes first, and none comes twice. -/
theorem descending_availableYears (groups : List TradeGroup) (dividends : List LedgerLine) :
    (availableYears groups dividends).Pairwise fun a b => b < a := by
  rw [availableYears, List.pairwise_reverse]
  exact (pairwise_ascendingDistinct _).imp fun {a b} less => compare_lt_iff_lt.mp less

theorem nodup_availableYears (groups : List TradeGroup) (dividends : List LedgerLine) :
    (availableYears groups dividends).Nodup :=
  (descending_availableYears groups dividends).imp fun less => less.ne'

end Listed

/-- The sums of a year in which nothing was closed and nothing was paid. -/
def Summary.nothing (bracket : Bracket) : Summary :=
  ⟨.zero, .zero, .zero, .zero, .zero, .zero, 0, ⟨.zero, .zero, .zero, .zero⟩, .zero, bracket⟩

theorem Summary.ofYear_nothing (rules : Rules) : ofYear rules [] [] .zero = .ok (nothing rules.bracket) := by
  have gains : Gains.ofGroups rules [] = .ok .zero := rfl
  have dividends : Decimal.total [] = .ok .zero := rfl
  rw [ofYear, gains, ok_bind, List.map_nil, dividends, ok_bind, Estimate.ofGains_zero]
  rfl

namespace Report

variable {groups : List TradeGroup} {lines : List LedgerLine} {year : Int} {rules : Rules}

/-- The report of such a year. -/
def nothing (rules : Rules) (year : Int) (years : List Int) : Report :=
  ⟨year, rules.bracket, .nothing rules.bracket, [], [], [], years⟩

section Unlisted

variable (unlisted : year ∉ availableYears groups (dividendLines lines))

include unlisted

theorem filter_closedIn_of_unlisted : groups.filter (closedIn year) = [] := by
  rw [List.filter_eq_nil_iff]
  intro group listed within
  obtain ⟨date, known, own⟩ := Option.map_eq_some_iff.mp (of_decide_eq_true within)
  exact unlisted (mem_availableYears.mpr (.inl ⟨group, listed, date, known, own⟩))

theorem closedInYear_of_unlisted : closedInYear year groups = [] := by
  have perm := closedInYear_perm year groups
  rw [filter_closedIn_of_unlisted unlisted] at perm
  exact perm.eq_nil

theorem flagsIn_of_unlisted (rules : Rules) : flagsIn rules year groups = [] := by
  have none := washedIn_sublist rules year groups
  rw [filter_closedIn_of_unlisted unlisted, List.sublist_nil] at none
  have flags := map_loss_flagsIn rules year groups
  rw [none, List.map_nil, List.map_eq_nil_iff] at flags
  exact flags

theorem dividendsIn_of_unlisted : dividendsIn year lines = [] := by
  rw [dividendsIn, linesOfYear, List.filter_eq_nil_iff]
  intro line listed within
  obtain ⟨date, known, own⟩ := Option.map_eq_some_iff.mp (beq_iff_eq.mp within)
  exact unlisted (mem_availableYears.mpr (.inr ⟨line, listed, date, known, own⟩))

/-- The report of a year that is not listed is empty, and its sums are zero. -/
theorem build_of_unlisted :
    build groups lines year rules = .ok (nothing rules year (availableYears groups (dividendLines lines))) := by
  have flagged : WashSaleSummary.ofYear year (WashSale.detect rules.washSaleDays groups) =
      .ok ⟨year, 0, .zero, []⟩ := by
    rw [WashSaleSummary.ofYear, ← flagsIn, flagsIn_of_unlisted unlisted rules]
    rfl
  have noFlags := flagsIn_of_unlisted unlisted rules
  have noDividends := dividendsIn_of_unlisted unlisted
  rw [flagsIn] at noFlags
  rw [dividendsIn] at noDividends
  simp only [build, flagged, ok_bind, closedInYear_of_unlisted unlisted, noDividends, Summary.ofYear_nothing, noFlags]
  rfl

/-- No addition of it rounds. -/
theorem sumsExactly_of_unlisted : SumsExactly groups lines year rules := by
  have noTax : Estimate.TotalsExactly rules .zero .zero := ⟨_, Estimate.ofGains_zero rules, by simp⟩
  have closed := closedInYear_of_unlisted unlisted
  have dividends := dividendsIn_of_unlisted unlisted
  have flags := flagsIn_of_unlisted unlisted rules
  have noGains : Gains.ofGroups rules [] = .ok .zero := rfl
  have paid : total [] = .ok .zero := rfl
  constructor
  · rw [closed]
    trivial
  · rw [closed, noGains]
    change Gains.NetsExactly .zero
    decide +kernel
  · rw [dividends]
    trivial
  · rw [dividends]
    trivial
  · rw [flags]
    trivial
  · rw [closed, noGains, dividends, List.map_nil, paid]
    exact noTax

end Unlisted

/-- The reports of all years divide a history by the years of its days. -/
structure DivideHistory (report : Int → Report) (groups : List TradeGroup) (lines : List LedgerLine)
    (rules : Rules) : Prop where
  years : ∀ year, (report year).years = availableYears groups (dividendLines lines)
  /-- The listed years are those in which a position was closed or a dividend was paid. -/
  listed : ∀ year, year ∈ availableYears groups (dividendLines lines) ↔
    (∃ group ∈ groups, group.closed.map Date.year = some year) ∨
      ∃ line ∈ lines, line.action = .dividend ∧ line.date.map Date.year = some year
  /-- A position of a known day is a row of the year of that day, as often as it is given, and of no other
  year; one of no known day is a row of none. -/
  group_count : ∀ group year, ((report year).gainsRows.map GainsRow.group).count group =
    if group.closed.map Date.year = some year then groups.count group else 0
  /-- A flag is listed in the year of its loss. -/
  flag_year : ∀ flag ∈ WashSale.detect rules.washSaleDays groups,
    flag.lossClosed.year ∈ availableYears groups (dividendLines lines)
  flag_count : ∀ flag year, (report year).washSales.count flag =
    if flag.lossClosed.year = year then (WashSale.detect rules.washSaleDays groups).count flag else 0
  /-- The dividends of a known day are counted for their holding in the year of that day, and in no other. -/
  dividend_count : ∀ holding year, DividendRow.countFor holding (report year).dividendRows =
    (lines.filter fun line => line.action = .dividend && DividendRow.keyOf line = holding &&
      line.date.map Date.year = some year).length
  net : ((availableYears groups (dividendLines lines)).map fun year => (report year).summary.net.toRat).sum =
    ((groups.filter fun group => group.closed.isSome).map fun group => group.pnl.toRat).sum
  washSales : ((availableYears groups (dividendLines lines)).map fun year =>
      (report year).summary.washSales.toRat).sum =
    ((WashSale.detect rules.washSaleDays groups).map fun flag => |flag.lossPnl.toRat|).sum
  dividends : ((availableYears groups (dividendLines lines)).map fun year =>
      (report year).summary.dividends.toRat).sum =
    ((lines.filter fun line => line.action = .dividend && line.date.isSome).map fun line => line.amount.toRat).sum
  /-- The report of any other year has no rows, and all its sums are zero. -/
  unlisted : ∀ year ∉ availableYears groups (dividendLines lines),
    (report year).gainsRows = [] ∧ (report year).washSales = [] ∧ (report year).dividendRows = [] ∧
      (report year).summary = .nothing rules.bracket

/-- The day of a flagged loss is that of a position. -/
theorem exists_of_mem_detect {window : Int} {flag : WashSale} (member : flag ∈ WashSale.detect window groups) :
    ∃ group ∈ groups, group.closed = some flag.lossClosed := by
  have repeated : some flag.loss ∈ (WashSale.washed window groups).map Loss.ofGroup? := by
    rw [← WashSale.map_loss_detect]
    exact List.mem_map_of_mem member
  obtain ⟨group, washed, same⟩ := List.mem_map.mp repeated
  obtain ⟨closed, known, own⟩ := Option.map_eq_some_iff.mp same
  have day : closed = flag.lossClosed := congrArg Loss.closed own
  exact ⟨group, List.mem_of_mem_filter washed, day ▸ known⟩

theorem divideHistory {report : Int → Report} (addsUp : ∀ year, (report year).AddsUp groups lines year rules)
    (empty : ∀ year ∉ availableYears groups (dividendLines lines),
      report year = nothing rules year (availableYears groups (dividendLines lines))) :
    DivideHistory report groups lines rules := by
  have once := nodup_availableYears groups (dividendLines lines)
  have group_year : ∀ group ∈ groups, ∀ date ∈ group.closed, date.year ∈ availableYears groups (dividendLines lines) :=
    fun group listed date known => mem_availableYears.mpr (.inl ⟨group, listed, date, known, rfl⟩)
  have dividend_year : ∀ line ∈ dividendLines lines, ∀ date ∈ line.date,
      date.year ∈ availableYears groups (dividendLines lines) :=
    fun line listed date known => mem_availableYears.mpr (.inr ⟨line, listed, date, known, rfl⟩)
  have flag_year : ∀ flag ∈ WashSale.detect rules.washSaleDays groups,
      flag.lossClosed.year ∈ availableYears groups (dividendLines lines) := by
    intro flag member
    obtain ⟨group, listed, known⟩ := exists_of_mem_detect member
    exact group_year group listed _ known
  exact {
    years := fun year => (addsUp year).years
    flag_year
    listed := fun year => by rw [mem_availableYears_dividendLines]
    group_count := by
      intro group year
      rw [(addsUp year).gainsRows_map, (closedInYear_perm year groups).count_eq, count_filter_of, closedIn]
      simp only [decide_eq_true_eq]
    flag_count := by
      intro flag year
      rw [(addsUp year).washSales, flagsIn, WashSale.inYear, count_filter_of]
      simp only [beq_iff_eq]
    dividend_count := by
      intro holding year
      rw [(addsUp year).dividendRows.2.countFor_eq, DividendRow.paidTo, dividendsIn, linesOfYear, List.filter_filter,
        filter_dividendLines]
      simp only [beq_eq_decide, Bool.and_assoc]
    net := by
      rw [← sum_years TradeGroup.closed (fun group => group.pnl.toRat) once group_year]
      refine congrArg List.sum (List.map_congr_left fun year _ => ?_)
      rw [(addsUp year).net.2, ((closedInYear_perm year groups).map _).sum_eq]
      rfl
    washSales := by
      have flags : ∀ flag ∈ WashSale.detect rules.washSaleDays groups, ∀ date ∈ some flag.lossClosed,
          date.year ∈ availableYears groups (dividendLines lines) := by
        intro flag member date known
        cases known
        exact flag_year flag member
      have years := sum_years (fun flag : WashSale => some flag.lossClosed)
        (fun flag => |flag.lossPnl.toRat|) once flags
      simp only [Option.isSome_some, List.filter_true, Option.map_some, Option.some.injEq] at years
      rw [← years]
      refine congrArg List.sum (List.map_congr_left fun year _ => ?_)
      rw [(addsUp year).washTotal, flagsIn, WashSale.inYear]
      simp only [beq_eq_decide]
    dividends := by
      rw [← filter_dividendLines, ← sum_years LedgerLine.date (fun line => line.amount.toRat) once dividend_year]
      refine congrArg List.sum (List.map_congr_left fun year _ => ?_)
      rw [(addsUp year).dividends, dividendsIn, linesOfYear]
      simp only [beq_eq_decide]
    unlisted := by
      intro year other
      rw [empty year other]
      exact ⟨rfl, rfl, rfl, rfl⟩ }

/-- Where no addition of the listed years rounds, every year has a report, and the reports of the listed
years, which descend, divide the history. -/
theorem builds_divide_history {groups : List TradeGroup} {lines : List LedgerLine} {rules : Rules}
    (unrounded : ∀ year ∈ availableYears groups (dividendLines lines), SumsExactly groups lines year rules) :
    (availableYears groups (dividendLines lines)).Pairwise (fun a b => b < a) ∧
      ∃ report : Int → Report, (∀ year, build groups lines year rules = .ok (report year)) ∧
        DivideHistory report groups lines rules := by
  have each : ∀ year, ∃ report, build groups lines year rules = .ok report ∧ report.AddsUp groups lines year rules := by
    intro year
    by_cases listed : year ∈ availableYears groups (dividendLines lines)
    · exact build_exact (unrounded year listed)
    · exact build_exact (sumsExactly_of_unlisted listed)
  choose report built addsUp using each
  refine ⟨descending_availableYears groups _, report, built, divideHistory addsUp fun year unlisted => ?_⟩
  exact Except.ok.inj ((built year).symm.trans (build_of_unlisted unlisted))

/-- The net, the wash sales and the dividends of a report, and how many of these a holding was paid. -/
def figuresFor (holding : HoldingKey) (report : Report) : ℚ × ℚ × ℚ × ℕ :=
  (report.summary.net.toRat, report.summary.washSales.toRat, report.summary.dividends.toRat,
    DividendRow.countFor holding report.dividendRows)

/-- Two dividends of the first holding belong to the old year and one to the new one, and the wash sale belongs to
the old one although the shares were bought again in the new one. -/
theorem turn_of_year_divides_history :
    (∀ year ∈ availableYears closedAround (dividendLines paidAround), SumsExactly closedAround paidAround year .us) ∧
      availableYears closedAround (dividendLines paidAround) = [2025, 2024] ∧
      ∃ report : Int → Report, (∀ year, build closedAround paidAround year .us = .ok (report year)) ∧
        (report 2024).figuresFor ⟨"A", "X"⟩ = (6975 / 100, 5025 / 100, 1025 / 100, 2) ∧
        (report 2025).figuresFor ⟨"A", "X"⟩ = (70, 0, 4, 1) ∧
        DivideHistory report closedAround paidAround .us := by
  have unrounded : ∀ year ∈ availableYears closedAround (dividendLines paidAround),
      SumsExactly closedAround paidAround year .us := by decide +kernel
  obtain ⟨_, report, built, divided⟩ := builds_divide_history unrounded
  refine ⟨unrounded, by decide +kernel, report, built, ?_, ?_, divided⟩
  · exact eq_of_map_eq_ok (built 2024) (by decide +kernel)
  · exact eq_of_map_eq_ok (built 2025) (by decide +kernel)

end Report

end TradeLedger.Tax
