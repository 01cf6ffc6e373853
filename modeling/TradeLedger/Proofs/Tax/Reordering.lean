import TradeLedger.Proofs.Tax.Report

/-! The order in which positions and lines are given. Where no addition rounds, the figures of a report do not
depend on it, and neither do its rows, except that positions of one day are listed as they are given and
that of several repurchases the first is named. -/
namespace TradeLedger.Tax

open Decimal

theorem availableYears_perm {groups shuffled : List TradeGroup} {dividends others : List LedgerLine}
    (grouped : groups.Perm shuffled) (listed : dividends.Perm others) :
    availableYears groups dividends = availableYears shuffled others := by
  have dates := ((grouped.filterMap TradeGroup.closed).append (listed.filterMap LedgerLine.date)).map Date.year
  rw [availableYears, availableYears, ascendingDistinct_congr fun year => dates.mem_iff]

/-- Summaries of the same numbers. -/
structure Summary.SameFigures (a b : Summary) : Prop where
  gains : a.gains.SameFigures b.gains
  netShort : SameValue a.netShort b.netShort
  netLong : SameValue a.netLong b.netLong
  net : SameValue a.net b.net
  dividends : SameValue a.dividends b.dividends
  washSales : SameValue a.washSales b.washSales
  closedTrades : a.closedTrades = b.closedTrades
  estimate : a.estimate.SameFigures b.estimate
  deduction : SameValue a.deduction b.deduction
  bracket : a.bracket = b.bracket

namespace Report

/-- The reports of the same positions and of the same lines in another order. -/
structure Relisted (a b : Report) : Prop where
  year : a.year = b.year
  bracket : a.bracket = b.bracket
  summary : a.summary.SameFigures b.summary
  gainsRows : a.gainsRows = b.gainsRows
  washSales : a.washSales = b.washSales
  dividendRows : List.Forall₂ DividendRow.SameFigures a.dividendRows b.dividendRows
  years : a.years = b.years

/-- The reports of the same lines and of the same positions in another order: the flags are those of the same
losses, but may name other repurchases. -/
structure Regrouped (a b : Report) : Prop where
  year : a.year = b.year
  bracket : a.bracket = b.bracket
  summary : a.summary.SameFigures b.summary
  gainsRows : a.gainsRows.Perm b.gainsRows
  washSales : (a.washSales.map WashSale.loss).Perm (b.washSales.map WashSale.loss)
  dividendRows : a.dividendRows = b.dividendRows
  years : a.years = b.years

variable {groups shuffled : List TradeGroup} {lines others : List LedgerLine} {year : Int} {rules : Rules}

theorem dividendsIn_perm (year : Int) (listed : lines.Perm others) :
    (dividendsIn year lines).Perm (dividendsIn year others) :=
  (listed.filter _).filter _

theorem washedIn_perm (rules : Rules) (year : Int) (grouped : groups.Perm shuffled) :
    (washedIn rules year groups).Perm (washedIn rules year shuffled) :=
  (WashSale.washed_perm rules.washSaleDays grouped).filter _

theorem closedInYear_congr (year : Int) (grouped : groups.Perm shuffled) :
    (closedInYear year groups).Perm (closedInYear year shuffled) :=
  (closedInYear_perm year groups).trans ((grouped.filter _).trans (closedInYear_perm year shuffled).symm)

theorem AddsUp.summary_same {a b : Report} (left : a.AddsUp groups lines year rules)
    (right : b.AddsUp shuffled others year rules) (grouped : groups.Perm shuffled) (listed : lines.Perm others) :
    a.summary.SameFigures b.summary := by
  have closed := closedInYear_congr year grouped
  have paid := dividendsIn_perm year listed
  have gains : a.summary.gains.SameFigures b.summary.gains := fun term outcome =>
    (left.gains term outcome).trans ((closed.map _).sum_eq.trans (right.gains term outcome).symm)
  have dividends : SameValue a.summary.dividends b.summary.dividends :=
    left.dividends.trans ((paid.map _).sum_eq.trans right.dividends.symm)
  exact {
    gains, dividends
    netShort := (Gains.netShort_agrees gains).answers left.netShort.1 right.netShort.1
    netLong := (Gains.netLong_agrees gains).answers left.netLong.1 right.netLong.1
    net := (Gains.net_agrees gains).answers left.net.1 right.net.1
    washSales := by
      rw [SameValue, left.washTotal, right.washTotal, sum_flagsIn, sum_flagsIn]
      exact ((washedIn_perm rules year grouped).map _).sum_eq
    closedTrades := by rw [left.closedTrades, right.closedTrades, closed.length_eq]
    estimate := (Estimate.ofGains_agrees rules gains dividends).answers left.estimate right.estimate
    deduction := (Gains.deduction_agrees rules gains).answers left.deduction right.deduction
    bracket := left.bracket.2.trans right.bracket.2.symm }

/-- Where no addition rounds, the order of the lines does not show in a report, and the order of the positions
shows only in the order of those closed on one day and of the flags, and in the repurchases named. -/
theorem build_reordered {groups shuffled : List TradeGroup} {lines others : List LedgerLine} {year : Int}
    {rules : Rules} (grouped : groups.Perm shuffled) (listed : lines.Perm others)
    (unrounded : SumsExactly groups lines year rules) (unroundedListed : SumsExactly groups others year rules)
    (unroundedGrouped : SumsExactly shuffled lines year rules) :
    ∃ report relisted regrouped, build groups lines year rules = .ok report ∧
      build groups others year rules = .ok relisted ∧ build shuffled lines year rules = .ok regrouped ∧
      report.Relisted relisted ∧ report.Regrouped regrouped := by
  obtain ⟨report, built, addsUp⟩ := build_exact unrounded
  obtain ⟨relisted, builtListed, addsUpListed⟩ := build_exact unroundedListed
  obtain ⟨regrouped, builtGrouped, addsUpGrouped⟩ := build_exact unroundedGrouped
  refine ⟨report, relisted, regrouped, built, builtListed, builtGrouped, ?_, ?_⟩
  · exact {
      year := addsUp.year_eq.trans addsUpListed.year_eq.symm
      bracket := addsUp.bracket.1.trans addsUpListed.bracket.1.symm
      summary := addsUp.summary_same addsUpListed (.refl _) listed
      gainsRows := addsUp.gainsRows.trans addsUpListed.gainsRows.symm
      washSales := addsUp.washSales.trans addsUpListed.washSales.symm
      dividendRows := addsUp.dividendRows.2.same addsUpListed.dividendRows.2 (dividendsIn_perm year listed)
      years := by
        rw [addsUp.years, addsUpListed.years]
        exact availableYears_perm (.refl _) (listed.filter _) }
  · exact {
      year := addsUp.year_eq.trans addsUpGrouped.year_eq.symm
      bracket := addsUp.bracket.1.trans addsUpGrouped.bracket.1.symm
      summary := addsUp.summary_same addsUpGrouped grouped (.refl _)
      gainsRows := by
        rw [addsUp.gainsRows, addsUpGrouped.gainsRows]
        exact (closedInYear_congr year grouped).map _
      washSales := by
        rw [addsUp.washSales, addsUpGrouped.washSales]
        exact WashSale.map_loss_inYear_perm grouped year
      dividendRows := Except.ok.inj (addsUp.dividendRows.1.symm.trans addsUpGrouped.dividendRows.1)
      years := by
        rw [addsUp.years, addsUpGrouped.years]
        exact availableYears_perm grouped (.refl _) }

theorem turned_year_reordered :
    ∃ report relisted regrouped, build closedAround paidAround 2024 .us = .ok report ∧
      build closedAround paidAround.reverse 2024 .us = .ok relisted ∧
      build closedAround.reverse paidAround 2024 .us = .ok regrouped ∧
      report.Relisted relisted ∧ report.Regrouped regrouped :=
  build_reordered (List.reverse_perm _).symm (List.reverse_perm _).symm (by decide +kernel) (by decide +kernel)
    (by decide +kernel)

end Report

end TradeLedger.Tax
