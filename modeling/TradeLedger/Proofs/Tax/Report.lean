import TradeLedger.Proofs.Tax.Dividend
import TradeLedger.Proofs.Tax.Gains
import TradeLedger.Proofs.Tax.WashSale
import TradeLedger.Tax.Report

/-! The report of a year. Its rows are the positions closed in the year, the latest first, the flags of
losses of the year and the dividends of the year. Where no addition rounds, there is a report, and its
figures are the sums over those. -/
namespace TradeLedger.Tax

open Decimal

section Closed

variable {groups : List TradeGroup} {year : Int}

/-- The position was closed in the year. -/
def closedIn (year : Int) (group : TradeGroup) : Bool := group.closed.map Date.year = some year

/-- The positions closed in the year with their last days. -/
def datedIn (year : Int) (groups : List TradeGroup) : List (Date × TradeGroup) :=
  groups.filterMap fun group => (group.closed.filter fun date => date.year == year).map fun date => (date, group)

/-- Later days rank lower. -/
private def recency (dated : Date × TradeGroup) : ℤᵒᵈ := OrderDual.toDual dated.1.dayNumber

theorem closedInYear_eq (year : Int) (groups : List TradeGroup) :
    closedInYear year groups = (Ordered.sortBy (Ordered.byRank recency) (datedIn year groups)).map Prod.snd := rfl

theorem closed_of_datedIn {dated : Date × TradeGroup} (member : dated ∈ datedIn year groups) :
    dated.2.closed = some dated.1 := by
  obtain ⟨group, _, known⟩ := List.mem_filterMap.mp member
  obtain ⟨date, closed, rfl⟩ := Option.map_eq_some_iff.mp known
  exact (Option.filter_eq_some_iff.mp closed).1

theorem map_datedIn (year : Int) (groups : List TradeGroup) :
    (datedIn year groups).map Prod.snd = groups.filter (closedIn year) := by
  rw [datedIn, map_snd_keyed]
  apply List.filter_congr
  intro group _
  cases known : group.closed <;> simp [closedIn, known, Bool.beq_eq_decide_eq]

theorem closedInYear_perm (year : Int) (groups : List TradeGroup) :
    (closedInYear year groups).Perm (groups.filter (closedIn year)) := by
  rw [closedInYear_eq, ← map_datedIn]
  exact (Ordered.sortBy_perm _ _).map _

/-- The latest come first. -/
theorem pairwise_closedInYear (year : Int) (groups : List TradeGroup) :
    (closedInYear year groups).Pairwise fun a b => ∀ x ∈ a.closed, ∀ y ∈ b.closed, y ≤ x := by
  rw [closedInYear_eq, List.pairwise_map]
  refine (Ordered.pairwise_sortBy recency _).imp_of_mem fun {a b} first second order => ?_
  rw [closed_of_datedIn (Ordered.mem_sortBy.mp first), closed_of_datedIn (Ordered.mem_sortBy.mp second)]
  intro x known y known'
  cases known
  cases known'
  exact order

/-- Those of one day keep their order. -/
theorem closedInYear_ties (groups : List TradeGroup) {date : Date} (own : date.year = year) :
    (closedInYear year groups).filter (fun group => group.closed = some date) =
      groups.filter fun group => group.closed = some date := by
  have level : ∀ dated ∈ datedIn year groups,
      decide (dated.2.closed = some date) = decide (recency dated = OrderDual.toDual date.dayNumber) := by
    intro dated member
    rw [closed_of_datedIn member, decide_eq_decide, Option.some.injEq, Date.ext_dayNumber_iff]
    exact Iff.rfl
  have among : ∀ group, decide (group.closed = some date) =
      (decide (group.closed = some date) && closedIn year group) := by
    intro group
    by_cases known : group.closed = some date <;> simp [known, closedIn, own]
  calc (closedInYear year groups).filter (fun group => group.closed = some date)
      = ((Ordered.sortBy (Ordered.byRank recency) (datedIn year groups)).filter
          fun dated => dated.2.closed = some date).map Prod.snd := by rw [closedInYear_eq, List.filter_map]; rfl
    _ = ((datedIn year groups).filter fun dated => dated.2.closed = some date).map Prod.snd := by
      rw [List.filter_congr fun dated member => level dated (Ordered.mem_sortBy.mp member),
        Ordered.filter_rank_sortBy, List.filter_congr level]
    _ = (groups.filter (closedIn year)).filter (fun group => group.closed = some date) := by
      rw [← map_datedIn, List.filter_map]
      rfl
    _ = groups.filter fun group => group.closed = some date := by
      rw [List.filter_filter]
      exact List.filter_congr fun group _ => (among group).symm

end Closed

/-- The dividends of a year. -/
def dividendsIn (year : Int) (lines : List LedgerLine) : List LedgerLine := linesOfYear year (dividendLines lines)

theorem filter_dividendLines (keep : LedgerLine → Bool) (lines : List LedgerLine) :
    (dividendLines lines).filter keep = lines.filter fun line => line.action = .dividend && keep line := by
  rw [dividendLines, List.filter_filter]
  exact List.filter_congr fun line _ => Bool.and_comm ..

/-- They are the lines dated in the year whose action is a dividend. -/
theorem dividendsIn_eq (year : Int) (lines : List LedgerLine) : dividendsIn year lines =
    lines.filter fun line => line.action = .dividend && line.date.map Date.year = some year := by
  rw [dividendsIn, linesOfYear, filter_dividendLines]
  simp only [beq_eq_decide]

theorem mem_dividendsIn {line : LedgerLine} {lines : List LedgerLine} {year : Int} : line ∈ dividendsIn year lines ↔
    line ∈ lines ∧ line.action = .dividend ∧ line.date.map Date.year = some year := by
  rw [dividendsIn_eq, List.mem_filter, Bool.and_eq_true, decide_eq_true_eq, decide_eq_true_eq]

/-- The flags of a year. -/
def flagsIn (rules : Rules) (year : Int) (groups : List TradeGroup) : List WashSale :=
  WashSale.inYear year (WashSale.detect rules.washSaleDays groups)

/-- The wash sales of a year, each with its flag. -/
def washedIn (rules : Rules) (year : Int) (groups : List TradeGroup) : List TradeGroup :=
  (WashSale.washed rules.washSaleDays groups).filter (closedIn year)

theorem map_loss_flagsIn (rules : Rules) (year : Int) (groups : List TradeGroup) :
    (flagsIn rules year groups).map (fun flag => some flag.loss) = (washedIn rules year groups).map Loss.ofGroup? :=
  WashSale.map_loss_inYear rules.washSaleDays groups year

theorem washedIn_sublist (rules : Rules) (year : Int) (groups : List TradeGroup) :
    (washedIn rules year groups).Sublist (groups.filter (closedIn year)) :=
  List.filter_sublist.filter _

/-- The flags of a year sum up the losses that they repeat. -/
theorem sum_flagsIn (rules : Rules) (year : Int) (groups : List TradeGroup) :
    ((flagsIn rules year groups).map fun flag => |flag.lossPnl.toRat|).sum =
      ((washedIn rules year groups).map fun group => |group.pnl.toRat|).sum := by
  let size (loss : Option Loss) : ℚ := loss.elim 0 fun loss => |loss.pnl.toRat|
  have sizes := congrArg (List.map size) (map_loss_flagsIn rules year groups)
  rw [List.map_map, List.map_map] at sizes
  refine congrArg List.sum (sizes.trans (List.map_congr_left fun group member => ?_))
  have known : closedIn year group = true := (List.mem_filter.mp member).2
  cases closed : group.closed with
  | none => simp [closedIn, closed] at known
  | some date => simp [size, Loss.ofGroup?, closed]

namespace Report

/-- No addition that the report of a year makes overflows or rounds, and the products of its taxable sums
with the rates exist. -/
structure SumsExactly (groups : List TradeGroup) (lines : List LedgerLine) (year : Int) (rules : Rules) : Prop where
  gains : Gains.SumsExactly rules (closedInYear year groups)
  nets : whenever (Gains.ofGroups rules (closedInYear year groups)) Gains.NetsExactly
  dividends : TotalsExactly ((dividendsIn year lines).map (·.amount))
  holdings : DividendRow.HoldingsExactly (dividendsIn year lines)
  washSales : TotalsExactly ((flagsIn rules year groups).map (·.lossPnl.abs))
  taxes : whenever (Gains.ofGroups rules (closedInYear year groups)) fun gains =>
    whenever (total ((dividendsIn year lines).map (·.amount))) (Estimate.TotalsExactly rules gains)

instance (groups : List TradeGroup) (lines : List LedgerLine) (year : Int) (rules : Rules) :
    Decidable (SumsExactly groups lines year rules) :=
  decidable_of_iff (_ ∧ _ ∧ _ ∧ _ ∧ _ ∧ _)
    ⟨fun ⟨gains, nets, dividends, holdings, washSales, taxes⟩ =>
      ⟨gains, nets, dividends, holdings, washSales, taxes⟩,
    fun ⟨gains, nets, dividends, holdings, washSales, taxes⟩ =>
      ⟨gains, nets, dividends, holdings, washSales, taxes⟩⟩

/-- The figures of a report are the sums over its year. -/
structure AddsUp (report : Report) (groups : List TradeGroup) (lines : List LedgerLine) (year : Int)
    (rules : Rules) : Prop where
  year_eq : report.year = year
  bracket : report.bracket = rules.bracket ∧ report.summary.bracket = rules.bracket
  years : report.years = availableYears groups (dividendLines lines)
  gainsRows : report.gainsRows = (closedInYear year groups).map fun group => ⟨group, Term.ofGroup rules group⟩
  washSales : report.washSales = flagsIn rules year groups
  dividendRows : DividendRow.ofLines (dividendsIn year lines) = .ok report.dividendRows ∧
    DividendRow.ListAddsUp report.dividendRows (dividendsIn year lines)
  closedTrades : report.summary.closedTrades = (closedInYear year groups).length
  gains : ∀ term outcome, (report.summary.gains.of term outcome).toRat =
    ((closedInYear year groups).map fun group => Gains.part rules group term outcome).sum
  netShort : report.summary.gains.netShort = .ok report.summary.netShort ∧
    report.summary.netShort.toRat = Gains.netOf rules .short (closedInYear year groups)
  netLong : report.summary.gains.netLong = .ok report.summary.netLong ∧
    report.summary.netLong.toRat = Gains.netOf rules .long (closedInYear year groups)
  net : report.summary.gains.net = .ok report.summary.net ∧
    report.summary.net.toRat = ((closedInYear year groups).map fun group => group.pnl.toRat).sum
  dividends : report.summary.dividends.toRat = ((dividendsIn year lines).map fun line => line.amount.toRat).sum
  washTotal : report.summary.washSales.toRat = ((flagsIn rules year groups).map fun flag => |flag.lossPnl.toRat|).sum
  estimate : Estimate.ofGains rules report.summary.gains report.summary.dividends = .ok report.summary.estimate
  deduction : report.summary.gains.deduction rules = .ok report.summary.deduction

variable {groups : List TradeGroup} {lines : List LedgerLine} {year : Int} {rules : Rules}

/-- Where no addition rounds, there is a report, and it adds up. -/
theorem build_exact (unrounded : SumsExactly groups lines year rules) :
    ∃ report, build groups lines year rules = .ok report ∧ report.AddsUp groups lines year rules := by
  obtain ⟨gains, summed, sums⟩ := Gains.ofGroups_exact unrounded.gains
  have nets := unrounded.nets
  have taxes := unrounded.taxes
  obtain ⟨dividends, paid, dividendSum⟩ := total_exact unrounded.dividends
  obtain ⟨washTotal, flagged, washSum⟩ := total_exact unrounded.washSales
  obtain ⟨rows, listed, addsUp⟩ := DividendRow.ofLines_exact unrounded.holdings
  rw [summed] at nets taxes
  rw [paid] at taxes
  obtain ⟨short, long, net, ofShort, ofLong, ofNet, shortSum, longSum, netSum⟩ := Gains.nets_exact nets
  obtain ⟨estimate, estimated, _⟩ := taxes
  obtain ⟨deduction, deducted⟩ : ∃ deduction, gains.deduction rules = .ok deduction :=
    ⟨_, by rw [Gains.deduction, ofNet]; rfl⟩
  have inBrief : WashSaleSummary.ofYear year (WashSale.detect rules.washSaleDays groups) =
      .ok ⟨year, (flagsIn rules year groups).length, washTotal,
        ascendingDistinct ((flagsIn rules year groups).map (·.symbol))⟩ := by
    rw [WashSaleSummary.ofYear, ← flagsIn, flagged]
    rfl
  have summary : Summary.ofYear rules (closedInYear year groups) (dividendsIn year lines) washTotal =
      .ok ⟨gains, short, long, net, dividends, washTotal, (closedInYear year groups).length, estimate, deduction,
        rules.bracket⟩ := by
    rw [Summary.ofYear, summed, ok_bind, paid, ok_bind, estimated, ok_bind, ofShort, ok_bind, ofLong, ok_bind, ofNet,
      ok_bind, deducted]
    rfl
  refine ⟨⟨year, rules.bracket, ⟨gains, short, long, net, dividends, washTotal, (closedInYear year groups).length,
    estimate, deduction, rules.bracket⟩, (closedInYear year groups).map fun group => ⟨group, Term.ofGroup rules group⟩,
    flagsIn rules year groups, rows, availableYears groups (dividendLines lines)⟩, ?_, ?_⟩
  · rw [dividendsIn] at summary listed
    simp only [build, inBrief, ok_bind, summary, listed]
    rfl
  · exact {
      year_eq := rfl
      bracket := ⟨rfl, rfl⟩
      years := rfl
      gainsRows := rfl
      washSales := rfl
      dividendRows := ⟨listed, addsUp⟩
      closedTrades := rfl
      gains := sums
      netShort := ⟨ofShort, by
        rw [shortSum, ← Gains.sum_part]
        exact congrArg₂ (· + ·) (sums .short .gain) (sums .short .loss)⟩
      netLong := ⟨ofLong, by
        rw [longSum, ← Gains.sum_part]
        exact congrArg₂ (· + ·) (sums .long .gain) (sums .long .loss)⟩
      net := ⟨ofNet, by
        rw [netSum, shortSum, longSum, ← Gains.netOf_add rules, ← Gains.sum_part, ← Gains.sum_part]
        exact congrArg₂ (· + ·) (congrArg₂ (· + ·) (sums .short .gain) (sums .short .loss))
          (congrArg₂ (· + ·) (sums .long .gain) (sums .long .loss))⟩
      dividends := by rw [dividendSum, List.map_map]; rfl
      washTotal := by
        rw [washSum, List.map_map]
        exact congrArg List.sum (List.map_congr_left fun flag _ => toRat_abs flag.lossPnl)
      estimate := estimated
      deduction := deducted }

theorem AddsUp.gainsRows_map {report : Report} (addsUp : report.AddsUp groups lines year rules) :
    report.gainsRows.map GainsRow.group = closedInYear year groups := by
  rw [addsUp.gainsRows, List.map_map]
  exact List.map_id _

/-- Positions closed around a turn of the year: a loss on shares that are bought again in the new year, a
long-term gain of the same day, the gain on the shares that were bought again and a loss of no known day. -/
def closedAround : List TradeGroup :=
  [⟨"A", "X", "X", "swing", "equity", Date.ofCivil? ⟨2024, 11, 1⟩, Date.ofCivil? ⟨2024, 12, 20⟩,
      (ofParts? true 5025 2).getD .zero, 49, 2⟩,
    ⟨"A", "Y", "Y", "hold", "equity", Date.ofCivil? ⟨2023, 1, 5⟩, Date.ofCivil? ⟨2024, 12, 20⟩, .ofUInt32 120, 715, 3⟩,
    ⟨"A", "X", "X", "swing", "equity", Date.ofCivil? ⟨2025, 1, 10⟩, Date.ofCivil? ⟨2025, 3, 1⟩, .ofUInt32 70, 50, 2⟩,
    ⟨"B", "X", "X", "swing", "equity", none, none, (ofParts? true 5 0).getD .zero, 0, 1⟩]

/-- Dividends of two holdings in both years, one of no known day and a purchase. -/
def paidAround : List LedgerLine :=
  [⟨"A", "X", "X", .equity, Date.ofCivil? ⟨2024, 6, 3⟩, .dividend, .zero, .ofUInt32 3⟩,
    ⟨"A", "Y", "Y", .equity, Date.ofCivil? ⟨2024, 7, 1⟩, .dividend, .zero, (ofParts? false 425 2).getD .zero⟩,
    ⟨"A", "X", "X", .equity, Date.ofCivil? ⟨2024, 9, 3⟩, .dividend, .zero, (ofParts? false 30 1).getD .zero⟩,
    ⟨"B", "X", "X", .equity, none, .dividend, .zero, .ofUInt32 2⟩,
    ⟨"A", "X", "X", .equity, Date.ofCivil? ⟨2025, 3, 3⟩, .dividend, .zero, .ofUInt32 4⟩,
    ⟨"A", "X", "X", .equity, Date.ofCivil? ⟨2025, 1, 10⟩, .buy, .ofUInt32 2, (ofParts? true 80 0).getD .zero⟩]

end Report

end TradeLedger.Tax
