import TradeLedger.Proofs.Tax.Report

/-! Reports that reconcile. The figures of a report are sums over its own rows: nets over the positions of a
term, dividends over holdings, and the wash sales over its flags, which are no more than its losses. -/
namespace TradeLedger.Tax

open Decimal

theorem Outcome.gain_part_nonneg (x : ℚ) : 0 ≤ Outcome.gain.part x := le_max_right x 0

theorem Outcome.loss_part_nonpos (x : ℚ) : Outcome.loss.part x ≤ 0 := min_le_right x 0

theorem abs_of_isLoser {group : TradeGroup} (loses : group.isLoser = true) :
    |group.pnl.toRat| = -Outcome.loss.part group.pnl.toRat := by
  have below := TradeGroup.isLoser_iff.mp loses
  rw [abs_of_neg below, Outcome.part, min_eq_left below.le]

theorem Gains.gain_part_nonneg (rules : Rules) (group : TradeGroup) (term : Term) :
    0 ≤ part rules group term .gain := by
  rw [part]
  split
  · exact Outcome.gain_part_nonneg _
  · exact le_rfl

theorem Gains.loss_part_nonpos (rules : Rules) (group : TradeGroup) (term : Term) :
    part rules group term .loss ≤ 0 := by
  rw [part]
  split
  · exact Outcome.loss_part_nonpos _
  · exact le_rfl

/-- The losses of both terms are those of all positions. -/
theorem Gains.sum_loss_part (rules : Rules) (groups : List TradeGroup) :
    (groups.map fun group => Gains.part rules group .short .loss).sum +
        (groups.map fun group => Gains.part rules group .long .loss).sum =
      (groups.map fun group => Outcome.loss.part group.pnl.toRat).sum := by
  rw [← List.sum_map_add]
  congr 1
  apply List.map_congr_left
  intro group _
  cases own : Term.ofGroup rules group <;> simp [Gains.part, own]

section Washed

variable {rules : Rules} {year : Int} {groups : List TradeGroup}

theorem isLoser_of_washedIn {group : TradeGroup} (member : group ∈ washedIn rules year groups) :
    group.isLoser = true := by
  have washed := (List.mem_filter.mp (List.mem_of_mem_filter member)).2
  exact (Bool.and_eq_true_iff.mp washed).1

/-- The flags sum up to no more than all losses of the year. -/
theorem sum_flagsIn_le (rules : Rules) (year : Int) (groups : List TradeGroup) :
    ((flagsIn rules year groups).map fun flag => |flag.lossPnl.toRat|).sum ≤
      -((closedInYear year groups).map fun group => Outcome.loss.part group.pnl.toRat).sum := by
  let size (group : TradeGroup) : ℚ := -Outcome.loss.part group.pnl.toRat
  calc ((flagsIn rules year groups).map fun flag => |flag.lossPnl.toRat|).sum
      = ((washedIn rules year groups).map size).sum := by
        rw [sum_flagsIn]
        exact congrArg List.sum (List.map_congr_left fun group member => abs_of_isLoser (isLoser_of_washedIn member))
    _ ≤ ((groups.filter (closedIn year)).map size).sum := by
        refine ((washedIn_sublist rules year groups).map size).sum_le_sum fun x member => ?_
        obtain ⟨group, _, rfl⟩ := List.mem_map.mp member
        exact neg_nonneg.mpr (Outcome.loss_part_nonpos _)
    _ = ((closedInYear year groups).map size).sum := ((closedInYear_perm year groups).map size).sum_eq.symm
    _ = -((closedInYear year groups).map fun group => Outcome.loss.part group.pnl.toRat).sum := by
        rw [List.sum_neg, List.map_map]
        rfl

end Washed

namespace Report

variable {groups : List TradeGroup} {lines : List LedgerLine} {year : Int} {rules : Rules}

/-- A report agrees with its own rows, and its rows with the year. -/
structure Reconciles (report : Report) (groups : List TradeGroup) (lines : List LedgerLine) (year : Int)
    (rules : Rules) : Prop where
  /-- The net of each term is the sum over the rows of the term. -/
  netShort : report.summary.netShort.toRat =
    ((report.gainsRows.filter fun row => row.term = .short).map fun row => row.group.pnl.toRat).sum
  netLong : report.summary.netLong.toRat =
    ((report.gainsRows.filter fun row => row.term = .long).map fun row => row.group.pnl.toRat).sum
  losses_nonpos : ∀ term, (report.summary.gains.of term .loss).toRat ≤ 0
  gains_nonneg : ∀ term, 0 ≤ (report.summary.gains.of term .gain).toRat
  net : report.summary.net.toRat = (report.gainsRows.map fun row => row.group.pnl.toRat).sum
  terms : ∀ row ∈ report.gainsRows, row.term = Term.ofGroup rules row.group
  /-- The rows were closed in the year, and the latest come first, those of one day as they were given. -/
  closed : ∀ row ∈ report.gainsRows, row.group.closed.map Date.year = some year
  newest : report.gainsRows.Pairwise fun a b => ∀ x ∈ a.group.closed, ∀ y ∈ b.group.closed, y ≤ x
  ties : ∀ date : Date, date.year = year →
    (report.gainsRows.map GainsRow.group).filter (fun group => group.closed = some date) =
      groups.filter fun group => group.closed = some date
  closedTrades : report.summary.closedTrades = report.gainsRows.length
  /-- The flags are those of losing rows, none of which has two. -/
  flags : ∃ losses : List TradeGroup, losses.Subperm (report.gainsRows.map GainsRow.group) ∧
    (∀ loss ∈ losses, loss.isLoser = true) ∧
    report.washSales.map (fun flag => some flag.loss) = losses.map Loss.ofGroup?
  washTotal : report.summary.washSales.toRat = (report.washSales.map fun flag => |flag.lossPnl.toRat|).sum
  washTotal_le : report.summary.washSales.toRat ≤
    -(report.summary.gains.shortLosses.toRat + report.summary.gains.longLosses.toRat)
  /-- No holding has two rows of dividends, and the largest come first. -/
  holdings : (report.dividendRows.map DividendRow.key).Nodup
  descending : report.dividendRows.Pairwise fun a b => b.total.toRat ≤ a.total.toRat
  /-- The last day of a row is the latest on which its holding was paid in the year. -/
  lastDates : ∀ row ∈ report.dividendRows, ∃ last : Date, row.lastDate = some last ∧ last.year = year ∧
    (∃ line ∈ lines, line.action = .dividend ∧ DividendRow.keyOf line = row.key ∧ line.date = some last) ∧
    ∀ line ∈ lines, line.action = .dividend → DividendRow.keyOf line = row.key →
      ∀ date ∈ line.date, date.year = year → date ≤ last
  /-- The rows add up to the sum of the dividends of the year, and count each of them once. -/
  dividends : (report.dividendRows.map fun row => row.total.toRat).sum = report.summary.dividends.toRat
  dividendTotal : report.summary.dividends.toRat = ((lines.filter fun line =>
    line.action = .dividend && line.date.map Date.year = some year).map fun line => line.amount.toRat).sum
  payments : (report.dividendRows.map DividendRow.count).sum =
    (lines.filter fun line => line.action = .dividend && line.date.map Date.year = some year).length

theorem AddsUp.sum_term {report : Report} (addsUp : report.AddsUp groups lines year rules) (term : Term) :
    ((report.gainsRows.filter fun row => row.term = term).map fun row => row.group.pnl.toRat).sum =
      Gains.netOf rules term (closedInYear year groups) := by
  rw [addsUp.gainsRows, List.filter_map, List.map_map]
  rfl

/-- The days of the year on which a holding was paid. -/
theorem mem_dates_paidTo {holding : HoldingKey} {date : Date} :
    some date ∈ (DividendRow.paidTo holding (dividendsIn year lines)).map LedgerLine.date ↔
      date.year = year ∧ ∃ line ∈ lines, line.action = .dividend ∧ DividendRow.keyOf line = holding ∧
        line.date = some date := by
  rw [List.mem_map]
  constructor
  · rintro ⟨line, listed, known⟩
    obtain ⟨paid, own⟩ := List.mem_filter.mp listed
    obtain ⟨given, pays, within⟩ := mem_dividendsIn.mp paid
    rw [known] at within
    exact ⟨Option.some.inj within, line, given, pays, of_decide_eq_true own, known⟩
  · rintro ⟨rfl, line, given, pays, own, known⟩
    have within : line.date.map Date.year = some date.year := by rw [known]; rfl
    exact ⟨line, List.mem_filter.mpr ⟨mem_dividendsIn.mpr ⟨given, pays, within⟩, decide_eq_true own⟩, known⟩

theorem AddsUp.lastDate {report : Report} (addsUp : report.AddsUp groups lines year rules) {row : DividendRow}
    (member : row ∈ report.dividendRows) : ∃ last : Date, row.lastDate = some last ∧ last.year = year ∧
      (∃ line ∈ lines, line.action = .dividend ∧ DividendRow.keyOf line = row.key ∧ line.date = some last) ∧
      ∀ line ∈ lines, line.action = .dividend → DividendRow.keyOf line = row.key →
        ∀ date ∈ line.date, date.year = year → date ≤ last := by
  have latest := (addsUp.dividendRows.2.rows row member).lastDate
  cases known : row.lastDate with
  | none =>
    -- The row has a line of the year, so one of its days is known.
    obtain ⟨line, paid, own⟩ := (addsUp.dividendRows.2.listed row.key).mp (List.mem_map_of_mem member)
    obtain ⟨given, pays, within⟩ := mem_dividendsIn.mp paid
    obtain ⟨date, dated, inYear⟩ := Option.map_eq_some_iff.mp within
    rw [known] at latest
    cases latest _ (mem_dates_paidTo.mpr ⟨inYear, line, given, pays, own, dated⟩)
  | some last =>
    rw [known] at latest
    obtain ⟨listed, latest⟩ := latest
    obtain ⟨inYear, paid⟩ := mem_dates_paidTo.mp listed
    refine ⟨last, rfl, inYear, paid, fun line given pays own date dated inYear => ?_⟩
    exact latest date (mem_dates_paidTo.mpr ⟨inYear, line, given, pays, own, dated⟩)

theorem AddsUp.reconciles {report : Report} (addsUp : report.AddsUp groups lines year rules) :
    report.Reconciles groups lines year rules where
  netShort := addsUp.netShort.2.trans (addsUp.sum_term .short).symm
  netLong := addsUp.netLong.2.trans (addsUp.sum_term .long).symm
  losses_nonpos term := by
    rw [addsUp.gains]
    rw [← neg_nonneg, List.sum_neg, List.map_map]
    exact List.sum_nonneg (List.forall_mem_map.mpr fun group _ =>
      neg_nonneg.mpr (Gains.loss_part_nonpos rules group term))
  gains_nonneg term := by
    rw [addsUp.gains]
    exact List.sum_nonneg (List.forall_mem_map.mpr fun group _ => Gains.gain_part_nonneg rules group term)
  net := by
    rw [addsUp.net.2, addsUp.gainsRows, List.map_map]
    rfl
  terms row member := by
    rw [addsUp.gainsRows] at member
    obtain ⟨group, _, rfl⟩ := List.mem_map.mp member
    rfl
  closed row member := by
    have listed : row.group ∈ closedInYear year groups := addsUp.gainsRows_map ▸ List.mem_map_of_mem member
    exact of_decide_eq_true (List.mem_filter.mp ((closedInYear_perm year groups).mem_iff.mp listed)).2
  newest := by
    rw [addsUp.gainsRows, List.pairwise_map]
    exact pairwise_closedInYear year groups
  ties date own := by rw [addsUp.gainsRows_map, closedInYear_ties groups own]
  closedTrades := by rw [addsUp.closedTrades, addsUp.gainsRows, List.length_map]
  flags := by
    refine ⟨washedIn rules year groups, ?_, fun loss member => isLoser_of_washedIn member, ?_⟩
    · rw [addsUp.gainsRows_map]
      exact (washedIn_sublist rules year groups).subperm.trans (closedInYear_perm year groups).symm.subperm
    · rw [addsUp.washSales, map_loss_flagsIn]
  washTotal := by rw [addsUp.washTotal, addsUp.washSales]
  washTotal_le := by
    have losses : report.summary.gains.shortLosses.toRat + report.summary.gains.longLosses.toRat =
        ((closedInYear year groups).map fun group => Outcome.loss.part group.pnl.toRat).sum := by
      rw [← Gains.sum_loss_part rules]
      exact congrArg₂ (· + ·) (addsUp.gains .short .loss) (addsUp.gains .long .loss)
    rw [addsUp.washTotal, losses]
    exact sum_flagsIn_le rules year groups
  holdings := addsUp.dividendRows.2.once
  descending := addsUp.dividendRows.2.ordered.imp fun {a b} order => order.elim le_of_lt fun both => both.1.ge
  lastDates _ member := addsUp.lastDate member
  dividends := by rw [addsUp.dividendRows.2.sum_total, addsUp.dividends]
  dividendTotal := by rw [addsUp.dividends, dividendsIn_eq]
  payments := by rw [addsUp.dividendRows.2.sum_count, dividendsIn_eq]

/-- Where no addition rounds, every year has a report, and it reconciles. -/
theorem build_reconciles {groups : List TradeGroup} {lines : List LedgerLine} {year : Int} {rules : Rules}
    (unrounded : SumsExactly groups lines year rules) :
    ∃ report, build groups lines year rules = .ok report ∧ report.Reconciles groups lines year rules := by
  obtain ⟨report, built, addsUp⟩ := build_exact unrounded
  exact ⟨report, built, addsUp.reconciles⟩

/-- In 2024 a loss and a long-term gain are closed on one day, and the loss is a wash sale. The first holding is paid
twice, last in September, and the second once. -/
theorem old_year_reconciles : SumsExactly closedAround paidAround 2024 .us ∧
    ∃ report, build closedAround paidAround 2024 .us = .ok report ∧
      report.gainsRows.map (fun row => (row.group.pnl.toRat, row.term)) = [(-5025 / 100, .short), (120, .long)] ∧
      report.washSales.map (fun flag => flag.lossPnl.toRat) = [-5025 / 100] ∧
      report.dividendRows.map DividendRow.figures =
        [(6, ⟨"A", "X"⟩, 2, Date.ofCivil? ⟨2024, 9, 3⟩), (425 / 100, ⟨"A", "Y"⟩, 1, Date.ofCivil? ⟨2024, 7, 1⟩)] ∧
      report.summary.dividends.toRat = 1025 / 100 ∧
      report.Reconciles closedAround paidAround 2024 .us := by
  have unrounded : SumsExactly closedAround paidAround 2024 .us := by decide +kernel
  obtain ⟨report, built, reconciles⟩ := build_reconciles unrounded
  refine ⟨unrounded, report, built, ?_, ?_, ?_, ?_, reconciles⟩
  · refine eq_of_map_eq_ok (f := fun report => report.gainsRows.map fun row => (row.group.pnl.toRat, row.term)) built ?_
    decide +kernel
  · refine eq_of_map_eq_ok (f := fun report => report.washSales.map fun flag => flag.lossPnl.toRat) built ?_
    decide +kernel
  · refine eq_of_map_eq_ok (f := fun report => report.dividendRows.map DividendRow.figures) built ?_
    decide +kernel
  · refine eq_of_map_eq_ok (f := fun report => report.summary.dividends.toRat) built ?_
    decide +kernel

end Report

end TradeLedger.Tax
