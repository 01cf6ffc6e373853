import TradeLedger.Proofs.Budget
import TradeLedger.Proofs.Tax.Report

/-! The budget of a report. Each position is added into one sum of gains or losses and each dividend into the
total and into one row. The sums are then joined once, and taxes and deductions are shares of what is joined. So
the limit on imported numbers is enough for every figure of a report. -/
namespace TradeLedger.Tax

open Decimal

variable {rules : Rules} {groups : List TradeGroup} {lines : List LedgerLine} {gains : Gains} {year : Int}

namespace Gains

/-- The sizes of all sums together. -/
def weight (gains : Gains) : ℚ :=
  |gains.shortGains.toRat| + |gains.shortLosses.toRat| + |gains.longGains.toRat| + |gains.longLosses.toRat|

@[simp] theorem weight_zero : weight zero = 0 := by
  simp [weight, zero]

theorem weight_set (gains : Gains) (term : Term) (outcome : Outcome) (sum : Decimal) :
    (gains.set term outcome sum).weight = gains.weight - |(gains.of term outcome).toRat| + |sum.toRat| := by
  cases term <;> cases outcome <;> simp only [set, of, weight] <;> ring

/-- No sum is larger than all together. -/
theorem abs_of_le (gains : Gains) (term : Term) (outcome : Outcome) :
    |(gains.of term outcome).toRat| ≤ gains.weight := by
  have shortGains := abs_nonneg gains.shortGains.toRat
  have shortLosses := abs_nonneg gains.shortLosses.toRat
  have longGains := abs_nonneg gains.longGains.toRat
  have longLosses := abs_nonneg gains.longLosses.toRat
  cases term <;> cases outcome <;> simp only [of, weight] <;> linarith

theorem add_exists (term : Term) {pnl : Decimal} (small : gains.weight + (|pnl.toRat| + 1) ≤ 10 ^ 28 - 1) :
    ∃ next, gains.add term pnl = .ok next ∧ next.weight ≤ gains.weight + (|pnl.toRat| + 1) := by
  rw [add_eq]
  cases Outcome.ofPnl? pnl with
  | none => exact ⟨gains, rfl, by linarith [abs_nonneg pnl.toRat]⟩
  | some outcome =>
    obtain ⟨sum, added, size⟩ := Decimal.add_exists (a := gains.of term outcome) (b := pnl) (by
      linarith [gains.abs_of_le term outcome])
    refine ⟨gains.set term outcome sum, by rw [Option.elim_some, added]; rfl, ?_⟩
    rw [weight_set]
    linarith

theorem ofGroups_exists (rules : Rules) (profits : Affordable (fun group => |group.pnl.toRat|) groups) :
    ∃ gains, ofGroups rules groups = .ok gains ∧ gains.weight ≤ 10 ^ 27 + 10 ^ 12 :=
  profits.exists_foldlM (fun _ => abs_nonneg _) weight_zero fun _ group small =>
    add_exists (Term.ofGroup rules group) small

theorem nets_exist (small : gains.weight ≤ 10 ^ 27 + 10 ^ 12) :
    ∃ short long net, gains.netShort = .ok short ∧ gains.netLong = .ok long ∧ gains.net = .ok net ∧
      |short.toRat| ≤ 10 ^ 27 + 10 ^ 12 + 1 ∧ |long.toRat| ≤ 10 ^ 27 + 10 ^ 12 + 1 := by
  have shortGains := abs_nonneg gains.shortGains.toRat
  have shortLosses := abs_nonneg gains.shortLosses.toRat
  have longGains := abs_nonneg gains.longGains.toRat
  have longLosses := abs_nonneg gains.longLosses.toRat
  unfold weight at small
  obtain ⟨short, ofShort, shortSize⟩ :=
    Decimal.add_exists (a := gains.shortGains) (b := gains.shortLosses) (by linarith)
  obtain ⟨long, ofLong, longSize⟩ := Decimal.add_exists (a := gains.longGains) (b := gains.longLosses) (by linarith)
  obtain ⟨net, joined, _⟩ := Decimal.add_exists (a := short) (b := long) (by linarith)
  refine ⟨short, long, net, ofShort, ofLong, ?_, by linarith, by linarith⟩
  rw [Gains.net, netShort, ofShort, ok_bind, netLong, ofLong, ok_bind, joined]

end Gains

namespace Bracket

/-- The rates are at most a hundred percent. -/
structure IsPercent (bracket : Bracket) : Prop where
  rate : bracket.rate ≤ 100
  longTermRate : bracket.longTermRate ≤ 100

/-- Whatever rate is asked for, the bracket is one of the table. -/
theorem ofRate_isPercent (rate : UInt32) : (ofRate rate).IsPercent := by
  have all : ∀ bracket ∈ table, bracket.rate ≤ 100 ∧ bracket.longTermRate ≤ 100 := by decide
  rw [ofRate]
  cases found : table.find? (·.rate == rate) with
  | none => exact ⟨by decide, by decide⟩
  | some bracket => exact ⟨(all bracket (List.mem_of_find?_eq_some found)).1,
      (all bracket (List.mem_of_find?_eq_some found)).2⟩

end Bracket

namespace Estimate

/-- The tax on a figure is no larger than the figure. -/
theorem taxed_exists {rate : UInt32} {fraction : Decimal} (divided : (ofUInt32 rate).div .hundred = .ok fraction)
    (percent : rate ≤ 100) (x : Decimal) : ∃ tax, (x.max .zero).mul fraction = .ok tax ∧ |tax.toRat| ≤ |x.toRat| := by
  obtain ⟨tax, taxed, size⟩ := mul_exists (a := x.max .zero)
    (abs_le.mpr ⟨by linarith [fraction_nonneg divided], fraction_le_one divided percent⟩)
  refine ⟨tax, taxed, size.trans ?_⟩
  rw [toRat_max, toRat_zero]
  exact abs_max_le_max_abs_abs.trans (by rw [abs_zero, max_eq_left (abs_nonneg _)])

theorem ofGains_exists {dividends : Decimal} (percent : rules.bracket.IsPercent)
    (small : gains.weight ≤ 10 ^ 27 + 10 ^ 12) (paid : |dividends.toRat| ≤ 10 ^ 27 + 10 ^ 12) :
    ∃ estimate, ofGains rules gains dividends = .ok estimate := by
  obtain ⟨shortRate, ofShort⟩ := exists_fraction rules.bracket.rate
  obtain ⟨longRate, ofLong⟩ := exists_fraction rules.bracket.longTermRate
  obtain ⟨short, long, _, netShort, netLong, _, shortSize, longSize⟩ := Gains.nets_exist small
  obtain ⟨shortTax, shortTaxed, shortTaxSize⟩ := taxed_exists ofShort percent.rate short
  obtain ⟨longTax, longTaxed, longTaxSize⟩ := taxed_exists ofLong percent.longTermRate long
  obtain ⟨dividendTax, dividendTaxed, dividendTaxSize⟩ := taxed_exists ofShort percent.rate dividends
  obtain ⟨both, joined, bothSize⟩ := Decimal.add_exists (a := shortTax) (b := longTax) (by linarith)
  obtain ⟨total, added, _⟩ := Decimal.add_exists (a := both) (b := dividendTax) (by linarith)
  exact ⟨⟨shortTax, longTax, dividendTax, total⟩, by
    simp only [ofGains, Bracket.shortTermFraction, Bracket.longTermFraction, ofShort, ofLong, netShort, netLong,
      shortTaxed, longTaxed, dividendTaxed, joined, added, ok_bind]
    rfl⟩

end Estimate

theorem DividendRow.add_exists {row : DividendRow} {line : LedgerLine}
    (small : |row.total.toRat| + (|line.amount.toRat| + 1) ≤ 10 ^ 28 - 1) :
    ∃ next, row.add line = .ok next ∧ |next.total.toRat| ≤ |row.total.toRat| + (|line.amount.toRat| + 1) := by
  obtain ⟨total, added, grown⟩ := Decimal.add_exists (a := row.total) (b := line.amount) (by linarith)
  refine ⟨⟨row.account, row.symbol, total, row.count + 1, later row.lastDate line.date⟩, ?_,
    grown.trans_eq (add_assoc ..)⟩
  rw [add, added]
  rfl

/-- The rows together take in what one of them does. -/
theorem DividendRow.addLine_exists {rows : OrderedMap HoldingKey DividendRow} {line : LedgerLine}
    (small : rows.total (fun row => |row.total.toRat|) + (|line.amount.toRat| + 1) ≤ 10 ^ 28 - 1) :
    ∃ next, addLine rows line = .ok next ∧
      next.total (fun row => |row.total.toRat|) ≤
        rows.total (fun row => |row.total.toRat|) + (|line.amount.toRat| + 1) := by
  have nothing : |(⟨line.account, line.symbol, .zero, 0, none⟩ : DividendRow).total.toRat| = 0 := by simp
  rw [addLine]
  exact OrderedMap.exists_change (fun row : DividendRow => |row.total.toRat|) (fun row => row.add line)
    (fun _ => abs_nonneg _) nothing (fun _ => add_exists) small

theorem DividendRow.ofLines_exists (amounts : Affordable (fun line => |line.amount.toRat|) lines) :
    ∃ rows, ofLines lines = .ok rows := by
  obtain ⟨rows, filled, _⟩ := amounts.exists_foldlM (fun _ => abs_nonneg _)
    (OrderedMap.total_empty fun row : DividendRow => |row.total.toRat|) fun _ _ => addLine_exists
  exact ⟨_, by rw [ofLines, filled]; rfl⟩

/-- The flags of a year repeat positions, one for one. -/
theorem flagsIn_affordable (rules : Rules) (year : Int)
    (profits : Affordable (fun group => |group.pnl.toRat|) groups) :
    Affordable (fun flag => |flag.lossPnl.abs.toRat|) (flagsIn rules year groups) := by
  have repeated := map_loss_flagsIn rules year groups
  have washed : Affordable (fun group => |group.pnl.toRat|) (washedIn rules year groups) :=
    (profits.filter _).filter _
  constructor
  · have sameLength := congrArg List.length repeated
    rw [List.length_map, List.length_map] at sameLength
    exact sameLength.trans_le washed.few
  · intro flag member
    have listed : some flag.loss ∈ (washedIn rules year groups).map Loss.ofGroup? := by
      rw [← repeated]
      exact List.mem_map_of_mem member
    obtain ⟨group, washes, known⟩ := List.mem_map.mp listed
    obtain ⟨_, _, same⟩ := Option.map_eq_some_iff.mp known
    have pnl : group.pnl = flag.lossPnl := congrArg Loss.pnl same
    rw [toRat_abs, abs_abs, ← pnl]
    exact washed.each group washes

theorem WashSaleSummary.ofYear_exists (rules : Rules) (year : Int)
    (profits : Affordable (fun group => |group.pnl.toRat|) groups) :
    ∃ summary, ofYear year (WashSale.detect rules.washSaleDays groups) = .ok summary := by
  obtain ⟨total, added, _⟩ := Decimal.total_exists (flagsIn_affordable rules year profits)
  exact ⟨_, by rw [ofYear, ← flagsIn, added]; rfl⟩

/-- Positions and dividends that are affordable have a report, in every year and at every bracket. -/
theorem Report.build_exists (percent : rules.bracket.IsPercent) (year : Int)
    (profits : Affordable (fun group => |group.pnl.toRat|) groups)
    (amounts : Affordable (fun line => |line.amount.toRat|) lines) :
    ∃ report, build groups lines year rules = .ok report := by
  have paid : Affordable (fun line => |line.amount.toRat|) (dividendsIn year lines) := (amounts.filter _).filter _
  obtain ⟨washSales, inBrief⟩ := WashSaleSummary.ofYear_exists rules year profits
  obtain ⟨gains, summed, small⟩ :=
    Gains.ofGroups_exists rules (profits.of_perm_filter (closedInYear_perm year groups))
  obtain ⟨dividends, added, size⟩ := Decimal.total_exists paid
  obtain ⟨short, long, net, ofShort, ofLong, ofNet, _⟩ := Gains.nets_exist small
  obtain ⟨estimate, estimated⟩ := Estimate.ofGains_exists percent small size
  obtain ⟨rows, listed⟩ := DividendRow.ofLines_exists paid
  have summary : ∃ summary, Summary.ofYear rules (closedInYear year groups) (dividendsIn year lines)
      washSales.total = .ok summary :=
    ⟨_, by
      rw [Summary.ofYear, summed, ok_bind, added, ok_bind, estimated, ok_bind, ofShort, ok_bind, ofLong, ok_bind,
        ofNet, ok_bind, Gains.deduction, ofNet]
      rfl⟩
  obtain ⟨summary, figured⟩ := summary
  rw [dividendsIn] at figured listed
  exact ⟨_, by simp only [build, inBrief, ok_bind, figured, listed]; rfl⟩

end TradeLedger.Tax
