import TradeLedger.Proofs.Decimal.Monotone
import TradeLedger.Proofs.Tax.Gains

/-! Taxes and profits. If the positions of a year, one by one, bring no less, then the tax on them is no less and
the deduction no more, whichever sums they go to and wherever those are rounded. -/
namespace TradeLedger

/-- Nothing added leaves the number as it is. -/
theorem Decimal.exists_add_zero (a : Decimal) : ∃ sum, a.add .zero = .ok sum ∧ sum.toRat = a.toRat := by
  have same : a.toRat + Decimal.zero.toRat = a.toRat := by rw [toRat_zero, add_zero]
  obtain ⟨sum, added, rounded⟩ := (add_computes a .zero).exists_ok (by rw [same]; exact a.abs_toRat_lt_limit)
  exact ⟨sum, added, (rounded.eq_of_eq same).trans same⟩

namespace Tax

open Decimal

variable {rules : Rules} {groups better : List TradeGroup} {dividends dividends' : Decimal} {gains gains' : Gains}
  {estimate estimate' : Estimate} {net net' deduction deduction' : Decimal}

theorem Outcome.part_mono (outcome : Outcome) {x y : ℚ} (less : x ≤ y) : outcome.part x ≤ outcome.part y := by
  cases outcome with
  | gain => exact max_le_max_right 0 less
  | loss => exact min_le_min_right 0 less

namespace Gains

/-- None of the sums is more than that of the other gains. -/
def AtMost (gains gains' : Gains) : Prop :=
  ∀ term outcome, (gains.of term outcome).toRat ≤ (gains'.of term outcome).toRat

/-- Every sum takes in its part of a profit, be it none. -/
theorem exists_change {term : Term} {pnl : Decimal} {next : Gains} (added : gains.add term pnl = .ok next)
    (probe : Term) (outcome : Outcome) : ∃ change sum, (gains.of probe outcome).add change = .ok sum ∧
      change.toRat = (if term = probe then outcome.part pnl.toRat else 0) ∧
      sum.toRat = (next.of probe outcome).toRat := by
  rw [add_eq] at added
  obtain ⟨still, idle, same⟩ := (gains.of probe outcome).exists_add_zero
  cases known : Outcome.ofPnl? pnl with
  | none =>
    rw [known] at added
    cases added
    exact ⟨.zero, still, idle, by simp [Outcome.part_eq, known], same⟩
  | some own =>
    rw [known] at added
    obtain ⟨sum, summed, added⟩ := bind_eq_ok.mp added
    cases added
    by_cases here : probe = term ∧ outcome = own
    · obtain ⟨rfl, rfl⟩ := here
      exact ⟨pnl, sum, summed, by simp [Outcome.part_eq, known], by simp [of_set]⟩
    · refine ⟨.zero, still, idle, ?_, by rw [of_set, if_neg here, same]⟩
      by_cases inside : term = probe
      · have other : own ≠ outcome := fun equal => here ⟨inside.symm, equal.symm⟩
        simp [Outcome.part_eq, known, other]
      · simp [inside]

/-- A larger profit of the same term leaves larger sums. -/
theorem add_atMost {term : Term} {pnl pnl' : Decimal} {next next' : Gains} (before : gains.AtMost gains')
    (less : pnl.toRat ≤ pnl'.toRat) (added : gains.add term pnl = .ok next) (added' : gains'.add term pnl' = .ok next') :
    next.AtMost next' := by
  intro probe outcome
  obtain ⟨change, sum, summed, part, value⟩ := exists_change added probe outcome
  obtain ⟨change', sum', summed', part', value'⟩ := exists_change added' probe outcome
  rw [← value, ← value']
  refine add_mono (before probe outcome) ?_ summed summed'
  rw [part, part']
  split
  · exact outcome.part_mono less
  · exact le_refl _

/-- The second list holds the positions of the first one, held as long, and each brings at least as much. -/
def Improved (groups better : List TradeGroup) : Prop :=
  List.Forall₂ (fun group more => group.daysHeld = more.daysHeld ∧ group.pnl ≤ more.pnl) groups better

theorem ofGroups_atMost (grown : Improved groups better) (summed : ofGroups rules groups = .ok gains)
    (summed' : ofGroups rules better = .ok gains') : gains.AtMost gains' := by
  refine foldlM_related ?_ grown (fun _ _ => le_refl _) summed summed'
  rintro _ _ group more _ _ before ⟨days, less⟩ added added'
  have term : Term.ofGroup rules group = Term.ofGroup rules more := congrArg (Term.ofDays rules) days
  rw [term] at added
  exact add_atMost before (le_iff.mp less) added added'

theorem net_mono (less : gains.AtMost gains') (joined : gains.net = .ok net) (joined' : gains'.net = .ok net') :
    net.toRat ≤ net'.toRat := by
  obtain ⟨short, ofShort, joined⟩ := bind_eq_ok.mp joined
  obtain ⟨long, ofLong, joined⟩ := bind_eq_ok.mp joined
  obtain ⟨short', ofShort', joined'⟩ := bind_eq_ok.mp joined'
  obtain ⟨long', ofLong', joined'⟩ := bind_eq_ok.mp joined'
  exact add_mono (add_mono (less .short .gain) (less .short .loss) ofShort ofShort')
    (add_mono (less .long .gain) (less .long .loss) ofLong ofLong') joined joined'

/-- The deduction is the net loss within the limit. -/
theorem toRat_deduction (limited : Decimal.zero ≤ rules.lossLimit) (joined : gains.net = .ok net)
    (deducted : gains.deduction rules = .ok deduction) :
    deduction.toRat = min (max (-net.toRat) 0) rules.lossLimit.toRat := by
  have nonneg := le_iff.mp limited
  rw [toRat_zero] at nonneg
  rw [Gains.deduction, joined] at deducted
  cases deducted
  split
  case isTrue loss =>
    rw [lt_iff, toRat_zero] at loss
    rw [toRat_min, toRat_abs, abs_of_neg loss, max_eq_left (by linarith)]
  case isFalse gain =>
    rw [lt_iff, toRat_zero, not_lt] at gain
    rw [toRat_zero, max_eq_right (by linarith), min_eq_left nonneg]

end Gains

namespace Estimate

/-- Every tax is at most that of the other estimate. -/
structure AtMost (estimate estimate' : Estimate) : Prop where
  shortTerm : estimate.shortTerm ≤ estimate'.shortTerm
  longTerm : estimate.longTerm ≤ estimate'.longTerm
  dividends : estimate.dividends ≤ estimate'.dividends
  total : estimate.total ≤ estimate'.total

/-- The steps to an estimate. -/
theorem ofGains_eq_ok (made : ofGains rules gains dividends = .ok estimate) :
    ∃ shortRate longRate short long both, rules.bracket.shortTermFraction = .ok shortRate ∧
      rules.bracket.longTermFraction = .ok longRate ∧ gains.netShort = .ok short ∧ gains.netLong = .ok long ∧
      (short.max .zero).mul shortRate = .ok estimate.shortTerm ∧
      (long.max .zero).mul longRate = .ok estimate.longTerm ∧
      (dividends.max .zero).mul shortRate = .ok estimate.dividends ∧
      estimate.shortTerm.add estimate.longTerm = .ok both ∧ both.add estimate.dividends = .ok estimate.total := by
  obtain ⟨shortRate, ofShort, made⟩ := bind_eq_ok.mp made
  obtain ⟨longRate, ofLong, made⟩ := bind_eq_ok.mp made
  obtain ⟨short, netShort, made⟩ := bind_eq_ok.mp made
  obtain ⟨shortTerm, shortTax, made⟩ := bind_eq_ok.mp made
  obtain ⟨long, netLong, made⟩ := bind_eq_ok.mp made
  obtain ⟨longTerm, longTax, made⟩ := bind_eq_ok.mp made
  obtain ⟨dividendTax, taxed, made⟩ := bind_eq_ok.mp made
  obtain ⟨both, joined, made⟩ := bind_eq_ok.mp made
  obtain ⟨total, added, made⟩ := bind_eq_ok.mp made
  cases made
  exact ⟨shortRate, longRate, short, long, both, ofShort, ofLong, netShort, netLong, shortTax, longTax, taxed, joined,
    added⟩

/-- What is taxed is not negative, and no less where there is more. -/
theorem taxed_mono {x y rate tax tax' : Decimal} (less : x.toRat ≤ y.toRat) (nonneg : 0 ≤ rate.toRat)
    (taxed : (x.max .zero).mul rate = .ok tax) (taxed' : (y.max .zero).mul rate = .ok tax') :
    tax.toRat ≤ tax'.toRat := by
  refine mul_mono ?_ nonneg taxed taxed'
  rw [toRat_max, toRat_max]
  exact max_le_max_right _ less

theorem taxed_nonneg {x rate tax : Decimal} (nonneg : 0 ≤ rate.toRat) (taxed : (x.max .zero).mul rate = .ok tax) :
    0 ≤ tax.toRat := by
  refine mul_nonneg_of ?_ nonneg taxed
  rw [toRat_max, toRat_zero]
  exact le_max_right _ _

theorem ofGains_atMost (less : gains.AtMost gains') (paid : dividends ≤ dividends')
    (made : ofGains rules gains dividends = .ok estimate) (made' : ofGains rules gains' dividends' = .ok estimate') :
    estimate.AtMost estimate' := by
  obtain ⟨shortRate, longRate, short, long, both, ofShort, ofLong, netShort, netLong, shortTax, longTax, dividendTax,
    joined, added⟩ := ofGains_eq_ok made
  obtain ⟨shortRate', longRate', short', long', both', ofShort', ofLong', netShort', netLong', shortTax', longTax',
    dividendTax', joined', added'⟩ := ofGains_eq_ok made'
  obtain rfl : shortRate = shortRate' := Except.ok.inj (ofShort.symm.trans ofShort')
  obtain rfl : longRate = longRate' := Except.ok.inj (ofLong.symm.trans ofLong')
  have shorts := taxed_mono (add_mono (less .short .gain) (less .short .loss) netShort netShort')
    (fraction_nonneg ofShort) shortTax shortTax'
  have longs := taxed_mono (add_mono (less .long .gain) (less .long .loss) netLong netLong')
    (fraction_nonneg ofLong) longTax longTax'
  have dividends := taxed_mono (le_iff.mp paid) (fraction_nonneg ofShort) dividendTax dividendTax'
  exact ⟨le_iff.mpr shorts, le_iff.mpr longs, le_iff.mpr dividends,
    le_iff.mpr (add_mono (add_mono shorts longs joined joined') dividends added added')⟩

/-- No tax is negative. -/
structure NonNegative (estimate : Estimate) : Prop where
  shortTerm : Decimal.zero ≤ estimate.shortTerm
  longTerm : Decimal.zero ≤ estimate.longTerm
  dividends : Decimal.zero ≤ estimate.dividends
  total : Decimal.zero ≤ estimate.total

theorem ofGains_nonNegative (made : ofGains rules gains dividends = .ok estimate) : estimate.NonNegative := by
  obtain ⟨shortRate, longRate, short, long, both, ofShort, ofLong, _, _, shortTax, longTax, dividendTax, joined,
    added⟩ := ofGains_eq_ok made
  have shorts := taxed_nonneg (fraction_nonneg ofShort) shortTax
  have longs := taxed_nonneg (fraction_nonneg ofLong) longTax
  have dividends := taxed_nonneg (fraction_nonneg ofShort) dividendTax
  have total := add_nonneg_of (add_nonneg_of shorts longs joined) dividends added
  constructor <;> rwa [le_iff, toRat_zero]

end Estimate

/-- The figures of a list of positions and of the dividends: the sums by term and outcome, the estimate, the net
and the deduction. -/
structure Assessed (rules : Rules) (groups : List TradeGroup) (dividends : Decimal) (gains : Gains)
    (estimate : Estimate) (net deduction : Decimal) : Prop where
  summed : Gains.ofGroups rules groups = .ok gains
  estimated : Estimate.ofGains rules gains dividends = .ok estimate
  joined : gains.net = .ok net
  deducted : gains.deduction rules = .ok deduction

/-- There are such figures if nothing overflows. -/
theorem exists_assessed (rules : Rules) (groups : List TradeGroup) (dividends : Decimal)
    (answered : (do
      let gains ← Gains.ofGroups rules groups
      return (← Estimate.ofGains rules gains dividends, ← gains.net, ← gains.deduction rules)).isOk) :
    ∃ gains estimate net deduction, Assessed rules groups dividends gains estimate net deduction := by
  obtain ⟨_, answered⟩ := exists_of_isOk answered
  obtain ⟨gains, summed, answered⟩ := bind_eq_ok.mp answered
  obtain ⟨estimate, estimated, answered⟩ := bind_eq_ok.mp answered
  obtain ⟨net, joined, answered⟩ := bind_eq_ok.mp answered
  obtain ⟨deduction, deducted, _⟩ := bind_eq_ok.mp answered
  exact ⟨gains, estimate, net, deduction, summed, estimated, joined, deducted⟩

/-- No tax is negative, and the deduction is within the limit and the net loss. -/
structure Sound (rules : Rules) (estimate : Estimate) (net deduction : Decimal) : Prop where
  taxes : estimate.NonNegative
  deduction_nonneg : Decimal.zero ≤ deduction
  deduction_le_limit : deduction ≤ rules.lossLimit
  deduction_le_net : deduction ≤ net.abs

theorem Assessed.sound (limited : Decimal.zero ≤ rules.lossLimit)
    (assessed : Assessed rules groups dividends gains estimate net deduction) : Sound rules estimate net deduction := by
  have value := Gains.toRat_deduction limited assessed.joined assessed.deducted
  have nonneg := le_iff.mp limited
  rw [toRat_zero] at nonneg
  refine ⟨Estimate.ofGains_nonNegative assessed.estimated, le_iff.mpr ?_, le_iff.mpr ?_, le_iff.mpr ?_⟩
  · rw [toRat_zero, value]
    exact le_min (le_max_right _ _) nonneg
  · rw [value]
    exact min_le_right _ _
  · rw [value, toRat_abs]
    exact (min_le_left _ _).trans (max_le (neg_le_abs _) (abs_nonneg _))

/-- If every position brings at least as much, held as long, and the dividends are no less, then no tax is less
and the deduction is no more. A position may turn from a loss into a gain. -/
theorem taxes_rise_with_profits (limited : Decimal.zero ≤ rules.lossLimit) (grown : Gains.Improved groups better)
    (paid : dividends ≤ dividends') (before : Assessed rules groups dividends gains estimate net deduction)
    (after : Assessed rules better dividends' gains' estimate' net' deduction') :
    estimate.AtMost estimate' ∧ deduction' ≤ deduction ∧ Sound rules estimate net deduction ∧
      Sound rules estimate' net' deduction' := by
  have sums := Gains.ofGroups_atMost grown before.summed after.summed
  have nets := Gains.net_mono sums before.joined after.joined
  refine ⟨Estimate.ofGains_atMost sums paid before.estimated after.estimated, le_iff.mpr ?_, before.sound limited,
    after.sound limited⟩
  rw [Gains.toRat_deduction limited before.joined before.deducted,
    Gains.toRat_deduction limited after.joined after.deducted]
  exact min_le_min_right _ (max_le_max_right 0 (neg_le_neg nets))

/-- A short-term loss past the limit, a long-term gain and a loss of a single cent. -/
def losingYear : List TradeGroup :=
  [⟨"A", "X", "X", "swing", "equity", none, none, (ofParts? true 400050 2).getD .zero, 20, 2⟩,
    ⟨"A", "Y", "Y", "hold", "equity", none, none, (ofParts? false 1255 1).getD .zero, 400, 2⟩,
    ⟨"A", "Z", "Z", "hold", "equity", none, none, (ofParts? true 1 2).getD .zero, 366, 2⟩]

/-- The same, but the first position gains a little and the last one closes even. -/
def turnedYear : List TradeGroup :=
  [⟨"A", "X", "X", "swing", "equity", none, none, (ofParts? false 75 2).getD .zero, 20, 2⟩,
    ⟨"A", "Y", "Y", "hold", "equity", none, none, (ofParts? false 1255 1).getD .zero, 400, 2⟩,
    ⟨"A", "Z", "Z", "hold", "equity", none, none, .zero, 366, 2⟩]

theorem turned_year_taxed : ∃ gains gains' estimate estimate' net net' deduction deduction',
    Assessed .us losingYear .zero gains estimate net deduction ∧
      Assessed .us turnedYear (.ofUInt32 8) gains' estimate' net' deduction' ∧
      estimate.AtMost estimate' ∧ deduction' ≤ deduction ∧ Sound .us estimate net deduction ∧
      Sound .us estimate' net' deduction' := by
  obtain ⟨gains, estimate, net, deduction, before⟩ := exists_assessed .us losingYear .zero (by decide +kernel)
  obtain ⟨gains', estimate', net', deduction', after⟩ :=
    exists_assessed .us turnedYear (.ofUInt32 8) (by decide +kernel)
  have grown : Gains.Improved losingYear turnedYear :=
    .cons (by decide +kernel) (.cons (by decide +kernel) (.cons (by decide +kernel) .nil))
  exact ⟨gains, gains', estimate, estimate', net, net', deduction, deduction', before, after,
    taxes_rise_with_profits (by decide) grown (by decide) before after⟩

end Tax

end TradeLedger
