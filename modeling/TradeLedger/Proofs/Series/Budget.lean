import TradeLedger.Proofs.Budget
import TradeLedger.Proofs.Series.Source
import TradeLedger.Series.Reconstruction

/-! The budget of a curve. Every figure of a ledger is added into the flows of a day and the days are added up,
so flows and days are weighed by all figures in them and a charge for each addition. -/
namespace TradeLedger

open Decimal

namespace Flows

/-- The sizes of all sources together. -/
def weight (flows : Flows) : ℚ :=
  |flows.equity.toRat| + |flows.options.toRat| + |flows.dividends.toRat| + |flows.other.toRat|

@[simp] theorem weight_zero : weight zero = 0 := by
  simp [weight, zero]

theorem weight_nonneg (flows : Flows) : 0 ≤ flows.weight := by
  rw [weight]
  positivity

theorem weight_set (flows : Flows) (source : Source) (sum : Decimal) :
    (flows.set source sum).weight = flows.weight - |(flows.of source).toRat| + |sum.toRat| := by
  cases source <;> simp only [set, of, weight] <;> ring

/-- No source is larger than all together. -/
theorem abs_of_le (flows : Flows) (source : Source) : |(flows.of source).toRat| ≤ flows.weight := by
  have equity := abs_nonneg flows.equity.toRat
  have options := abs_nonneg flows.options.toRat
  have dividends := abs_nonneg flows.dividends.toRat
  have other := abs_nonneg flows.other.toRat
  cases source <;> simp only [of, weight] <;> linarith

theorem addTo_exists (flows : Flows) (source : Source) {amount : Decimal}
    (small : flows.weight + |amount.toRat| ≤ 10 ^ 28 - 1) :
    ∃ sum, (flows.of source).add amount = .ok sum ∧
      (flows.set source sum).weight ≤ flows.weight + (|amount.toRat| + 1) := by
  obtain ⟨sum, added, size⟩ := Decimal.add_exists (a := flows.of source) (b := amount) (by
    linarith [flows.abs_of_le source])
  refine ⟨sum, added, ?_⟩
  rw [weight_set]
  linarith

theorem addCash_exists (flows : Flows) (line : LedgerLine)
    (small : flows.weight + |line.amount.toRat| ≤ 10 ^ 28 - 1) :
    ∃ next, flows.addCash line = .ok next ∧ next.weight ≤ flows.weight + (|line.amount.toRat| + 1) := by
  by_cases about : line.instrument = .equity
  · exact ⟨flows, addCash_equity about flows, by linarith [abs_nonneg line.amount.toRat]⟩
  · obtain ⟨sum, added, size⟩ := flows.addTo_exists line.instrument.source small
    exact ⟨_, by rw [addCash_eq about, added]; rfl, size⟩

theorem add_exists {a b : Flows} (small : a.weight + b.weight ≤ 10 ^ 28 - 1) :
    ∃ c, a.add b = .ok c ∧ c.weight ≤ a.weight + b.weight + 4 := by
  have sums : ∀ source, ∃ sum, (a.of source).add (b.of source) = .ok sum ∧
      |sum.toRat| ≤ |(a.of source).toRat| + |(b.of source).toRat| + 1 := fun source =>
    Decimal.add_exists (by linarith [a.abs_of_le source, b.abs_of_le source])
  obtain ⟨equity, equityAdded, equitySize⟩ := sums .equity
  obtain ⟨options, optionsAdded, optionsSize⟩ := sums .options
  obtain ⟨dividends, dividendsAdded, dividendsSize⟩ := sums .dividends
  obtain ⟨other, otherAdded, otherSize⟩ := sums .other
  simp only [of] at *
  refine ⟨⟨equity, options, dividends, other⟩, ?_, ?_⟩
  · rw [add, equityAdded, ok_bind, optionsAdded, ok_bind, dividendsAdded, ok_bind, otherAdded]
    rfl
  · simp only [weight]
    linarith

theorem total_exists (flows : Flows) (small : flows.weight ≤ 10 ^ 28 - 3) : ∃ sum, flows.total = .ok sum := by
  unfold weight at small
  have other := abs_nonneg flows.other.toRat
  have dividends := abs_nonneg flows.dividends.toRat
  obtain ⟨first, firstAdded, firstSize⟩ := Decimal.add_exists (a := flows.equity) (b := flows.options) (by linarith)
  obtain ⟨second, secondAdded, secondSize⟩ := Decimal.add_exists (a := first) (b := flows.dividends) (by linarith)
  obtain ⟨third, thirdAdded, _⟩ := Decimal.add_exists (a := second) (b := flows.other) (by linarith)
  exact ⟨third, by rw [total, firstAdded, ok_bind, secondAdded, ok_bind, thirdAdded]⟩

end Flows

namespace DailyFlows

/-- The weight of all days, and five for each. -/
def size (days : DailyFlows) : ℚ := days.charged Flows.weight 5

theorem weight_on_le (days : DailyFlows) (date : Date) : (days.on date).weight ≤ days.size := by
  have one : (days.on date).weight ≤ days.total Flows.weight :=
    OrderedMap.le_total _ Flows.weight_nonneg Flows.weight_zero
  have charges : (0 : ℚ) ≤ 5 * days.entries.length := by positivity
  rw [size, OrderedMap.charged]
  linarith

theorem addLine_exists {days : DailyFlows} {line : LedgerLine}
    (small : days.size + (|line.amount.toRat| + 6) ≤ 10 ^ 28 - 1) :
    ∃ next, days.addLine line = .ok next ∧ size next ≤ days.size + (|line.amount.toRat| + 6) := by
  have amount := abs_nonneg line.amount.toRat
  rw [addLine]
  split
  case h_1 => exact ⟨days, rfl, by linarith⟩
  case h_2 date _ =>
    split
    · exact ⟨days, rfl, by linarith⟩
    · have weight := days.weight_on_le date
      obtain ⟨flows, added, grown⟩ := (days.on date).addCash_exists line (by linarith)
      refine ⟨days.insert date flows, by rw [added]; rfl, ?_⟩
      have inserted := OrderedMap.charged_insert_le Flows.weight 5 Flows.weight_zero (by norm_num) grown
      rw [size, size]
      linarith

theorem addEquity_exists {days : DailyFlows} {realized : Date × Decimal}
    (small : days.size + (|realized.2.toRat| + 6) ≤ 10 ^ 28 - 1) :
    ∃ next, days.addEquity realized = .ok next ∧ size next ≤ days.size + (|realized.2.toRat| + 6) := by
  have weight := days.weight_on_le realized.1
  obtain ⟨sum, added, grown⟩ := (days.on realized.1).addTo_exists .equity (by linarith)
  refine ⟨days.insert realized.1 ((days.on realized.1).set .equity sum), by rw [addEquity_eq, added]; rfl, ?_⟩
  have inserted := OrderedMap.charged_insert_le Flows.weight 5 Flows.weight_zero (by norm_num) grown
  rw [size, size]
  linarith

end DailyFlows

/-- The sizes of the profits of all days, and six for each. -/
def realizedSize (sums : OrderedMap Date Decimal) : ℚ := sums.charged (fun pnl => |pnl.toRat|) 6

theorem addRealized_exists {sums : OrderedMap Date Decimal} {realized : Realized}
    (small : realizedSize sums + (|realized.pnl.toRat| + 7) ≤ 10 ^ 28 - 1) :
    ∃ next, addRealized sums realized = .ok next ∧
      realizedSize next ≤ realizedSize sums + (|realized.pnl.toRat| + 7) := by
  have nothing : |Decimal.zero.toRat| = 0 := by rw [toRat_zero, abs_zero]
  have one : |(sums.getD realized.date .zero).toRat| ≤ sums.total fun pnl => |pnl.toRat| :=
    OrderedMap.le_total (fun pnl : Decimal => |pnl.toRat|) (fun _ => abs_nonneg _) nothing
  have charges : (0 : ℚ) ≤ 6 * sums.entries.length := by positivity
  obtain ⟨sum, added, grown⟩ := Decimal.add_exists (a := sums.getD realized.date .zero) (b := realized.pnl) (by
    rw [realizedSize, OrderedMap.charged] at small
    linarith)
  refine ⟨sums.insert realized.date sum, by rw [addRealized, added]; rfl, ?_⟩
  have inserted := OrderedMap.charged_insert_le (fun pnl : Decimal => |pnl.toRat|) 6 nothing (by norm_num)
    (grown.trans_eq (add_assoc ..))
  rw [realizedSize, realizedSize]
  linarith

/-- Days within the budget have a curve. -/
theorem Curve.accumulate_exists (running : Flows) (days : List (Date × Flows))
    (small : running.weight + (days.map fun day => day.2.weight + 5).sum ≤ 10 ^ 28 - 3) :
    ∃ curve, accumulate running days = .ok curve := by
  induction days generalizing running with
  | nil => exact ⟨[], rfl⟩
  | cons day days ih =>
    obtain ⟨date, flows⟩ := day
    rw [List.map_cons, List.sum_cons] at small
    have later : 0 ≤ (days.map fun day => day.2.weight + 5).sum := List.sum_nonneg fun x member => by
      obtain ⟨day, _, rfl⟩ := List.mem_map.mp member
      linarith [day.2.weight_nonneg]
    obtain ⟨next, added, grown⟩ := Flows.add_exists (a := running) (b := flows) (by linarith)
    obtain ⟨total, summed⟩ := next.total_exists (by linarith)
    obtain ⟨rest, accumulated⟩ := ih next (by linarith)
    exact ⟨_, by simp only [accumulate, added, point, summed, accumulated, ok_bind, pure_bind]; rfl⟩

end TradeLedger
