import TradeLedger.Proofs.Decimal.Totals
import TradeLedger.Proofs.Inventory.Run
import TradeLedger.Proofs.Series.Source

/-! The flows of the days as exact sums. Where no addition rounds, what the days up to some day hold
of a source grows by exactly what each line brings in by then, and the days that have flows are
those that a line opens. Profits of the run join days that are open already. -/
namespace TradeLedger

open Decimal

/-- What a figure of a day counts for up to another day. -/
def countedBy (day date : Date) (x : ℚ) : ℚ := if date ≤ day then x else 0

theorem countedBy_add (day date : Date) (x y : ℚ) :
    countedBy day date (x + y) = countedBy day date x + countedBy day date y := by
  by_cases past : date ≤ day <;> simp [countedBy, past]

namespace OrderedMap

variable {α : Type}

/-- A figure summed over the days up to one. -/
def upTo (f : α → ℚ) (day : Date) (map : OrderedMap Date α) : ℚ :=
  map.weigh fun date value => countedBy day date (f value)

/-- A day whose figure grows by so much adds so much to the sums from that day on. -/
theorem upTo_insert (f : α → ℚ) (day : Date) {map : OrderedMap Date α} {date : Date} {value fallback : α} {x : ℚ}
    (nothing : f fallback = 0) (grows : f value = f (map.getD date fallback) + x) :
    (map.insert date value).upTo f day = map.upTo f day + countedBy day date x := by
  have empty : countedBy day date (f fallback) = 0 := by rw [nothing, countedBy, ite_self]
  rw [upTo, weigh_insert (fun date value => countedBy day date (f value)) empty, grows, countedBy_add, upTo]
  ring

end OrderedMap

namespace LedgerLine

/-- The cash that a line brings to a source; shares bring none, only the profit of their sale. -/
def cashFor (line : LedgerLine) (source : Source) : ℚ :=
  if line.instrument ≠ .equity ∧ line.instrument.source = source then line.amount.toRat else 0

/-- The cash that it has brought up to a day; none if its own day is not known. -/
def cashBy (line : LedgerLine) (source : Source) (day : Date) : ℚ :=
  line.date.elim 0 fun date => countedBy day date (line.cashFor source)

/-- The line makes sure that its day has flows. -/
def Opens (line : LedgerLine) (date : Date) : Prop :=
  line.date = some date ∧ ¬(line.instrument = .equity ∧ line.quantity.toRat = 0)

end LedgerLine

namespace Flows

/-- Adding the cash of the line to its source is exact. -/
def CashExact (flows : Flows) (line : LedgerLine) : Prop :=
  line.instrument ≠ .equity → (flows.of line.instrument.source).AddsExactly line.amount

instance (flows : Flows) (line : LedgerLine) : Decidable (flows.CashExact line) :=
  inferInstanceAs (Decidable (_ → _))

theorem addCash_exact {flows : Flows} {line : LedgerLine} (unrounded : flows.CashExact line) :
    ∃ next, flows.addCash line = .ok next ∧
      ∀ source, (next.of source).toRat = (flows.of source).toRat + line.cashFor source := by
  by_cases about : line.instrument = .equity
  · refine ⟨flows, addCash_equity about flows, ?_⟩
    intro source
    rw [LedgerLine.cashFor, if_neg (fun both => both.1 about), add_zero]
  · obtain ⟨sum, added, same⟩ := unrounded about
    refine ⟨flows.set line.instrument.source sum, by rw [addCash_eq about, added]; rfl, ?_⟩
    intro source
    rw [of_set, LedgerLine.cashFor]
    by_cases own : source = line.instrument.source
    · rw [if_pos own, if_pos ⟨about, own.symm⟩, same, own]
    · rw [if_neg own, if_neg fun both => own both.2.symm, add_zero]

end Flows

namespace DailyFlows

variable {days : DailyFlows} {lines : List LedgerLine}

/-- What the days up to one hold of a source. -/
def upTo (days : DailyFlows) (source : Source) (day : Date) : ℚ :=
  OrderedMap.upTo (fun flows => (flows.of source).toRat) day days

/-- Adding the line to its day is exact. -/
def LineExact (days : DailyFlows) (line : LedgerLine) : Prop :=
  line.date.elim True fun date => (days.on date).CashExact line

instance (days : DailyFlows) (line : LedgerLine) : Decidable (days.LineExact line) :=
  match known : line.date with
  | none => .isTrue (by rw [LineExact, known]; trivial)
  | some date => decidable_of_iff ((days.on date).CashExact line) (by rw [LineExact, known]; rfl)

theorem addLine_exact {line : LedgerLine} (unrounded : days.LineExact line) :
    ∃ next, days.addLine line = .ok next ∧
      (∀ entry : Source × Date, upTo next entry.1 entry.2 = days.upTo entry.1 entry.2 + line.cashBy entry.1 entry.2) ∧
      ∀ date, date ∈ next.keys ↔ date ∈ days.keys ∨ line.Opens date := by
  rw [LineExact] at unrounded
  simp only [addLine, LedgerLine.cashBy, LedgerLine.Opens]
  cases known : line.date with
  | none => exact ⟨days, rfl, by simp, by simp⟩
  | some date =>
    rw [known] at unrounded
    dsimp only
    split
    case isTrue idle =>
      refine ⟨days, rfl, ?_, ?_⟩
      · intro entry
        simp [LedgerLine.cashFor, idle.1, countedBy]
      · intro probe
        simp [idle.1, isZero_iff.mp idle.2]
    case isFalse moves =>
      obtain ⟨flows, added, sums⟩ := Flows.addCash_exact unrounded
      refine ⟨days.insert date flows, by rw [added]; rfl, ?_, ?_⟩
      · intro entry
        exact OrderedMap.upTo_insert _ entry.2 (by rw [Flows.of_zero, toRat_zero]) (sums entry.1)
      · intro probe
        rw [isZero_iff] at moves
        rw [OrderedMap.mem_keys_insert, and_iff_left moves, Option.some.injEq, or_comm, eq_comm]

/-- The lines of a ledger leave what they bring in, on the days that they open. -/
theorem addLines_exact (unrounded : Along addLine LineExact days lines) :
    ∃ final, lines.foldlM addLine days = .ok final ∧
      (∀ source day, upTo final source day =
        days.upTo source day + (lines.map fun line => line.cashBy source day).sum) ∧
      ∀ date, date ∈ final.keys ↔ date ∈ days.keys ∨ ∃ line ∈ lines, line.Opens date := by
  obtain ⟨final, filled, sums, keys⟩ := unrounded.exists_foldlM_adds fun _ _ => addLine_exact
  exact ⟨final, filled, fun source day => sums (source, day), keys⟩

/-- What the profit of a day counts for at a source, up to another day. -/
def profitBy (realized : Date × Decimal) (source : Source) (day : Date) : ℚ :=
  if source = .equity then countedBy day realized.1 realized.2.toRat else 0

/-- Adding the profit of a day to its flows is exact. -/
def EquityExact (days : DailyFlows) (realized : Date × Decimal) : Prop :=
  ((days.on realized.1).of .equity).AddsExactly realized.2

instance (days : DailyFlows) (realized : Date × Decimal) : Decidable (days.EquityExact realized) :=
  inferInstanceAs (Decidable (AddsExactly ..))

theorem addEquity_exact {realized : Date × Decimal} (unrounded : days.EquityExact realized) :
    ∃ next, days.addEquity realized = .ok next ∧
      (∀ entry : Source × Date, upTo next entry.1 entry.2 = days.upTo entry.1 entry.2 + profitBy realized entry.1 entry.2) ∧
      ∀ date, date ∈ next.keys ↔ date ∈ days.keys ∨ date = realized.1 := by
  obtain ⟨sum, added, same⟩ := unrounded
  refine ⟨_, by rw [addEquity_eq, added]; rfl, ?_, ?_⟩
  · rintro ⟨source, day⟩
    have grows : (((days.on realized.1).set .equity sum).of source).toRat = ((days.on realized.1).of source).toRat +
        if source = .equity then realized.2.toRat else 0 := by
      rw [Flows.of_set]
      by_cases own : source = .equity
      · rw [if_pos own, if_pos own, same, own]
      · rw [if_neg own, if_neg own, add_zero]
    have inserted := OrderedMap.upTo_insert (fun flows : Flows => (flows.of source).toRat) day
      (by rw [Flows.of_zero, toRat_zero]) grows
    dsimp only
    rw [upTo, inserted]
    by_cases own : source = .equity <;> simp [upTo, profitBy, own, countedBy]
  · intro date
    rw [OrderedMap.mem_keys_insert]
    exact or_comm

/-- So do the profits of the days. -/
theorem addEquities_exact {realized : List (Date × Decimal)} (unrounded : Along addEquity EquityExact days realized) :
    ∃ final, realized.foldlM addEquity days = .ok final ∧
      (∀ source day, upTo final source day =
        days.upTo source day + (realized.map fun one => profitBy one source day).sum) ∧
      ∀ date, date ∈ final.keys ↔ date ∈ days.keys ∨ ∃ one ∈ realized, date = one.1 := by
  obtain ⟨final, joined, sums, keys⟩ := unrounded.exists_foldlM_adds fun _ _ => addEquity_exact
  exact ⟨final, joined, fun source day => sums (source, day), keys⟩

end DailyFlows

section Realized

variable {sums : OrderedMap Date Decimal} {gained : List Realized}

/-- Adding the profit to the sum of its day is exact. -/
def RealizedExact (sums : OrderedMap Date Decimal) (one : Realized) : Prop :=
  (sums.getD one.date .zero).AddsExactly one.pnl

instance (sums : OrderedMap Date Decimal) (one : Realized) : Decidable (RealizedExact sums one) :=
  inferInstanceAs (Decidable (AddsExactly ..))

/-- What a profit counts for up to a day. -/
def Realized.pnlBy (one : Realized) (day : Date) : ℚ := countedBy day one.date one.pnl.toRat

theorem addRealized_exact {one : Realized} (unrounded : RealizedExact sums one) :
    ∃ next, addRealized sums one = .ok next ∧
      (∀ day, next.upTo toRat day = sums.upTo toRat day + one.pnlBy day) ∧
      ∀ date, date ∈ next.keys ↔ date ∈ sums.keys ∨ date = one.date := by
  obtain ⟨sum, added, same⟩ := unrounded
  refine ⟨sums.insert one.date sum, by rw [addRealized, added]; rfl, ?_, ?_⟩
  · intro day
    exact OrderedMap.upTo_insert toRat day toRat_zero same
  · intro date
    rw [OrderedMap.mem_keys_insert]
    exact or_comm

theorem addAllRealized_exact (unrounded : Along addRealized RealizedExact sums gained) :
    ∃ final, gained.foldlM addRealized sums = .ok final ∧
      (∀ day, final.upTo toRat day = sums.upTo toRat day + (gained.map fun one => one.pnlBy day).sum) ∧
      ∀ date, date ∈ final.keys ↔ date ∈ sums.keys ∨ ∃ one ∈ gained, date = one.date :=
  unrounded.exists_foldlM_adds fun _ _ => addRealized_exact

end Realized

end TradeLedger
