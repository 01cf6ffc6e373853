import TradeLedger.Proofs.Fault
import TradeLedger.Series.Reconstruction

/-! The sources of a day's flows as an index. Every step that fills the flows of a day changes the
sum of one source, which `set` writes and `of` reads. -/
namespace TradeLedger

/-- The sources that a curve keeps apart. -/
inductive Source where
  | equity
  | options
  | dividends
  | other
  deriving DecidableEq

/-- The source that the lines of an instrument belong to. -/
def Instrument.source : Instrument → Source
  | .equity => .equity
  | .call | .put => .options
  | .dividend => .dividends
  | .other => .other

theorem Instrument.source_eq_equity {instrument : Instrument} :
    instrument.source = .equity ↔ instrument = .equity := by
  cases instrument <;> simp [source]

theorem Instrument.source_eq_options {instrument : Instrument} :
    instrument.source = .options ↔ instrument.isOption = true := by
  cases instrument <;> simp [source, isOption]

theorem Instrument.source_eq_dividends {instrument : Instrument} :
    instrument.source = .dividends ↔ instrument = .dividend := by
  cases instrument <;> simp [source]

namespace Flows

/-- What the flows hold of a source. -/
def of (flows : Flows) : Source → Decimal
  | .equity => flows.equity
  | .options => flows.options
  | .dividends => flows.dividends
  | .other => flows.other

/-- The flows with the sum of a source replaced. -/
def set (flows : Flows) (source : Source) (sum : Decimal) : Flows :=
  match source with
  | .equity => { flows with equity := sum }
  | .options => { flows with options := sum }
  | .dividends => { flows with dividends := sum }
  | .other => { flows with other := sum }

@[simp] theorem of_zero (source : Source) : zero.of source = .zero := by
  cases source <;> rfl

theorem of_set (flows : Flows) (source probe : Source) (sum : Decimal) :
    (flows.set source sum).of probe = if probe = source then sum else flows.of probe := by
  cases source <;> cases probe <;> rfl

/-- Cash goes to the source of its line. -/
theorem addCash_eq {line : LedgerLine} (about : line.instrument ≠ .equity) (flows : Flows) :
    flows.addCash line = (do
      let sum ← (flows.of line.instrument.source).add line.amount
      return flows.set line.instrument.source sum) := by
  rw [addCash]
  cases instrument : line.instrument with
  | equity => exact absurd instrument about
  | call => rfl
  | put => rfl
  | dividend => rfl
  | other => rfl

theorem addCash_equity {line : LedgerLine} (about : line.instrument = .equity) (flows : Flows) :
    flows.addCash line = .ok flows := by
  rw [addCash, about]
  rfl

end Flows

/-- Profit goes to the shares of its day. -/
theorem DailyFlows.addEquity_eq (days : DailyFlows) (realized : Date × Decimal) :
    days.addEquity realized = (do
      let sum ← ((days.on realized.1).of .equity).add realized.2
      return days.insert realized.1 ((days.on realized.1).set .equity sum)) := rfl

end TradeLedger
