import TradeLedger.Inventory.Book
import TradeLedger.Series.Curve

/-! The profit curve of a part of a ledger. The flows of its days are added up in the
order of the days without rounding; each point is rounded to cents when it is drawn. The
profit of open positions is laid over the end. -/
namespace TradeLedger

/-! ## What each day brings in, by source

Equity lines bring what they realize and the others their cash; every day with a line has its
flows, save days with none but equity lines without a quantity. -/

/-- The profit of a day, or up to a day, by source. -/
structure Flows where
  equity : Decimal
  options : Decimal
  dividends : Decimal
  other : Decimal
  deriving DecidableEq, Repr

namespace Flows

/-- Nothing from any source. -/
def zero : Flows := ⟨.zero, .zero, .zero, .zero⟩

/-- The flows of two days together. -/
def add (a b : Flows) : Except Fault Flows := do
  let equity ← a.equity.add b.equity
  let options ← a.options.add b.options
  let dividends ← a.dividends.add b.dividends
  let other ← a.other.add b.other
  return ⟨equity, options, dividends, other⟩

/-- The sum over all sources. -/
def total (flows : Flows) : Except Fault Decimal := do
  (← (← flows.equity.add flows.options).add flows.dividends).add flows.other

/-- The cash of a line that is not about shares, added to its source. -/
def addCash (flows : Flows) (line : LedgerLine) : Except Fault Flows := do
  match line.instrument with
  | .equity => return flows
  | .call | .put => return { flows with options := ← flows.options.add line.amount }
  | .dividend => return { flows with dividends := ← flows.dividends.add line.amount }
  | .other => return { flows with other := ← flows.other.add line.amount }

end Flows

/-- The flows of the days that have some. -/
abbrev DailyFlows := OrderedMap Date Flows

namespace DailyFlows

/-- The flows of a day; zero for a day without any. -/
def on (days : DailyFlows) (date : Date) : Flows := days.getD date .zero

/-- The flows with the cash of one more line. An equity line with a quantity only makes
sure that its day has flows. -/
def addLine (days : DailyFlows) (line : LedgerLine) : Except Fault DailyFlows := do
  match line.date with
  | none => return days
  | some date =>
    if line.instrument = .equity ∧ line.quantity.isZero then return days
    else return days.insert date (← (days.on date).addCash line)

/-- The flows with the profit that equity realizes on one day. -/
def addEquity (days : DailyFlows) (realized : Date × Decimal) : Except Fault DailyFlows := do
  let (date, pnl) := realized
  let flows := days.on date
  return days.insert date { flows with equity := ← flows.equity.add pnl }

/-- The flows of the lines of a ledger. -/
def ofLines (policy : ShortSales) (lines : List LedgerLine) : Except Fault DailyFlows := do
  let days ← lines.foldlM addLine ∅
  let realized ← realizedByDate policy lines
  realized.entries.foldlM addEquity days

end DailyFlows

/-! ## Curves of a scope -/

namespace Curve

/-- The point of a day on which so much has come in. -/
def point (date : Date) (running : Flows) : Except Fault CurvePoint := do
  let total ← running.total
  return {
    date
    equity := running.equity.roundCents
    options := running.options.roundCents
    dividends := running.dividends.roundCents
    total := total.roundCents }

/-- The points of the days, starting from what came in before them. -/
def accumulate : Flows → List (Date × Flows) → Except Fault Curve
  | _, [] => .ok []
  | running, (date, flows) :: days => do
    let running ← running.add flows
    let first ← point date running
    let rest ← accumulate running days
    return first :: rest

/-- The lines of a ledger that are in a scope. -/
def linesIn (scope : Scope) (lines : List LedgerLine) : List LedgerLine :=
  lines.filter fun line => scope.contains line.account line.symbol

/-- The positions that are in a scope. -/
def positionsIn (scope : Scope) (positions : List Position) : List Position :=
  positions.filter fun position => scope.contains position.account position.symbol

/-- The curve of the profit realized in a scope. -/
def realized (policy : ShortSales) (lines : List LedgerLine) (scope : Scope) :
    Except Fault Curve := do
  accumulate .zero (← DailyFlows.ofLines policy (linesIn scope lines)).entries

/-- The curve of a scope as of a day, with the profit of its open positions. -/
def reconstruct (policy : ShortSales) (lines : List LedgerLine) (positions : List Position)
    (scope : Scope) (today : Date) : Except Fault Curve := do
  let curve ← realized policy lines scope
  let unrealized ← Unrealized.ofPositions (positionsIn scope positions)
  curve.overlay unrealized today

/-- The upper-case symbols on the lines of an account, ascending. -/
def symbolsOf (account : String) (lines : List LedgerLine) : List String :=
  ascendingDistinct ((lines.filter (·.account == account)).map fun line =>
    Text.upper line.symbol)

/-- The curves of the symbols of an account that have points, by symbol. -/
def reconstructBySymbol (policy : ShortSales) (lines : List LedgerLine)
    (positions : List Position) (account : String) (today : Date) :
    Except Fault (List (String × Curve)) := do
  let curves ← (symbolsOf account lines).mapM fun symbol => do
    let curve ← reconstruct policy lines positions (.symbol account symbol) today
    pure (symbol, curve)
  return curves.filter fun (_, curve) => !curve.isEmpty

end Curve

end TradeLedger
