import TradeLedger.Decimal.Arithmetic
import TradeLedger.Ledger.Position

/-! Profit curves: the profit that a part of a ledger has made up to and including each day on
which it changed, by source. Profit that open positions would bring today is laid over the end
of a curve: the last point rises by it, or a point for today is added after a last point of an
earlier day. -/
namespace TradeLedger

/-- All lines, those of one account, or those of one symbol in one account. -/
inductive Scope where
  | all
  | account (account : String)
  | symbol (account symbol : String)
  deriving DecidableEq, Repr

/-- Whether lines with this account and symbol are in the scope. Symbols agree up to the
case of the letters A to Z. -/
def Scope.contains (scope : Scope) (account symbol : String) : Bool :=
  match scope with
  | .all => true
  | .account name => name == account
  | .symbol name ticker => name == account && Text.sameIgnoringAsciiCase ticker symbol

/-- The profit up to the end of one day. The total also holds cash of other sources. -/
structure CurvePoint where
  date : Date
  equity : Decimal
  options : Decimal
  dividends : Decimal
  total : Decimal
  deriving DecidableEq, Repr

/-- The points of a curve in the order of their dates. -/
abbrev Curve := List CurvePoint

/-- The total at the end of a curve; zero for one without points. -/
def Curve.total (curve : Curve) : Decimal :=
  (curve.getLast?.map CurvePoint.total).getD .zero

/-! ## Profit of open positions -/

/-- The unrealized profit of shares and of option contracts. -/
structure Unrealized where
  equity : Decimal
  options : Decimal
  deriving DecidableEq, Repr

namespace Unrealized

/-- The profit of one more position; only shares and options count. -/
def add (unrealized : Unrealized) (position : Position) : Except Fault Unrealized := do
  if position.instrument = .equity then
    return { unrealized with equity := ← unrealized.equity.add position.unrealized }
  else if position.instrument.isOption then
    return { unrealized with options := ← unrealized.options.add position.unrealized }
  else
    return unrealized

/-- The unrealized profit of all positions. -/
def ofPositions (positions : List Position) : Except Fault Unrealized :=
  positions.foldlM add ⟨.zero, .zero⟩

/-- The profit of shares and options together. -/
def total (unrealized : Unrealized) : Except Fault Decimal :=
  unrealized.equity.add unrealized.options

end Unrealized

/-- The point raised by unrealized profit, in cents; its dividends stay. -/
def CurvePoint.raise (point : CurvePoint) (unrealized : Unrealized) :
    Except Fault CurvePoint := do
  let equity ← point.equity.add unrealized.equity
  let options ← point.options.add unrealized.options
  let total ← point.total.add (← unrealized.total)
  return { point with
    equity := equity.roundCents
    options := options.roundCents
    total := total.roundCents }

/-- The curve with unrealized profit laid over its end. Profit that sums to zero leaves it
as it is, and so does a curve without points. -/
def Curve.overlay (curve : Curve) (unrealized : Unrealized) (today : Date) :
    Except Fault Curve := do
  if (← unrealized.total).isZero then
    return curve
  else
    match curve.getLast? with
    | none => return curve
    | some last =>
      let raised ← last.raise unrealized
      if last.date < today then
        return curve ++ [{ raised with date := today }]
      else
        return curve.dropLast ++ [raised]

end TradeLedger
