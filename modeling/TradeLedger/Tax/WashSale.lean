import TradeLedger.Calendar.Date
import TradeLedger.Decimal.Arithmetic
import TradeLedger.Ledger.Position
import TradeLedger.Ordered
import TradeLedger.Tax.Rules

/-! Wash sales: losses on a symbol that was bought again in the same account within the
window around the day of the loss. Each loss is flagged once at most, with the first
repurchase in the list. -/
namespace TradeLedger.Tax

/-- A loss and the repurchase that makes it a wash sale. -/
structure WashSale where
  account : String
  symbol : String
  lossClosed : Date
  lossPnl : Decimal
  lossStrategy : String
  repurchased : Date
  repurchaseStrategy : String
  /-- The days from the loss to the repurchase. -/
  daysBetween : Int
  deriving DecidableEq, Repr

namespace WashSale

/-- The flag for a loss closed on a day, if `other` was opened within `window` days. -/
def pair? (window : Int) (loss : TradeGroup) (closed : Date) (other : TradeGroup) :
    Option WashSale := do
  let opened ← other.opened
  let days := opened.daysSince closed
  if other.account = loss.account ∧ other.symbol = loss.symbol ∧ (days.natAbs : Int) ≤ window then
    some {
      account := loss.account
      symbol := loss.symbol
      lossClosed := closed
      lossPnl := loss.pnl
      lossStrategy := loss.strategy
      repurchased := opened
      repurchaseStrategy := other.strategy
      daysBetween := days }
  else
    none

/-- The flag for the position at an index of the list, if it is a loss with a known day
and some other position of the list is a repurchase. -/
def flag? (window : Int) (groups : List TradeGroup) (loss : TradeGroup) (index : Nat) :
    Option WashSale := do
  let closed ← loss.closed
  if loss.isLoser then
    groups.zipIdx.findSome? fun (other, otherIndex) =>
      if otherIndex = index then none else pair? window loss closed other
  else
    none

/-- The flags of a list of closed positions, in its order. -/
def detect (window : Int) (groups : List TradeGroup) : List WashSale :=
  groups.zipIdx.filterMap fun (loss, index) => flag? window groups loss index

/-- The flags of losses closed in a year. -/
def inYear (year : Int) (flags : List WashSale) : List WashSale :=
  flags.filter fun flag => flag.lossClosed.year == year

end WashSale

/-- The wash sales of a year in brief. -/
structure WashSaleSummary where
  year : Int
  count : Nat
  /-- The flagged losses as a positive amount. -/
  total : Decimal
  symbols : List String
  deriving DecidableEq, Repr

/-- The summary of a year's flags. -/
def WashSaleSummary.ofYear (year : Int) (flags : List WashSale) :
    Except Fault WashSaleSummary := do
  let flags := WashSale.inYear year flags
  let total ← Decimal.total (flags.map (·.lossPnl.abs))
  return ⟨year, flags.length, total, ascendingDistinct (flags.map (·.symbol))⟩

end TradeLedger.Tax
