import TradeLedger.Decimal.Arithmetic
import TradeLedger.Ledger.Position
import TradeLedger.Tax.Rules

/-! Gains and losses of a year by holding period, the tax estimated on them and the net
loss that may be deducted. -/
namespace TradeLedger.Tax

/-- Short or long holding. -/
inductive Term where
  | short
  | long
  deriving DecidableEq, Repr

namespace Term

/-- The term of a holding of so many days; one of exactly the threshold is short. -/
def ofDays (rules : Rules) (days : Int) : Term :=
  if rules.longTermDays < days then .long else .short

/-- The term of a closed position. -/
def ofGroup (rules : Rules) (group : TradeGroup) : Term := ofDays rules group.daysHeld

/-- The name of a term. -/
def name : Term → String
  | .short => "Short-Term"
  | .long => "Long-Term"

end Term

/-- The sums of gains and of losses by term; sums of losses are negative. -/
structure Gains where
  shortGains : Decimal
  shortLosses : Decimal
  longGains : Decimal
  longLosses : Decimal
  deriving DecidableEq, Repr

namespace Gains

/-- Neither gains nor losses. -/
def zero : Gains := ⟨.zero, .zero, .zero, .zero⟩

/-- The sums with one more profit or loss; one of zero counts for neither. -/
def add (gains : Gains) (term : Term) (pnl : Decimal) : Except Fault Gains := do
  if Decimal.zero < pnl then
    match term with
    | .short => return { gains with shortGains := ← gains.shortGains.add pnl }
    | .long => return { gains with longGains := ← gains.longGains.add pnl }
  else if pnl < Decimal.zero then
    match term with
    | .short => return { gains with shortLosses := ← gains.shortLosses.add pnl }
    | .long => return { gains with longLosses := ← gains.longLosses.add pnl }
  else
    return gains

/-- The sums over closed positions. -/
def ofGroups (rules : Rules) (groups : List TradeGroup) : Except Fault Gains :=
  groups.foldlM (fun gains group => gains.add (Term.ofGroup rules group) group.pnl) zero

/-- Short-term gains less losses. -/
def netShort (gains : Gains) : Except Fault Decimal := gains.shortGains.add gains.shortLosses

/-- Long-term gains less losses. -/
def netLong (gains : Gains) : Except Fault Decimal := gains.longGains.add gains.longLosses

/-- All gains less all losses. -/
def net (gains : Gains) : Except Fault Decimal := do
  let short ← gains.netShort
  short.add (← gains.netLong)

/-- The net loss that may be deducted, up to the limit; zero for a net gain. -/
def deduction (rules : Rules) (gains : Gains) : Except Fault Decimal := do
  let net ← gains.net
  return if net < Decimal.zero then net.abs.min rules.lossLimit else .zero

end Gains

/-- The tax estimated for a year. -/
structure Estimate where
  shortTerm : Decimal
  longTerm : Decimal
  dividends : Decimal
  total : Decimal
  deriving DecidableEq, Repr

/-- The tax on the net gain of each term and on dividends, which are taxed like short-term
gains; a net loss is not taxed. -/
def Estimate.ofGains (rules : Rules) (gains : Gains) (dividends : Decimal) :
    Except Fault Estimate := do
  let shortRate ← rules.bracket.shortTermFraction
  let longRate ← rules.bracket.longTermFraction
  let shortTerm ← ((← gains.netShort).max .zero).mul shortRate
  let longTerm ← ((← gains.netLong).max .zero).mul longRate
  let dividendTax ← (dividends.max .zero).mul shortRate
  let total ← (← shortTerm.add longTerm).add dividendTax
  return ⟨shortTerm, longTerm, dividendTax, total⟩

end TradeLedger.Tax
