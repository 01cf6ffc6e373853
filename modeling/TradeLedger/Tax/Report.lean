import TradeLedger.Tax.Dividend
import TradeLedger.Tax.Gains
import TradeLedger.Tax.WashSale

/-! The tax report of one year: the sums of gains and losses with the estimated tax, the
positions closed in the year, its wash sales, its dividends by holding, and the years for
which there is anything to report. -/
namespace TradeLedger.Tax

/-- A closed position with its term. -/
structure GainsRow where
  group : TradeGroup
  term : Term
  deriving DecidableEq, Repr

/-- The sums of a year. -/
structure Summary where
  gains : Gains
  netShort : Decimal
  netLong : Decimal
  net : Decimal
  dividends : Decimal
  washSales : Decimal
  closedTrades : Nat
  estimate : Estimate
  deduction : Decimal
  bracket : Bracket
  deriving DecidableEq, Repr

/-- The report of one year. -/
structure Report where
  year : Int
  bracket : Bracket
  summary : Summary
  gainsRows : List GainsRow
  washSales : List WashSale
  dividendRows : List DividendRow
  years : List Int
  deriving DecidableEq, Repr

/-- The positions closed in a year, the latest first; those of one day keep their order. -/
def closedInYear (year : Int) (groups : List TradeGroup) : List TradeGroup :=
  let closed := groups.filterMap fun group =>
    (group.closed.filter fun date => date.year == year).map fun date => (date, group)
  (Ordered.sortBy (fun a b => b.1 ≤ a.1) closed).map (·.2)

/-- The years in which a position was closed or a dividend paid, the latest first. -/
def availableYears (groups : List TradeGroup) (dividends : List LedgerLine) : List Int :=
  let dates := groups.filterMap (·.closed) ++ dividends.filterMap (·.date)
  (ascendingDistinct (dates.map Date.year)).reverse

/-- The sums over a year's closed positions and dividends. -/
def Summary.ofYear (rules : Rules) (closed : List TradeGroup) (dividends : List LedgerLine)
    (washSales : Decimal) : Except Fault Summary := do
  let gains ← Gains.ofGroups rules closed
  let dividends ← Decimal.total (dividends.map (·.amount))
  let estimate ← Estimate.ofGains rules gains dividends
  let netShort ← gains.netShort
  let netLong ← gains.netLong
  let net ← gains.net
  let deduction ← gains.deduction rules
  return {
    gains, netShort, netLong, net, dividends, washSales
    closedTrades := closed.length
    estimate, deduction
    bracket := rules.bracket }

/-- The report of a year. The groups should be those of all years, because a repurchase
may lie in another year than the loss. -/
def Report.build (groups : List TradeGroup) (lines : List LedgerLine) (year : Int)
    (rules : Rules) : Except Fault Report := do
  let flags := WashSale.detect rules.washSaleDays groups
  let washSales ← WashSaleSummary.ofYear year flags
  let closed := closedInYear year groups
  let dividends := dividendLines lines
  let yearDividends := linesOfYear year dividends
  let summary ← Summary.ofYear rules closed yearDividends washSales.total
  let dividendRows ← DividendRow.ofLines yearDividends
  return {
    year
    bracket := rules.bracket
    summary
    gainsRows := closed.map fun group => ⟨group, Term.ofGroup rules group⟩
    washSales := WashSale.inYear year flags
    dividendRows
    years := availableYears groups dividends }

end TradeLedger.Tax
