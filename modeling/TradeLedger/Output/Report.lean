import TradeLedger.Output.Json
import TradeLedger.Review.Weekly
import TradeLedger.Series.Curve
import TradeLedger.Tax.Report

/-! The tax report and the weekly review as JSON, and the records that reports are made of. -/
namespace TradeLedger

/-- An amount, written with its places. -/
def Decimal.toJson (amount : Decimal) : Json := .text amount.toText

/-- A date in its written form. -/
def Date.toJson (date : Date) : Json := .text date.toText

/-- The fields of a group of trades. -/
def TradeGroup.fields (group : TradeGroup) : List (String × Json) :=
  [("account", .text group.account),
    ("symbol", .text group.symbol),
    ("trade_symbol", .text group.contract),
    ("strategy", .text group.strategy),
    ("trade_group_type", .text group.kind),
    ("open_date", .ofOption Date.toJson group.opened),
    ("close_date", .ofOption Date.toJson group.closed),
    ("total_pnl", group.pnl.toJson),
    ("days_in_trade", .integer group.daysHeld),
    ("num_trades", .integer group.trades)]

/-- A scope by its kind and names. -/
def Scope.toJson (scope : Scope) : Json :=
  match scope with
  | .all => .object [("kind", .text "all")]
  | .account name => .object [("account", .text name), ("kind", .text "account")]
  | .symbol name ticker =>
    .object [("account", .text name), ("kind", .text "symbol"), ("symbol", .text ticker)]

/-- A curve as the columns of a chart. -/
def Curve.chart (curve : Curve) : Json :=
  .object [
    ("dates", .ofList (fun point : CurvePoint => point.date.toJson) curve),
    ("dividends", .ofList (fun point : CurvePoint => point.dividends.toJson) curve),
    ("equity", .ofList (fun point : CurvePoint => point.equity.toJson) curve),
    ("options", .ofList (fun point : CurvePoint => point.options.toJson) curve),
    ("total", .ofList (fun point : CurvePoint => point.total.toJson) curve)]

end TradeLedger

namespace TradeLedger.Tax

/-! ## The tax report -/

/-- A tax rate in percent. -/
def percentJson (rate : UInt32) : Json := .ofNat rate.toNat

/-- A bracket by its two rates. -/
def Bracket.toJson (bracket : Bracket) : Json :=
  .object [("rate", percentJson bracket.rate), ("lt_rate", percentJson bracket.longTermRate)]

/-- The sums of a year. -/
def Summary.toJson (summary : Summary) : Json :=
  .object [
    ("st_gains", summary.gains.shortGains.toJson),
    ("st_losses", summary.gains.shortLosses.toJson),
    ("net_st", summary.netShort.toJson),
    ("lt_gains", summary.gains.longGains.toJson),
    ("lt_losses", summary.gains.longLosses.toJson),
    ("net_lt", summary.netLong.toJson),
    ("net_total", summary.net.toJson),
    ("total_dividends", summary.dividends.toJson),
    ("wash_sale_total", summary.washSales.toJson),
    ("num_closed_trades", .ofNat summary.closedTrades),
    ("est_st_tax", summary.estimate.shortTerm.toJson),
    ("est_lt_tax", summary.estimate.longTerm.toJson),
    ("est_div_tax", summary.estimate.dividends.toJson),
    ("est_total_tax", summary.estimate.total.toJson),
    ("net_loss_deduction", summary.deduction.toJson),
    ("st_rate", percentJson summary.bracket.rate),
    ("lt_rate", percentJson summary.bracket.longTermRate)]

/-- A closed position with its term. -/
def GainsRow.toJson (row : GainsRow) : Json :=
  .object (row.group.fields ++ [("gain_type", .text row.term.name)])

/-- A flagged loss and its repurchase. -/
def WashSale.toJson (flag : WashSale) : Json :=
  .object [
    ("account", .text flag.account),
    ("symbol", .text flag.symbol),
    ("loss_close_date", flag.lossClosed.toJson),
    ("loss_pnl", flag.lossPnl.toJson),
    ("loss_strategy", .text flag.lossStrategy),
    ("repurchase_open_date", flag.repurchased.toJson),
    ("repurchase_strategy", .text flag.repurchaseStrategy),
    ("days_between", .integer flag.daysBetween)]

/-- The dividends of one holding. -/
def DividendRow.toJson (row : DividendRow) : Json :=
  .object [
    ("account", .text row.account),
    ("symbol", .text row.symbol),
    ("total", row.total.toJson),
    ("count", .ofNat row.count),
    ("last_date", .ofOption Date.toJson row.lastDate)]

/-- The report of one year. -/
def Report.toJson (report : Report) : Json :=
  .object [
    ("tax_year", .integer report.year),
    ("bracket", report.bracket.toJson),
    ("summary", report.summary.toJson),
    ("gains_rows", .ofList GainsRow.toJson report.gainsRows),
    ("wash_sales", .ofList WashSale.toJson report.washSales),
    ("dividend_rows", .ofList DividendRow.toJson report.dividendRows),
    ("years", .ofList Json.integer report.years)]

end TradeLedger.Tax

namespace TradeLedger.Review

/-! ## The weekly review -/

/-- A trade called out in the review. -/
def highlight (group : TradeGroup) : Json :=
  .object [
    ("account", .text group.account),
    ("symbol", .text group.symbol),
    ("strategy", .text group.strategy),
    ("trade_symbol", .text group.contract),
    ("close_date", .ofOption Date.toJson group.closed),
    ("total_pnl", group.pnl.toJson)]

/-- The record of one strategy. -/
def StrategyRecord.toJson (record : StrategyRecord) : Json :=
  .object [
    ("strategy", .text record.strategy),
    ("trades", .ofNat record.tally.trades),
    ("winning_trades", .ofNat record.tally.winners),
    ("win_rate", record.winRate.toJson),
    ("total_pnl", record.tally.pnl.toJson)]

/-- The openings of the two weeks and their difference. -/
def OpeningDrift.toJson (drift : OpeningDrift) : Json :=
  .object [
    ("this_week_opens", .ofNat drift.thisWeek),
    ("prev_week_opens", .ofNat drift.previousWeek),
    ("diff", .integer drift.difference)]

/-- How often each mood was noted. -/
def Moods.toJson (moods : Moods) : Json :=
  .object (moods.counts.entries.map fun (mood, count) => (mood, .ofNat count))

/-- The moods of the two weeks. -/
def MoodDrift.toJson (drift : MoodDrift) : Json :=
  .object [
    ("this_week", drift.thisWeek.toJson),
    ("prev_week", drift.previousWeek.toJson),
    ("entries_this_week", .ofNat drift.thisWeek.entries),
    ("entries_prev_week", .ofNat drift.previousWeek.entries)]

/-- An impulsive loss. -/
def Impulse.toJson (impulse : Impulse) : Json :=
  .object [
    ("symbol", .text impulse.symbol),
    ("strategy", .text impulse.strategy),
    ("tags", .ofList Json.text impulse.tags),
    ("total_pnl", impulse.pnl.toJson),
    ("reflection", .text impulse.reflection)]

/-- The review of one week. -/
def Weekly.toJson (review : Weekly) : Json :=
  .object [
    ("week_start", review.first.toJson),
    ("week_end", review.last.toJson),
    ("total_pnl", review.pnl.toJson),
    ("num_trades", .ofNat review.trades),
    ("num_winners", .ofNat review.winners),
    ("best_trade", .ofOption highlight review.best),
    ("worst_trade", .ofOption highlight review.worst),
    ("largest_mistake", .ofOption highlight review.largestMistake),
    ("most_consistent_strategy", .ofOption StrategyRecord.toJson review.mostConsistent),
    ("risk_drift", review.openings.toJson),
    ("emotional_drift", review.moods.toJson),
    ("behavioral_anomalies", .ofList Impulse.toJson review.impulses)]

end TradeLedger.Review
