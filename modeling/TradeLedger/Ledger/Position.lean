import TradeLedger.Ledger.Line

/-! Positions, those that are open today and those that groups of trades have opened and
closed again, and what the trader noted about them. -/
namespace TradeLedger

/-- One open position, with the profit that closing it today would bring. -/
structure Position where
  account : String
  symbol : String
  /-- The option contract, or the share itself. -/
  contract : String
  instrument : Instrument
  quantity : Decimal
  unrealized : Decimal
  marketValue : Decimal
  deriving DecidableEq, Repr

/-- A closed position with its profit net of fees. -/
structure TradeGroup where
  account : String
  symbol : String
  /-- The option contract, or the share itself. -/
  contract : String
  strategy : String
  kind : String
  opened : Option Date
  closed : Option Date
  pnl : Decimal
  daysHeld : Int
  trades : Int
  deriving DecidableEq, Repr

/-- Whether a trade made money. -/
def TradeGroup.isWinner (group : TradeGroup) : Bool := Decimal.zero < group.pnl

/-- Whether a trade lost money. -/
def TradeGroup.isLoser (group : TradeGroup) : Bool := group.pnl < Decimal.zero

/-- What the trader noted about a trade, which is named by account, symbol, strategy and
the day on which it was opened. -/
structure JournalEntry where
  account : String
  symbol : String
  strategy : String
  opened : Option Date
  mood : Option String
  tags : List String
  reflection : Option String
  deriving DecidableEq, Repr

end TradeLedger
