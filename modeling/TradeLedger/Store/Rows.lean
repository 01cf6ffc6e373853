import TradeLedger.Ledger.Line
import TradeLedger.Ledger.Position
import TradeLedger.Store.Table
import TradeLedger.Text.Basic

/-! The rows of the four tables, what each column is given, and the records that rows are
read as. Numbers and dates are coerced when they are read, not when they are stored. -/
namespace TradeLedger.Store

/-- The name of a column, without regard to the case of A to Z. -/
def columnName (raw : String) : String := Text.lowerAscii raw

/-- A stored date. -/
def dateCell (date : Option Date) : TextCell := date.map Date.toText

/-- A stored amount. -/
def amountCell (amount : Decimal) : RealCell := .ofBinary64 amount.toBinary64

/-- The date that a cell writes, if it writes one. -/
def readDate (cell : TextCell) : Option Date := cell.bind Date.ofText?

/-- A row of `trade_events`. -/
structure LineRow where
  account : TextCell
  symbol : TextCell
  contract : TextCell
  instrument : TextCell
  date : TextCell
  action : TextCell
  quantity : RealCell
  amount : RealCell
  deriving DecidableEq, Repr

namespace LineRow

def table : String := "trade_events"

/-- The columns after the number of the row. -/
def columns : List String :=
  ["account", "symbol", "trade_symbol", "instrument_type", "trade_date", "action", "quantity",
    "amount", "created_at"]

/-- The row in which nothing is set. -/
def blank : LineRow := ⟨none, none, none, none, none, none, .null, .null⟩

/-- The row with one column given a value. -/
def set (row : LineRow) (column : String) (value : Value) : Except Error LineRow :=
  match columnName column with
  | "account" => .ok { row with account := .ofValue value }
  | "symbol" => .ok { row with symbol := .ofValue value }
  | "trade_symbol" => .ok { row with contract := .ofValue value }
  | "instrument_type" => .ok { row with instrument := .ofValue value }
  | "trade_date" => .ok { row with date := .ofValue value }
  | "action" => .ok { row with action := .ofValue value }
  | "quantity" => .ok { row with quantity := .ofValue value }
  | "amount" => .ok { row with amount := .ofValue value }
  | "created_at" => .ok row
  | _ => .error (.unknownColumn table column)

/-- The row that stores an imported row as it is. -/
def ofImported (row : ImportedRow) : LineRow where
  account := row.account
  symbol := row.symbol
  contract := row.contract
  instrument := row.instrument
  date := row.date
  action := row.action
  quantity := (row.quantity.map RealCell.ofBinary64).getD .null
  amount := (row.amount.map RealCell.ofBinary64).getD .null

/-- The row that stores a ledger line. -/
def ofLine (line : LedgerLine) : LineRow where
  account := some line.account
  symbol := some line.symbol
  contract := some line.contract
  instrument := some line.instrument.name
  date := dateCell line.date
  action := some line.action.label
  quantity := amountCell line.quantity
  amount := amountCell line.amount

/-- The ledger line that a row is read as. -/
def read (row : LineRow) : Except Error LedgerLine := do
  let quantity ← row.quantity.read "quantity"
  let amount ← row.amount.read "amount"
  return ImportedRow.toLine {
    account := row.account
    symbol := row.symbol
    contract := row.contract
    instrument := row.instrument
    date := row.date
    action := row.action
    quantity, amount }

end LineRow

/-- A row of `position_snapshots`. -/
structure PositionRow where
  account : TextCell
  symbol : TextCell
  contract : TextCell
  instrument : TextCell
  quantity : RealCell
  unrealized : RealCell
  marketValue : RealCell
  deriving DecidableEq, Repr

namespace PositionRow

def table : String := "position_snapshots"

/-- The columns after the number of the row. -/
def columns : List String :=
  ["account", "symbol", "trade_symbol", "instrument_type", "quantity", "unrealized_pnl",
    "market_value", "updated_at"]

/-- The row in which nothing is set. -/
def blank : PositionRow := ⟨none, none, none, none, .null, .null, .null⟩

/-- The row with one column given a value. -/
def set (row : PositionRow) (column : String) (value : Value) : Except Error PositionRow :=
  match columnName column with
  | "account" => .ok { row with account := .ofValue value }
  | "symbol" => .ok { row with symbol := .ofValue value }
  | "trade_symbol" => .ok { row with contract := .ofValue value }
  | "instrument_type" => .ok { row with instrument := .ofValue value }
  | "quantity" => .ok { row with quantity := .ofValue value }
  | "unrealized_pnl" => .ok { row with unrealized := .ofValue value }
  | "market_value" => .ok { row with marketValue := .ofValue value }
  | "updated_at" => .ok row
  | _ => .error (.unknownColumn table column)

/-- The row that stores a position. -/
def ofPosition (position : Position) : PositionRow where
  account := some position.account
  symbol := some position.symbol
  contract := some position.contract
  instrument := some position.instrument.name
  quantity := amountCell position.quantity
  unrealized := amountCell position.unrealized
  marketValue := amountCell position.marketValue

/-- The position that a row is read as. A contract is read as it is stored. -/
def read (row : PositionRow) : Except Error Position := do
  let quantity ← row.quantity.read "quantity"
  let unrealized ← row.unrealized.read "unrealized_pnl"
  let marketValue ← row.marketValue.read "market_value"
  let symbol := ImportedRow.normalizeSymbol row.symbol
  return {
    account := row.account.getD ""
    symbol
    contract := row.contract.getD symbol
    instrument := ImportedRow.instrumentOf row.instrument
    quantity := .ofImported quantity
    unrealized := .ofImported unrealized
    marketValue := .ofImported marketValue }

end PositionRow

/-- A row of `trade_groups`, the groups that are open included. -/
structure GroupRow where
  account : TextCell
  symbol : TextCell
  contract : TextCell
  strategy : TextCell
  kind : TextCell
  status : String
  opened : TextCell
  closed : TextCell
  pnl : RealCell
  daysHeld : IntegerCell
  trades : IntegerCell
  deriving DecidableEq, Repr

namespace GroupRow

def table : String := "trade_groups"

/-- The columns after the number of the row. -/
def columns : List String :=
  ["account", "symbol", "trade_symbol", "strategy", "trade_group_type", "status", "open_date",
    "close_date", "total_pnl", "days_in_trade", "num_trades"]

/-- The status of a closed group, which is also that of a row without one. -/
def closedStatus : String := "Closed"

/-- The row in which nothing is set. -/
def blank : GroupRow :=
  ⟨none, none, none, none, none, closedStatus, none, none, .null, .null, .null⟩

/-- The row with one column given a value; the status must not be null. -/
def set (row : GroupRow) (column : String) (value : Value) : Except Error GroupRow :=
  match columnName column with
  | "account" => .ok { row with account := .ofValue value }
  | "symbol" => .ok { row with symbol := .ofValue value }
  | "trade_symbol" => .ok { row with contract := .ofValue value }
  | "strategy" => .ok { row with strategy := .ofValue value }
  | "trade_group_type" => .ok { row with kind := .ofValue value }
  | "status" =>
    match TextCell.ofValue value with
    | some status => .ok { row with status }
    | none => .error (.missing table "status")
  | "open_date" => .ok { row with opened := .ofValue value }
  | "close_date" => .ok { row with closed := .ofValue value }
  | "total_pnl" => .ok { row with pnl := .ofValue value }
  | "days_in_trade" => .ok { row with daysHeld := .ofValue value }
  | "num_trades" => .ok { row with trades := .ofValue value }
  | _ => .error (.unknownColumn table column)

/-- The row that stores a group with a status. -/
def ofGroup (group : TradeGroup) (status : String) : GroupRow where
  account := some group.account
  symbol := some group.symbol
  contract := some group.contract
  strategy := some group.strategy
  kind := some group.kind
  status := status
  opened := dateCell group.opened
  closed := dateCell group.closed
  pnl := amountCell group.pnl
  daysHeld := .integer group.daysHeld
  trades := .integer group.trades

/-- The group that a row is read as; texts are read as they are stored. -/
def read (row : GroupRow) : Except Error TradeGroup := do
  let pnl ← row.pnl.read "total_pnl"
  let daysHeld ← row.daysHeld.read "days_in_trade"
  let trades ← row.trades.read "num_trades"
  return {
    account := row.account.getD ""
    symbol := row.symbol.getD ""
    contract := row.contract.getD ""
    strategy := row.strategy.getD ""
    kind := row.kind.getD ""
    opened := readDate row.opened
    closed := readDate row.closed
    pnl := .ofImported pnl
    daysHeld := daysHeld.getD 0
    trades := trades.getD 0 }

end GroupRow

/-- A row of `journal_entries`; the tags are one text with commas between them. -/
structure JournalRow where
  account : TextCell
  symbol : TextCell
  strategy : TextCell
  opened : TextCell
  mood : TextCell
  tags : TextCell
  reflection : TextCell
  deriving DecidableEq, Repr

namespace JournalRow

def table : String := "journal_entries"

/-- The columns after the number of the row. -/
def columns : List String :=
  ["account", "symbol", "strategy", "trade_open_date", "mood", "tags", "reflection", "created_at"]

/-- The row in which nothing is set. -/
def blank : JournalRow := ⟨none, none, none, none, none, none, none⟩

/-- The row with one column given a value. -/
def set (row : JournalRow) (column : String) (value : Value) : Except Error JournalRow :=
  match columnName column with
  | "account" => .ok { row with account := .ofValue value }
  | "symbol" => .ok { row with symbol := .ofValue value }
  | "strategy" => .ok { row with strategy := .ofValue value }
  | "trade_open_date" => .ok { row with opened := .ofValue value }
  | "mood" => .ok { row with mood := .ofValue value }
  | "tags" => .ok { row with tags := .ofValue value }
  | "reflection" => .ok { row with reflection := .ofValue value }
  | "created_at" => .ok row
  | _ => .error (.unknownColumn table column)

/-- The row that stores an entry. -/
def ofEntry (entry : JournalEntry) : JournalRow where
  account := some entry.account
  symbol := some entry.symbol
  strategy := some entry.strategy
  opened := dateCell entry.opened
  mood := entry.mood
  tags := some (Text.joinCommas entry.tags)
  reflection := entry.reflection

/-- The entry that a row is read as. A blank mood is none, and blank tags are dropped. All columns
are of text; raw bytes and text that is not in UTF-8, which could not be read, are left out of
`Value`, so every row has an entry. -/
def read (row : JournalRow) : JournalEntry where
  account := row.account.getD ""
  symbol := row.symbol.getD ""
  strategy := row.strategy.getD ""
  opened := readDate row.opened
  mood := row.mood.filter fun mood => Text.trim mood != ""
  tags := ((Text.splitCommas (row.tags.getD "")).map Text.trim).filter (· != "")
  reflection := row.reflection

end JournalRow

end TradeLedger.Store
