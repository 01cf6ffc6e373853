import TradeLedger.Calendar.Text
import TradeLedger.Decimal.Binary
import TradeLedger.Text.Uppercase

/-! Lines of the ledger, and the rows of text and numbers that importers hand over. No
row is refused: what is missing or cannot be read becomes empty, unknown or zero. -/
namespace TradeLedger

/-! ## Instruments: what a line is about -/

/-- The kinds of instrument that the ledger tells apart. -/
inductive Instrument where
  | equity
  | call
  | put
  | dividend
  | other
  deriving DecidableEq, Repr

namespace Instrument

/-- The instrument that an importer's label stands for; an unknown label is `other`. -/
def ofLabel (raw : String) : Instrument :=
  match Text.label raw with
  | "equity" | "stock" | "etf" => .equity
  | "call" => .call
  | "put" => .put
  | "dividend" => .dividend
  | _ => .other

/-- Whether the instrument is an option contract. -/
def isOption : Instrument → Bool
  | .call | .put => true
  | .equity | .dividend | .other => false

/-- The name under which an instrument is stored and printed. -/
def name : Instrument → String
  | .equity => "Equity"
  | .call => "Call"
  | .put => "Put"
  | .dividend => "Dividend"
  | .other => "Other"

/-- All instruments. -/
def all : List Instrument := [.equity, .call, .put, .dividend, .other]

end Instrument

/-! ## Actions: what was done on a line -/

/-- The action of a ledger line. An action that the ledger does not act on keeps its
label. -/
inductive Action where
  | buy
  | sell
  | sellShort
  | dividend
  | other (label : String)
  deriving DecidableEq, Repr

namespace Action

/-- The form in which labels of actions are compared: spaces become underscores. -/
def normalize (raw : String) : String :=
  String.ofList ((Text.label raw).toList.map fun c => if c = ' ' then '_' else c)

/-- The action that an importer's label stands for. -/
def ofLabel (raw : String) : Action :=
  match normalize raw with
  | "buy" => .buy
  | "sell" => .sell
  | "sell_short" => .sellShort
  | "dividend" => .dividend
  | label => .other label

/-- The label under which an action is stored and printed. -/
def label : Action → String
  | .buy => "buy"
  | .sell => "sell"
  | .sellShort => "sell_short"
  | .dividend => "dividend"
  | .other label => label

/-- Whether the action sells shares. -/
def isSale : Action → Bool
  | .sell | .sellShort => true
  | .buy | .dividend | .other _ => false

/-- Whether the ledger does not act on the action. -/
def isOther : Action → Bool
  | .other _ => true
  | .buy | .sell | .sellShort | .dividend => false

end Action

/-! ## Lines -/

/-- One transaction. A sale or purchase may have its quantity with or without a sign; the
amount is the cash that came in. -/
structure LedgerLine where
  account : String
  symbol : String
  /-- The option contract, or the share itself. -/
  contract : String
  instrument : Instrument
  /-- Unknown if the imported date could not be read. -/
  date : Option Date
  action : Action
  quantity : Decimal
  amount : Decimal
  deriving DecidableEq, Repr

/-- A row as imported; any field may be missing. -/
structure ImportedRow where
  account : Option String
  symbol : Option String
  contract : Option String
  instrument : Option String
  date : Option String
  action : Option String
  quantity : Option Binary64
  amount : Option Binary64
  deriving DecidableEq, Repr

namespace ImportedRow

/-- Symbols are trimmed and in upper case. -/
def normalizeSymbol (raw : Option String) : String :=
  Text.upper (Text.trim (raw.getD ""))

/-- The trimmed contract, or the symbol where the row names no contract. -/
def contractOr (symbol : String) (raw : Option String) : String :=
  ((raw.map Text.trim).filter fun contract => contract != "").getD symbol

/-- The instrument of a label that may be missing. -/
def instrumentOf (raw : Option String) : Instrument :=
  (raw.map Instrument.ofLabel).getD .other

/-- The ledger line of an imported row. -/
def toLine (row : ImportedRow) : LedgerLine :=
  let symbol := normalizeSymbol row.symbol
  { account := row.account.getD ""
    symbol
    contract := contractOr symbol row.contract
    instrument := instrumentOf row.instrument
    date := row.date.bind Date.ofText?
    action := Action.ofLabel (row.action.getD "")
    quantity := Decimal.ofImported row.quantity
    amount := Decimal.ofImported row.amount }

end ImportedRow

/-! ## Which accounts a reader may see -/

/-- All accounts, or the listed ones and no others. -/
inductive Accounts where
  | all
  | only (accounts : List String)
  deriving DecidableEq, Repr

end TradeLedger
