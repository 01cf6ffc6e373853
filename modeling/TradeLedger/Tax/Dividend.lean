import TradeLedger.Calendar.Date
import TradeLedger.Inventory.Book
import TradeLedger.Ledger.Line

/-! Dividends by holding. The lines whose action is a dividend count, whatever their
instrument. -/
namespace TradeLedger.Tax

/-- The lines of a ledger that pay dividends. -/
def dividendLines (lines : List LedgerLine) : List LedgerLine :=
  lines.filter fun line => line.action = .dividend

/-- The lines dated in a year. -/
def linesOfYear (year : Int) (lines : List LedgerLine) : List LedgerLine :=
  lines.filter fun line => (line.date.map Date.year) == some year

/-- What one holding paid. -/
structure DividendRow where
  account : String
  symbol : String
  total : Decimal
  count : Nat
  lastDate : Option Date
  deriving DecidableEq, Repr

namespace DividendRow

/-- The later of two dates, where an unknown one counts as the earlier. -/
def later (a b : Option Date) : Option Date :=
  match a, b with
  | some a, some b => if b < a then some a else some b
  | some a, none => some a
  | none, b => b

/-- The row with one more payment. -/
def add (row : DividendRow) (line : LedgerLine) : Except Fault DividendRow := do
  let total ← row.total.add line.amount
  return { row with total, count := row.count + 1, lastDate := later row.lastDate line.date }

/-- The rows with one more payment, made to the row of its account and symbol. -/
def addLine (rows : OrderedMap HoldingKey DividendRow) (line : LedgerLine) :
    Except Fault (OrderedMap HoldingKey DividendRow) := do
  let key : HoldingKey := ⟨line.account, line.symbol⟩
  let row := rows.getD key ⟨line.account, line.symbol, .zero, 0, none⟩
  return rows.insert key (← row.add line)

/-- One row for each account and symbol, the largest total first; rows with equal totals
are in the order of account and symbol. -/
def ofLines (lines : List LedgerLine) : Except Fault (List DividendRow) := do
  let rows ← lines.foldlM addLine ∅
  return Ordered.sortBy (fun a b => b.total ≤ a.total) rows.values

end DividendRow

end TradeLedger.Tax
