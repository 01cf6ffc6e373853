import TradeLedger.Inventory.Holding
import TradeLedger.Ledger.Line
import TradeLedger.Ordered

/-! The book of holdings. Equity lines are posted in the order of their dates, each to the
holding of its account and upper-case symbol, and each may realize a profit on its day. -/
namespace TradeLedger

/-- What a holding is kept under. -/
structure HoldingKey where
  account : String
  symbol : String
  deriving DecidableEq, Repr

namespace HoldingKey

instance : Ord HoldingKey := ⟨compareLex (compareOn account) (compareOn symbol)⟩

instance : Std.TransOrd HoldingKey :=
  inferInstanceAs (Std.TransCmp (compareLex (compareOn account) (compareOn symbol)))

/-- The key of the holding that a line belongs to. -/
def ofLine (line : LedgerLine) : HoldingKey := ⟨line.account, Text.upper line.symbol⟩

end HoldingKey

/-- The holdings by account and symbol. -/
abbrev Book := OrderedMap HoldingKey Holding

/-- A profit realized on a day. -/
structure Realized where
  date : Date
  pnl : Decimal
  deriving DecidableEq, Repr

/-- A ledger line with its known date. -/
structure DatedLine where
  date : Date
  line : LedgerLine
  deriving DecidableEq, Repr

/-- The equity line with its date, if the line is one and its date is known. -/
def DatedLine.ofEquity? (line : LedgerLine) : Option DatedLine :=
  if line.instrument = .equity then line.date.map fun date => ⟨date, line⟩ else none

/-- The dated equity lines in the order of their dates; lines of one day keep theirs. -/
def equityByDate (lines : List LedgerLine) : List DatedLine :=
  Ordered.sortBy (fun a b => a.date ≤ b.date) (lines.filterMap DatedLine.ofEquity?)

namespace Book

/-- The holding under a key; flat if the book has none. -/
def holding (book : Book) (key : HoldingKey) : Holding := book.getD key .flat

/-- One line posted to its holding, and what it realizes. -/
def post (policy : ShortSales) (book : Book) (dated : DatedLine) :
    Except Fault (Book × Option Realized) := do
  let key := HoldingKey.ofLine dated.line
  let (holding, pnl) ←
    (book.holding key).apply policy dated.line.action dated.line.quantity dated.line.amount
  return (book.insert key holding, pnl.map fun pnl => ⟨dated.date, pnl⟩)

/-- Lines posted one after the other, and what they realize in that order. -/
def postAll (policy : ShortSales) : Book → List DatedLine → Except Fault (Book × List Realized)
  | book, [] => .ok (book, [])
  | book, dated :: rest => do
    let (book, realized) ← book.post policy dated
    let (book, later) ← postAll policy book rest
    return (book, realized.toList ++ later)

/-- The equity lines of a ledger posted in the order of their dates. -/
def run (policy : ShortSales) (book : Book) (lines : List LedgerLine) :
    Except Fault (Book × List Realized) :=
  postAll policy book (equityByDate lines)

end Book

/-- A profit added to the sum of its day. -/
def addRealized (sums : OrderedMap Date Decimal) (realized : Realized) :
    Except Fault (OrderedMap Date Decimal) := do
  return sums.insert realized.date (← (sums.getD realized.date .zero).add realized.pnl)

/-- What the equity lines of a ledger realize on each day, starting without holdings. -/
def realizedByDate (policy : ShortSales) (lines : List LedgerLine) :
    Except Fault (OrderedMap Date Decimal) := do
  let (_, realized) ← Book.run policy ∅ lines
  realized.foldlM addRealized ∅

end TradeLedger
