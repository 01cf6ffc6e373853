import TradeLedger.Ledger.Line
import TradeLedger.Ordered
import TradeLedger.Store.Rows

/-! The ledger's database: four tables, insertions into them and the queries that reports
are made from. A query takes the rows of the accounts it may see, in a fixed order, and
fails if one of them cannot be read; with a list of more accounts than its statement has
room for it fails in any case. -/
namespace TradeLedger.Store

/-- The four tables. -/
structure Database where
  lines : Table LineRow
  positions : Table PositionRow
  groups : Table GroupRow
  journal : Table JournalRow

namespace Database

/-- The database without rows. -/
def empty : Database := ⟨∅, ∅, ∅, ∅⟩

instance : EmptyCollection Database := ⟨empty⟩

/-! ## Insertions -/

/-- A row inserted into the table of ledger lines, and its number. -/
def insertLineRow (database : Database) (row : LineRow) : Except Error (Database × Int) := do
  let (lines, id) ← database.lines.insert row
  return ({ database with lines }, id)

/-- An imported row stored as it is. -/
def insertImported (database : Database) (row : ImportedRow) : Except Error (Database × Int) :=
  database.insertLineRow (.ofImported row)

/-- A ledger line stored. -/
def insertLine (database : Database) (line : LedgerLine) : Except Error (Database × Int) :=
  database.insertLineRow (.ofLine line)

/-- A position stored. -/
def insertPosition (database : Database) (position : Position) :
    Except Error (Database × Int) := do
  let (positions, id) ← database.positions.insert (.ofPosition position)
  return ({ database with positions }, id)

/-- A group of trades stored with a status. -/
def insertGroup (database : Database) (group : TradeGroup) (status : String) :
    Except Error (Database × Int) := do
  let (groups, id) ← database.groups.insert (.ofGroup group status)
  return ({ database with groups }, id)

/-- A journal entry stored. -/
def insertEntry (database : Database) (entry : JournalEntry) :
    Except Error (Database × Int) := do
  let (journal, id) ← database.journal.insert (.ofEntry entry)
  return ({ database with journal }, id)

/-- Whether a column is the number of the row, which goes by four names. -/
def isRowNumber (column : String) : Bool :=
  ["id", "rowid", "oid", "_rowid_"].contains (columnName column)

/-- A row with these columns set, inserted into a table. The columns are taken in the order
of their names as they are written. Of one column under two spellings the first counts, but of
the names of the row number the last. -/
def insertValues {ρ : Type} (table : Table ρ) (name : String) (blank : ρ)
    (set : ρ → String → Value → Except Error ρ) (values : List (String × Value)) :
    Except Error (Table ρ × Int) := do
  let values := Ordered.sortBy (fun a b => (compare a.1 b.1).isLE) values
  let (numbers, columns) := values.partition fun value => isRowNumber value.1
  let columns := columns.eraseDupsBy fun a b => columnName a.1 == columnName b.1
  let row ← columns.foldlM (fun row (column, value) => set row column value) blank
  match numbers.getLast? with
  | none => table.insert row
  | some (_, value) =>
    match ← rowId? value with
    | none => table.insert row
    | some id => table.insertAt name id row

/-- The tables that rows may be written into. -/
inductive TableName where
  | lines
  | positions
  | groups
  | journal
  deriving DecidableEq, Repr

/-- The table with this name. -/
def TableName.ofText? (name : String) : Option TableName :=
  if name = LineRow.table then some .lines
  else if name = PositionRow.table then some .positions
  else if name = GroupRow.table then some .groups
  else if name = JournalRow.table then some .journal
  else none

/-- A row of values written straight into a table; columns that are not set are null, and
the status of a group is that of a closed one. -/
def insertRow (database : Database) (table : TableName) (values : List (String × Value)) :
    Except Error (Database × Int) := do
  match table with
  | .lines =>
    let (lines, id) ← insertValues database.lines LineRow.table .blank LineRow.set values
    return ({ database with lines }, id)
  | .positions =>
    let (positions, id) ←
      insertValues database.positions PositionRow.table .blank PositionRow.set values
    return ({ database with positions }, id)
  | .groups =>
    let (groups, id) ← insertValues database.groups GroupRow.table .blank GroupRow.set values
    return ({ database with groups }, id)
  | .journal =>
    let (journal, id) ←
      insertValues database.journal JournalRow.table .blank JournalRow.set values
    return ({ database with journal }, id)

/-! ## Queries -/

/-- Whether a row with this account may be seen. A row without an account is in no list. -/
def admits (accounts : Accounts) (account : TextCell) : Bool :=
  match accounts, account with
  | .all, _ => true
  | .only listed, some account => listed.contains account
  | .only _, none => false

/-- The most variables that one statement may have. -/
def mostVariables : Nat := 32766

/-- The variables that stand for accounts: one for each that is listed. -/
def accountVariables : Accounts → Nat
  | .all => 0
  | .only listed => listed.length

/-- The rows of some accounts. The statement that selects them has so many other variables
besides those of the accounts, and with too many in all it is refused. -/
def select {ρ : Type} (others : Nat) (accounts : Accounts) (account : ρ → TextCell)
    (rows : List ρ) : Except Error (List ρ) :=
  if others + accountVariables accounts ≤ mostVariables then
    .ok (rows.filter fun row => admits accounts (account row))
  else .error .tooManyVariables

/-- The rows sorted by a comparison, in the order of their numbers where it does not tell
them apart. -/
def orderBy {ρ : Type} (order : ρ → ρ → Ordering) (rows : List ρ) : List ρ :=
  Ordered.sortBy (fun a b => (order a b).isLE) rows

/-- The ledger lines of some accounts by the text of their dates. -/
def tradeLines (database : Database) (accounts : Accounts) :
    Except Error (List LedgerLine) := do
  let rows ← select 0 accounts LineRow.account database.lines.rows
  (orderBy (compareOn LineRow.date) rows).mapM LineRow.read

/-- The open positions of some accounts by account and symbol. -/
def openPositions (database : Database) (accounts : Accounts) :
    Except Error (List Position) := do
  let rows ← select 0 accounts PositionRow.account database.positions.rows
  let order := compareLex (compareOn PositionRow.account) (compareOn PositionRow.symbol)
  (orderBy order rows).mapM PositionRow.read

/-- The closed groups of some accounts by the text of their closing dates, the last first. The
status is a variable too. -/
def closedGroups (database : Database) (accounts : Accounts) :
    Except Error (List TradeGroup) := do
  let closed := database.groups.rows.filter fun row => row.status == GroupRow.closedStatus
  let rows ← select 1 accounts GroupRow.account closed
  (orderBy (fun a b => compare b.closed a.closed) rows).mapM GroupRow.read

/-- The opening dates of the groups of some accounts, open or closed, in the order of their
rows. -/
def openDates (database : Database) (accounts : Accounts) : Except Error (List Date) := do
  let rows ← select 0 accounts GroupRow.account database.groups.rows
  return rows.filterMap fun row => readDate row.opened

/-- The journal entries of some accounts in the order in which they were written. -/
def journalEntries (database : Database) (accounts : Accounts) :
    Except Error (List JournalEntry) := do
  let rows ← select 0 accounts JournalRow.account database.journal.rows
  return rows.map JournalRow.read

end Database

end TradeLedger.Store
