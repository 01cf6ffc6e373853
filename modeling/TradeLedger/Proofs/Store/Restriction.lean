import TradeLedger.Proofs.Store.Insertion
import TradeLedger.Proofs.Store.Visibility

/-! Queries for listed accounts. Four queries are alike: they select the rows of some accounts, list them in an order
and read each as a record. If all records can be read, a list of accounts finds those of its accounts; the empty name
must not be listed, for a missing account is read as that. A query fails for the rows that it selects and for no others,
and for a list that is too long for its statement. -/
namespace TradeLedger.Store

variable {ρ α : Type} {database : Database} {listed : List String}

/-- The account of a row is in a list. A row without an account is in none. -/
def IsListed (listed : List String) (account : TextCell) : Prop := ∃ name ∈ listed, account = some name

theorem isListed_iff {account : TextCell} :
    IsListed listed account ↔ (account.any fun name => name ∈ listed) = true := by
  cases account <;> simp [IsListed]

instance (listed : List String) (account : TextCell) : Decidable (IsListed listed account) :=
  decidable_of_iff _ isListed_iff.symm

/-- A query for the records of some accounts. -/
structure Query (ρ α : Type) where
  /-- The variables of its statement besides the accounts. -/
  others : ℕ
  fits : others ≤ Database.mostVariables
  rows : Database → List ρ
  account : ρ → TextCell
  order : ρ → ρ → Ordering
  ordered : Std.TransCmp order
  read : ρ → Except Error α
  accountOf : α → String
  /-- A record is of the account of its row, or of none. -/
  accountOf_eq : ∀ row record, read row = .ok record → accountOf record = (account row).getD ""

namespace Query

variable (query : Query ρ α)

def answer (database : Database) (accounts : Accounts) : Except Error (List α) := do
  let rows ← Database.select query.others accounts query.account (query.rows database)
  (Database.orderBy query.order rows).mapM query.read

/-- A row of a listed account cannot be read. -/
def Unreadable (database : Database) (listed : List String) : Prop :=
  ∃ row ∈ query.rows database, IsListed listed (query.account row) ∧ ∃ cause, query.read row = .error cause

variable {query}

theorem answer_all (database : Database) :
    query.answer database .all = (Database.orderBy query.order (query.rows database)).mapM query.read := by
  rw [answer, Database.select_all query.fits, ok_bind]

theorem answer_only (database : Database) (listed : List String) : query.answer database (.only listed) =
    if query.others + listed.length ≤ Database.mostVariables then
      ((Database.orderBy query.order (query.rows database)).filter
        fun row => (query.account row).any fun name => name ∈ listed).mapM query.read
    else .error .tooManyVariables := by
  have := query.ordered
  rw [answer, Database.select_only]
  split
  case isTrue =>
    rw [ok_bind, Database.orderBy, Database.orderBy, (Ordered.Orders.of_compare query.order).filter_sortBy]
  case isFalse => rfl

/-- The records of the listed accounts are those among all records. -/
theorem answer_only_of_all (room : query.others + listed.length ≤ Database.mostVariables) (named : "" ∉ listed)
    {records : List α} (answered : query.answer database .all = .ok records) :
    query.answer database (.only listed) = .ok (records.filter fun record => query.accountOf record ∈ listed) := by
  rw [answer_all] at answered
  rw [answer_only, if_pos room]
  refine mapM_filter (fun row record read => ?_) answered
  rw [query.accountOf_eq row record read, decide_eq_true_eq]
  cases query.account row with
  | none => simpa using named
  | some name => simp

theorem answer_only_fails_iff :
    (∃ cause, query.answer database (.only listed) = .error cause) ↔
      Database.mostVariables < query.others + listed.length ∨ query.Unreadable database listed := by
  rw [answer_only]
  split
  case isTrue room =>
    rw [mapM_fails_iff, or_iff_right (not_lt.mpr room), Unreadable]
    have selected : ∀ row, row ∈ (Database.orderBy query.order (query.rows database)).filter
          (fun row => (query.account row).any fun name => name ∈ listed) ↔
        row ∈ query.rows database ∧ IsListed listed (query.account row) := by
      intro row
      rw [List.mem_filter, Database.orderBy, Ordered.mem_sortBy, isListed_iff]
    simp only [selected, and_assoc]
  case isFalse many => exact iff_of_true ⟨_, rfl⟩ (.inl (not_le.mp many))

end Query

/-- What listed accounts make of a query for all accounts. In a list of at most so many accounts they have the records
that are theirs, each as often and in the order in which it is found for all; the query fails if and only if there
are more of them or a row of theirs cannot be read. -/
structure Restricts (query : Accounts → Except Error (List α)) (accountOf : α → String) (listed : List String)
    (most : ℕ) (unreadable : Prop) : Prop where
  answers : listed.length ≤ most → ∀ records, query .all = .ok records →
    query (.only listed) = .ok (records.filter fun record => accountOf record ∈ listed)
  fails_iff : (∃ cause, query (.only listed) = .error cause) ↔ most < listed.length ∨ unreadable

theorem Query.restricts (query : Query ρ α) {most : ℕ} (room : query.others + most = Database.mostVariables)
    (database : Database) (named : "" ∉ listed) :
    Restricts (query.answer database) query.accountOf listed most (query.Unreadable database listed) where
  answers few records answered := Query.answer_only_of_all (by omega) named answered
  fails_iff := by
    rw [Query.answer_only_fails_iff]
    apply or_congr_left
    omega

namespace Database

/-- The query for ledger lines, -/
def linesQuery : Query LineRow LedgerLine where
  others := 0
  fits := by decide
  rows database := database.lines.rows
  account := LineRow.account
  order := compareOn LineRow.date
  ordered := inferInstance
  read := LineRow.read
  accountOf := LedgerLine.account
  accountOf_eq row line read := by
    obtain ⟨quantity, _, read⟩ := bind_eq_ok.mp read
    obtain ⟨amount, _, read⟩ := bind_eq_ok.mp read
    cases read
    rfl

/-- for open positions, -/
def positionsQuery : Query PositionRow Position where
  others := 0
  fits := by decide
  rows database := database.positions.rows
  account := PositionRow.account
  order := compareLex (compareOn PositionRow.account) (compareOn PositionRow.symbol)
  ordered := inferInstance
  read := PositionRow.read
  accountOf := Position.account
  accountOf_eq row position read := by
    obtain ⟨quantity, _, read⟩ := bind_eq_ok.mp read
    obtain ⟨unrealized, _, read⟩ := bind_eq_ok.mp read
    obtain ⟨marketValue, _, read⟩ := bind_eq_ok.mp read
    cases read
    rfl

/-- for closed groups, -/
def groupsQuery : Query GroupRow TradeGroup where
  others := 1
  fits := by decide
  rows database := database.groups.rows.filter fun row => row.status == GroupRow.closedStatus
  account := GroupRow.account
  order := fun a b => compare b.closed a.closed
  ordered := @Std.TransCmp.opposite _ (compareOn GroupRow.closed) _
  read := GroupRow.read
  accountOf := TradeGroup.account
  accountOf_eq row group read := by
    obtain ⟨pnl, _, read⟩ := bind_eq_ok.mp read
    obtain ⟨daysHeld, _, read⟩ := bind_eq_ok.mp read
    obtain ⟨trades, _, read⟩ := bind_eq_ok.mp read
    cases read
    rfl

/-- and for journal entries, which keep the order of their rows. -/
def journalQuery : Query JournalRow JournalEntry where
  others := 0
  fits := by decide
  rows database := database.journal.rows
  account := JournalRow.account
  order := fun _ _ => .eq
  ordered := { eq_swap := rfl, isLE_trans := fun _ _ => rfl }
  read row := .ok row.read
  accountOf := JournalEntry.account
  accountOf_eq row entry read := by
    cases read
    rfl

theorem tradeLines_eq (database : Database) : database.tradeLines = linesQuery.answer database := rfl

theorem openPositions_eq (database : Database) : database.openPositions = positionsQuery.answer database := rfl

theorem closedGroups_eq (database : Database) : database.closedGroups = groupsQuery.answer database := rfl

theorem journalEntries_eq (database : Database) : database.journalEntries = journalQuery.answer database := by
  funext accounts
  have unsorted : ∀ rows : List JournalRow, orderBy (fun _ _ => .eq) rows = rows := fun rows => by
    have level : (Ordered.sortBy (fun _ _ => true) rows).filter (fun _ => true) = rows.filter fun _ => true :=
      Ordered.filter_sortBy_of_level (fun _ _ _ _ => rfl) rows
    rwa [List.filter_true, List.filter_true] at level
  have every : ∀ rows : List JournalRow, rows.mapM (fun row => Except.ok (ε := Error) row.read) =
      .ok (rows.map JournalRow.read) := fun rows => mapM_eq_ok fun _ _ => rfl
  simp only [journalEntries, Query.answer, journalQuery, unsorted, every]
  rfl

/-- Of the groups only closed ones are read. -/
theorem groupsQuery_unreadable_iff : groupsQuery.Unreadable database listed ↔ ∃ row ∈ database.groups.rows,
    row.status = "Closed" ∧ IsListed listed row.account ∧ ∃ cause, row.read = .error cause := by
  apply exists_congr
  intro row
  rw [show groupsQuery.rows database = database.groups.rows.filter _ from rfl, List.mem_filter, and_assoc, beq_iff_eq]
  rfl

/-- Every row of the journal can be read. -/
theorem journalQuery_readable (database : Database) (listed : List String) :
    ¬journalQuery.Unreadable database listed := by
  rintro ⟨row, _, _, cause, failed⟩
  cases failed

/-- The open dates for listed accounts are those of their rows. -/
theorem openDates_only (database : Database) (listed : List String) : database.openDates (.only listed) =
    if listed.length ≤ mostVariables then
      .ok ((database.groups.rows.filter fun row => IsListed listed row.account).filterMap fun row =>
        readDate row.opened)
    else .error .tooManyVariables := by
  have selected : ∀ row : GroupRow, decide (IsListed listed row.account) = row.account.any fun name => name ∈ listed := by
    intro row
    rw [Bool.eq_iff_iff, decide_eq_true_eq, isListed_iff]
  simp only [selected]
  rw [openDates, select_only, Nat.zero_add]
  split <;> rfl

/-- The filter by accounts is a filter of the query for all accounts. Where this finds ledger lines, open positions,
closed groups or journal entries, a list of accounts finds those among them that are its own, and it fails only for
rows of its accounts that cannot be read; of the groups only the closed ones are read, and any journal row can be,
because no cell holds raw bytes or text that is not in UTF-8. The open dates of a list are those of its rows, open or
closed. All this is so for lists of up to 32766 accounts, of which the closed groups have one fewer for their status is
a variable too; longer ones are refused. -/
theorem queries_restrict (database : Database) (named : "" ∉ listed) :
    Restricts database.tradeLines LedgerLine.account listed 32766
      (∃ row ∈ database.lines.rows, IsListed listed row.account ∧ ∃ cause, row.read = .error cause) ∧
    Restricts database.openPositions Position.account listed 32766
      (∃ row ∈ database.positions.rows, IsListed listed row.account ∧ ∃ cause, row.read = .error cause) ∧
    Restricts database.closedGroups TradeGroup.account listed 32765
      (∃ row ∈ database.groups.rows, row.status = "Closed" ∧ IsListed listed row.account ∧
        ∃ cause, row.read = .error cause) ∧
    Restricts database.journalEntries JournalEntry.account listed 32766 False ∧
    (listed.length ≤ 32766 → ∃ dates, database.openDates (.only listed) = .ok dates ∧
      dates.Perm ((database.groups.rows.filter fun row => IsListed listed row.account).filterMap fun row =>
        row.opened.bind Date.ofText?)) ∧
    ((∃ cause, database.openDates (.only listed) = .error cause) ↔ 32766 < listed.length) := by
  refine ⟨?_, ?_, ?_, ?_, ?_, ?_⟩
  · rw [tradeLines_eq]
    exact linesQuery.restricts rfl database named
  · rw [openPositions_eq]
    exact positionsQuery.restricts rfl database named
  · rw [← groupsQuery_unreadable_iff, closedGroups_eq]
    exact groupsQuery.restricts rfl database named
  · rw [← iff_false_intro (journalQuery_readable database listed), journalEntries_eq]
    exact journalQuery.restricts rfl database named
  · intro few
    exact ⟨_, (openDates_only database listed).trans (if_pos few), .refl _⟩
  · rw [openDates_only]
    split
    case isTrue few => exact iff_of_false (fun ⟨_, failed⟩ => nomatch failed) (not_lt.mpr few)
    case isFalse many => exact iff_of_true ⟨_, rfl⟩ (not_le.mp many)

/-- A purchase in one account. -/
def purchaseOf (account : String) : ImportedRow :=
  ⟨some account, some "X", none, some "equity", some "2024-01-02", some "buy", some (.ofInt 10), some (.ofInt (-100))⟩

/-- A list that names an account too often is refused, though its lines can be read. -/
theorem too_many_accounts_refused :
    "" ∉ List.replicate 32767 "A" ∧
    ∃ line, (ofLineRows [.ofImported (purchaseOf "A")]).tradeLines .all = .ok [line] ∧
      line.account ∈ List.replicate 32767 "A" ∧
      (ofLineRows [.ofImported (purchaseOf "A")]).tradeLines (.only (List.replicate 32767 "A")) =
        .error .tooManyVariables := by
  refine ⟨fun member => absurd (List.eq_of_mem_replicate member) (by decide), (purchaseOf "A").toLine,
    by decide +kernel, List.mem_replicate.mpr ⟨by decide, rfl⟩, ?_⟩
  rw [tradeLines, select_only, List.length_replicate]
  rfl

/-- Groups of one account that are closed and open, one without an account, and one that could not be read if it were
closed; of the ledger lines one cannot be read. -/
def mixedRows : Database where
  lines := .ofRows [.ofImported (purchaseOf "A"), { LineRow.blank with account := some "C", amount := .text "much" },
    LineRow.blank, .ofImported (purchaseOf "A")]
  positions := ∅
  groups := .ofRows [{ GroupRow.blank with account := some "A", closed := some "2024-02-01", opened := some "2024-01-01" },
    { GroupRow.blank with closed := some "2024-02-02", opened := some "2024-01-02" },
    { GroupRow.blank with account := some "A", status := "Open", opened := some "2024-01-03", trades := .text "few" },
    { GroupRow.blank with account := some "B", closed := some "2024-02-03" }]
  journal := ∅

/-- A list with a repeated account reads its lines where the query for all accounts fails, and its groups once each. -/
theorem mixed_rows_restricted :
    "" ∉ ["A", "D", "A"] ∧ (∃ cause, mixedRows.tradeLines .all = .error cause) ∧
    (∃ lines, mixedRows.tradeLines (.only ["A", "D", "A"]) = .ok lines) ∧
    ∃ groups, mixedRows.closedGroups .all = .ok groups ∧ groups.length = 3 ∧
      mixedRows.closedGroups (.only ["A", "D", "A"]) = .ok (groups.filter fun group => group.account ∈ ["A", "D", "A"]) ∧
      (∃ dates, mixedRows.openDates (.only ["A", "D", "A"]) = .ok dates ∧ dates.length = 2) := by
  have named : "" ∉ ["A", "D", "A"] := by decide
  obtain ⟨lines, _, groups, _, dates, _⟩ := queries_restrict mixedRows named
  obtain ⟨cause, failed⟩ : ∃ cause, mixedRows.tradeLines .all = .error cause :=
    ⟨.mismatch "amount" .real .text, by decide +kernel⟩
  have readable : ∀ row ∈ mixedRows.lines.rows, IsListed ["A", "D", "A"] row.account → row.read.isOk = true := by
    decide +kernel
  have answers : ¬∃ cause, mixedRows.tradeLines (.only ["A", "D", "A"]) = .error cause := by
    rw [lines.fails_iff]
    rintro (many | ⟨row, member, own, cause, failed⟩)
    · exact absurd many (by decide)
    · have ok := readable row member own
      rw [failed] at ok
      cases ok
  obtain ⟨listedLines, listedOnly⟩ : ∃ lines, mixedRows.tradeLines (.only ["A", "D", "A"]) = .ok lines := by
    cases answer : mixedRows.tradeLines (.only ["A", "D", "A"]) with
    | ok lines => exact ⟨lines, rfl⟩
    | error cause => exact absurd ⟨cause, answer⟩ answers
  obtain ⟨found, answered⟩ := exists_of_isOk (show (mixedRows.closedGroups .all).isOk by decide +kernel)
  have three : (mixedRows.closedGroups .all).toOption.map List.length = some 3 := by decide +kernel
  rw [answered] at three
  obtain ⟨opened, dated, perm⟩ := dates (by decide)
  exact ⟨named, ⟨cause, failed⟩, ⟨listedLines, listedOnly⟩, found, answered, Option.some.inj three,
    groups.answers (by decide) found answered, opened, dated, perm.length_eq.trans (by decide +kernel)⟩

end Database

end TradeLedger.Store
