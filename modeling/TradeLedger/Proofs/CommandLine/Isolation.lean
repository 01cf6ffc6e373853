import TradeLedger.CommandLine.Run
import TradeLedger.Proofs.Fault
import TradeLedger.Proofs.Store.Visibility

/-! Runs with a list of accounts. Every report is made from queries that carry the list, and nothing else of
a database is read, so a run cannot tell apart disks that look the same to a reader with the list. With the
day given it does not read the clock either. -/
namespace TradeLedger

open Store

variable {listed : List String} {session : Session} {database other : Database} {disk disk' : Disk}
  {arguments : List String} {environment : Environment}

theorem Settings.accounts_of_ofEnvironment {settings : Settings} (read : ofEnvironment environment = .ok settings) :
    settings.accounts = accountsOf environment := by
  obtain ⟨rate, _, read⟩ := bind_eq_ok.mp read
  obtain ⟨policy, _, read⟩ := bind_eq_ok.mp read
  cases read
  rfl

namespace Session

theorem pnl_sameFor (allowed : session.settings.accounts = .only listed) (same : database.SameFor listed other) :
    session.pnl database = session.pnl other := by
  rw [pnl, pnl, allowed, same.tradeLines, same.openPositions]

theorem taxes_sameFor (allowed : session.settings.accounts = .only listed) (same : database.SameFor listed other) :
    session.taxes database = session.taxes other := by
  rw [taxes, taxes, allowed, same.closedGroups, same.tradeLines]

theorem review_sameFor (allowed : session.settings.accounts = .only listed) (same : database.SameFor listed other) :
    session.review database = session.review other := by
  rw [review, review, allowed, same.closedGroups, same.openDates, same.journalEntries]

/-- Every command answers alike, an unknown one with the same failure. -/
theorem answer_sameFor (allowed : session.settings.accounts = .only listed) (same : database.SameFor listed other) :
    session.answer database = session.answer other := by
  rw [answer, answer]
  split
  · exact pnl_sameFor allowed same
  · exact taxes_sameFor allowed same
  · exact review_sameFor allowed same
  · rfl

theorem report_sameFor (allowed : session.settings.accounts = .only listed) (same : disk.SameFor listed disk') :
    session.report disk = session.report disk' :=
  ((same.openAt session.databaseAddress).mapError _).bind_eq fun _ _ => answer_sameFor allowed

/-- A session has the command, the settings, the day and the database that it is given. -/
theorem ofArguments_eq_ok {clock : Date} : ofArguments arguments environment clock = .ok session ↔
    arguments[1]? = some session.command ∧ Settings.ofEnvironment environment = .ok session.settings ∧
      todayOf arguments clock = .ok session.today ∧ session.arguments = arguments ∧
      session.databaseAddress = (TradeLedger.flag? "--db" arguments).getD session.settings.databaseAddress := by
  rw [ofArguments]
  constructor
  · intro made
    split at made
    · cases made
    case h_2 command given =>
      obtain ⟨settings, read, made⟩ := bind_eq_ok.mp made
      obtain ⟨today, known, made⟩ := bind_eq_ok.mp made
      cases made
      exact ⟨given, mapError_eq_ok.mp read, known, rfl, rfl⟩
  · rintro ⟨given, read, known, rfl, address⟩
    rw [given]
    dsimp only
    rw [mapError_eq_ok.mpr read, ok_bind, known, ok_bind, ← address]
    rfl

theorem accounts_of_ofArguments {clock : Date} (made : ofArguments arguments environment clock = .ok session) :
    session.settings.accounts = Settings.accountsOf environment :=
  Settings.accounts_of_ofEnvironment (ofArguments_eq_ok.mp made).2.1

/-- With the day given the clock makes no difference. -/
theorem ofArguments_clock {raw : String} (dated : TradeLedger.flag? "--today" arguments = some raw)
    (clock clock' : Date) : ofArguments arguments environment clock = ofArguments arguments environment clock' := by
  have today : todayOf arguments clock = todayOf arguments clock' := by rw [todayOf, todayOf, dated]
  rw [ofArguments, ofArguments, today]

end Session

/-- Accounts that are not listed stay out of sight. With a list of accounts set and the day given, a run
prints the same report, or fails alike, on all disks whose databases have the same rows of the listed accounts
in the same order; whatever other rows they have, whatever the arguments and the other settings. -/
theorem run_isolates_accounts {raw : String} (allowed : Settings.accountsOf environment = .only listed)
    (dated : flag? "--today" arguments = some raw) (same : disk.SameFor listed disk') (clock clock' : Date) :
    run arguments environment clock disk = run arguments environment clock' disk' := by
  rw [run, run, Session.ofArguments_clock dated clock clock']
  cases made : Session.ofArguments arguments environment clock' with
  | error failure => rfl
  | ok session =>
    exact Session.report_sameFor ((Session.accounts_of_ofArguments made).trans allowed) same

/-- The accounts A and B, in a file in the working folder. -/
def twoAccounts : Environment := fun name =>
  match name with
  | "ACCOUNTS" => some " A, ,B "
  | "DATABASE_URL" => some "sqlite:ledger.db"
  | _ => none

/-- A row of shares in an account. -/
def sharesRow (account date action : String) (quantity amount : RealCell) : LineRow :=
  ⟨account, "X", "X", "equity", date, action, quantity, amount⟩

/-- Shares bought in A and sold in B. -/
def visibleRows : List LineRow :=
  [sharesRow "A" "2024-03-01" "buy" (.real (.ofInt 2)) (.real (.ofInt 10)),
    sharesRow "B" "2024-03-04" "sell" (.real (.ofInt 1)) (.real (.ofInt 7))]

/-- A disk whose only database has these ledger lines. -/
def diskOf (rows : List LineRow) : Disk where
  workingFolder := []
  folders := []
  files := [([Text.bytesOf "ledger.db"],
    { (∅ : Database) with lines := (rows.zipIdx 1).foldl (fun table (row, id) => table.set id row) ∅ })]

/-- Beside them a row of an account that is not listed with a quantity that cannot be read, and one without
an account. -/
def hiddenRows : List LineRow :=
  [sharesRow "C" "2024-01-05" "buy" (.text "many") (.real (.ofInt 9)),
    { sharesRow "" "2024-02-05" "sell" (.real (.ofInt 3)) (.real (.ofInt 8)) with account := none }]

theorem hidden_rows_stay_out_of_sight : ∃ printout,
    run ["dashboard-cli", "pnl", "--today", "2024-06-30"] twoAccounts ⟨9, by decide, by decide⟩
      (diskOf visibleRows) = .ok printout ∧
    run ["dashboard-cli", "pnl", "--today", "2024-06-30"] twoAccounts ⟨12, by decide, by decide⟩
      (diskOf (hiddenRows ++ visibleRows)) = .ok printout := by
  have allowed : Settings.accountsOf twoAccounts = .only ["A", "B"] := by decide +kernel
  have same : Disk.SameFor ["A", "B"] (diskOf visibleRows) (diskOf (hiddenRows ++ visibleRows)) :=
    ⟨rfl, rfl, .cons ⟨rfl, by decide +kernel⟩ .nil⟩
  obtain ⟨printout, ran⟩ := exists_of_isOk (show (run ["dashboard-cli", "pnl", "--today", "2024-06-30"] twoAccounts
    ⟨9, by decide, by decide⟩ (diskOf visibleRows)).isOk by decide +kernel)
  refine ⟨printout, ran, ?_⟩
  rw [← ran]
  exact (run_isolates_accounts allowed rfl same ⟨9, by decide, by decide⟩ ⟨12, by decide, by decide⟩).symm

end TradeLedger
