import TradeLedger.CommandLine.Failure
import TradeLedger.Output.Report
import TradeLedger.Series.Reconstruction
import TradeLedger.Store.Disk

/-! A run of the program: the arguments and the environment make a session, the session
opens its database, and its command makes a report from it. The first argument is the name
of the program and the second the command; flags may stand anywhere. -/
namespace TradeLedger

/-- What a run prints. -/
inductive Printout where
  | curve (scope : Scope) (curve : Curve)
  | curvesBySymbol (account : String) (curves : List (String × Curve))
  | taxes (report : Tax.Report)
  | review (review : Review.Weekly)

/-- The printout as JSON. -/
def Printout.toJson (printout : Printout) : Json :=
  match printout with
  | .curve scope points =>
    .object [("chart", points.chart), ("scope", scope.toJson), ("total", points.total.toJson)]
  | .curvesBySymbol account curves =>
    .object [
      ("account", .text account),
      ("symbols", .object (curves.map fun (symbol, points) => (symbol, points.chart)))]
  | .taxes report => report.toJson
  | .review weekly => weekly.toJson

/-- The argument after the first one that is the flag. -/
def flag? (name : String) : List String → Option String
  | [] => none
  | argument :: rest => if argument = name then rest.head? else flag? name rest

/-- What a run is asked to do: its command, its settings and the day as of which it
reports. -/
structure Session where
  arguments : List String
  command : String
  settings : Settings
  databaseAddress : String
  today : Date

namespace Session

/-- The day that `--today` names, or else the day of the clock. -/
def todayOf (arguments : List String) (clock : Date) : Except Failure Date :=
  match flag? "--today" arguments with
  | none => .ok clock
  | some raw =>
    match Date.ofText? raw with
    | some date => .ok date
    | none => .error (.invalidToday raw)

/-- The session that arguments and environment make. -/
def ofArguments (arguments : List String) (environment : Environment) (clock : Date) :
    Except Failure Session := do
  match arguments[1]? with
  | none => .error .noCommand
  | some command =>
    let settings ← (Settings.ofEnvironment environment).mapError .settings
    let today ← todayOf arguments clock
    return {
      arguments, command, settings, today
      databaseAddress := (flag? "--db" arguments).getD settings.databaseAddress }

/-- The argument of a flag. -/
def flag? (session : Session) (name : String) : Option String :=
  TradeLedger.flag? name session.arguments

/-- The scope that `--account` and `--symbol` name. -/
def scope (session : Session) : Except Failure Scope :=
  match session.flag? "--account", session.flag? "--symbol" with
  | some account, some symbol => .ok (.symbol account (Text.upper symbol))
  | some account, none => .ok (.account account)
  | none, none => .ok .all
  | none, some _ => .error .symbolWithoutAccount

/-- The profit curve of a scope, or the curves of the symbols of an account. -/
def pnl (session : Session) (database : Store.Database) : Except Failure Printout := do
  let lines ← (database.tradeLines session.settings.accounts).mapError .store
  let positions ← (database.openPositions session.settings.accounts).mapError .store
  let policy := session.settings.shortSales
  if session.arguments.contains "--by-symbol" then
    match session.flag? "--account" with
    | none => .error .bySymbolWithoutAccount
    | some account =>
      let curves ← (Curve.reconstructBySymbol policy lines positions account
        session.today).mapError .fault
      return .curvesBySymbol account curves
  else
    let scope ← session.scope
    let curve ← (Curve.reconstruct policy lines positions scope session.today).mapError .fault
    return .curve scope curve

/-- The year of `--year`, or else the year of the day. -/
def taxYear (session : Session) : Except Failure Int :=
  match session.flag? "--year" with
  | none => .ok session.today.year
  | some raw => (IntegerBounds.signed32.read raw).mapError (.invalidYear raw)

/-- The bracket rate of `--bracket`, or else that of the settings. -/
def bracketRate (session : Session) : Except Failure UInt32 :=
  match session.flag? "--bracket" with
  | none => .ok session.settings.bracketRate
  | some raw => (Settings.readPercent raw).mapError (.invalidBracket raw)

/-- The tax report of a year. -/
def taxes (session : Session) (database : Store.Database) : Except Failure Printout := do
  let year ← session.taxYear
  let rate ← session.bracketRate
  let groups ← (database.closedGroups session.settings.accounts).mapError .store
  let lines ← (database.tradeLines session.settings.accounts).mapError .store
  let report ← (Tax.Report.build groups lines year
    (Tax.Rules.us.withBracket rate)).mapError .fault
  return .taxes report

/-- The review of the week that ends on the day. -/
def review (session : Session) (database : Store.Database) : Except Failure Printout := do
  let accounts := session.settings.accounts
  let groups ← (database.closedGroups accounts).mapError .store
  let opened ← (database.openDates accounts).mapError .store
  let journal ← (database.journalEntries accounts).mapError .store
  let review ← (Review.Weekly.compute groups opened journal session.today).mapError .fault
  return .review review

/-- The report that the command makes from a database. -/
def answer (session : Session) (database : Store.Database) : Except Failure Printout :=
  match session.command with
  | "pnl" => session.pnl database
  | "taxes" => session.taxes database
  | "review" => session.review database
  | other => .error (.unknownCommand other)

/-- The database that a session reads. -/
def openOn (session : Session) (disk : Store.Disk) : Except Failure Store.Database :=
  (disk.openAt session.databaseAddress).mapError (.cannotOpen session.databaseAddress)

/-- The report that the session makes with these databases at hand. -/
def report (session : Session) (disk : Store.Disk) : Except Failure Printout := do
  session.answer (← session.openOn disk)

end Session

/-- A run with these databases at hand, as of the day of `--today` or else of the clock. -/
def run (arguments : List String) (environment : Environment) (clock : Date)
    (disk : Store.Disk) : Except Failure Printout := do
  (← Session.ofArguments arguments environment clock).report disk

end TradeLedger
