import TradeLedger.CommandLine.Settings
import TradeLedger.Fault
import TradeLedger.Store.Cell

/-! Why a run prints no report. -/
namespace TradeLedger

/-- The failures of a run. -/
inductive Failure where
  | noCommand
  | unknownCommand (command : String)
  | settings (error : SettingsError)
  | invalidToday (raw : String)
  | cannotOpen (address : String) (cause : Store.Error)
  | bySymbolWithoutAccount
  | symbolWithoutAccount
  | invalidYear (raw : String) (cause : IntegerError)
  | invalidBracket (raw : String) (cause : IntegerError)
  | store (error : Store.Error)
  /-- A figure of the report could not be computed. -/
  | fault (reason : Fault)
  deriving DecidableEq, Repr

namespace Failure

/-- What went wrong. -/
def headline : Failure → String
  | .noCommand => "usage: dashboard-cli <pnl|taxes|review> [flags]"
  | .unknownCommand command =>
    "unknown command '" ++ command ++ "', expected pnl, taxes or review"
  | .settings (.bracket _) => "TAX_BRACKET must be a whole percentage"
  | .settings (.shortSales raw) =>
    "SHORT_SALE_MODE must be 'proceeds' or 'track', got '" ++ raw ++ "'"
  | .invalidToday raw => "invalid --today date '" ++ raw ++ "'"
  | .cannotOpen address _ => "failed to open ledger database " ++ address
  | .bySymbolWithoutAccount => "--by-symbol needs --account"
  | .symbolWithoutAccount => "--symbol needs --account"
  | .invalidYear raw _ => "invalid --year '" ++ raw ++ "'"
  | .invalidBracket raw _ => "invalid --bracket '" ++ raw ++ "'"
  | .store error => error.message
  | .fault reason => reason.message

/-- Why it went wrong, where there is more to say. -/
def cause? : Failure → Option String
  | .settings (.bracket cause) => some cause.message
  | .cannotOpen _ cause => some cause.message
  | .invalidYear _ cause => some cause.message
  | .invalidBracket _ cause => some cause.message
  | _ => none

/-- The lines of a text, each indented. -/
def indented (text : String) : String :=
  "\n".intercalate
    ((Text.fieldsBy '\n' text.toList).map fun line => "    " ++ String.ofList line)

/-- The wording of a failure. -/
def message (failure : Failure) : String :=
  match failure.cause? with
  | none => failure.headline
  | some cause => failure.headline ++ "\n\nCaused by:\n" ++ indented cause

/-- The code with which a run that failed exits. -/
def exitCode : Failure → UInt32
  | .fault _ => 101
  | _ => 1

end Failure

end TradeLedger
