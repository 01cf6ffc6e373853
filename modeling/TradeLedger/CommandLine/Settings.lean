import TradeLedger.Inventory.Holding
import TradeLedger.Ledger.Line
import TradeLedger.Number.Integer
import TradeLedger.Tax.Rules
import TradeLedger.Text.Basic

/-! Settings from the environment: the address of the database, the tax bracket, the policy
on short sales and the accounts that may be seen. -/
namespace TradeLedger

/-- The values of environment variables by name. -/
abbrev Environment := String → Option String

/-- The settings of one run. -/
structure Settings where
  databaseAddress : String
  bracketRate : UInt32
  shortSales : ShortSales
  accounts : Accounts
  deriving DecidableEq, Repr

/-- Why the environment does not make settings. -/
inductive SettingsError where
  | bracket (cause : IntegerError)
  | shortSales (raw : String)
  deriving DecidableEq, Repr

namespace Settings

/-- The names of the variables that settings are made from. -/
def variableNames : List String := ["DATABASE_URL", "TAX_BRACKET", "SHORT_SALE_MODE", "ACCOUNTS"]

/-- The address used where none is set. -/
def defaultAddress : String := "sqlite:ledger.db"

/-- A tax rate in percent. -/
def readPercent (raw : String) : Except IntegerError UInt32 :=
  (IntegerBounds.unsigned32.read raw).map fun n => UInt32.ofNat n.toNat

/-- The bracket rate of `TAX_BRACKET`. -/
def bracketOf (environment : Environment) : Except SettingsError UInt32 :=
  match environment "TAX_BRACKET" with
  | none => .ok Tax.Bracket.defaultRate
  | some raw => (readPercent (Text.trim raw)).mapError .bracket

/-- The policy of `SHORT_SALE_MODE`. -/
def shortSalesOf (environment : Environment) : Except SettingsError ShortSales :=
  match environment "SHORT_SALE_MODE" with
  | none => .ok .proceedsAsPnl
  | some raw =>
    match ShortSales.ofLabel? raw with
    | some policy => .ok policy
    | none => .error (.shortSales raw)

/-- The accounts of `ACCOUNTS`, names divided by commas. Without the variable all accounts
may be seen; with an empty one none may. -/
def accountsOf (environment : Environment) : Accounts :=
  match environment "ACCOUNTS" with
  | none => .all
  | some raw => .only (((Text.splitCommas raw).map Text.trim).filter (· != ""))

/-- The settings that the environment makes. -/
def ofEnvironment (environment : Environment) : Except SettingsError Settings := do
  let bracketRate ← bracketOf environment
  let shortSales ← shortSalesOf environment
  return {
    databaseAddress := (environment "DATABASE_URL").getD defaultAddress
    bracketRate, shortSales
    accounts := accountsOf environment }

end Settings

end TradeLedger
