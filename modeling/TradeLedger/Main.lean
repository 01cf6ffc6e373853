import Std.Time
import TradeLedger.CommandLine.Run
import TradeLedger.Store.File

/-! The program on the console: it reads the environment, the clock and the file that the
session names, and prints the report, or on the error stream why there is none. -/
namespace TradeLedger

/-- The day by the clock, where the clock is. -/
def clockDay : IO Date := do
  let day ← Std.Time.PlainDate.now
  match Date.ofCivil? ⟨day.year.toInt, day.month.toNat, day.day.toNat⟩ with
  | some date => return date
  | none => throw (.userError "the clock shows no day of the calendar")

/-- The variables that settings are made from. -/
def currentEnvironment : IO Environment := do
  let values ← Settings.variableNames.mapM fun name => return (name, ← IO.getEnv name)
  return fun name => (values.lookup name).join

/-- The text of a path, if all its names are text. -/
def pathText? (path : Store.Path) : Option String := do
  let names ← path.mapM fun name => (Text.ofUtf8 name).toOption
  return "/" ++ "/".intercalate names

/-- Whether a path leads to a folder. -/
def isFolder (path : Store.Path) : IO Bool := do
  match pathText? path with
  | some text => return ← ((← IO.currentDir) / text).isDir
  | none => return false

/-- The bytes of the file that a path leads to, or else whether there is none. -/
def fileBytes (path : Store.Path) : IO (Except Store.Error (Option ByteArray)) := do
  match pathText? path with
  | none => return .ok none
  | some text =>
    let file := (← IO.currentDir) / text
    if ← file.pathExists then
      match ← (IO.FS.readBinFile file).toBaseIO with
      | .ok bytes => return .ok (some bytes)
      | .error _ => return .error .cannotOpen
    else return .ok none

/-- The disk as far as an address reaches into it. -/
def diskAt (address : String) : IO (Except Store.Error Store.Disk) := do
  let bare : Store.Disk := ⟨.ofText (← IO.currentDir).toString, [], []⟩
  match Store.Location.ofAddress address with
  | .ok ⟨.file name, _, _⟩ =>
    match bare.resolve name with
    | .error _ => return .ok bare
    | .ok path =>
      if ← isFolder path then return .ok { bare with folders := [path] }
      let folders := if ← isFolder path.dropLast then [path.dropLast] else []
      match ← fileBytes path with
      | .error cause => return .error cause
      | .ok none => return .ok { bare with folders }
      | .ok (some bytes) =>
        return (Store.Database.ofBytes bytes).map fun database =>
          { bare with folders, files := [(path, database)] }
  | _ => return .ok bare

/-- What a run with these arguments prints. -/
def printout (arguments : List String) : IO (Except Failure Printout) := do
  match Session.ofArguments arguments (← currentEnvironment) (← clockDay) with
  | .error failure => return .error failure
  | .ok session =>
    match ← diskAt session.databaseAddress with
    | .error cause => return .error (.cannotOpen session.databaseAddress cause)
    | .ok disk => return session.report disk

end TradeLedger

open TradeLedger in
/-- Prints the report that the arguments ask for. -/
def main (arguments : List String) : IO UInt32 := do
  match ← printout ("dashboard-cli" :: arguments) with
  | .ok printout =>
    IO.println printout.toJson.toText
    return 0
  | .error failure =>
    IO.eprintln ("Error: " ++ failure.message)
    return failure.exitCode
