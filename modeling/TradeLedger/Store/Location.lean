import TradeLedger.Number.Integer
import TradeLedger.Store.FileUri

/-! Where an address leads: to the memory or to a file, and what may be done there. The options
of a file's name may ask for less than the address admits, but not for more. -/
namespace TradeLedger.Store

/-- The ways of opening a database. -/
inductive OpenMode where
  | readOnly
  /-- The file must exist. -/
  | readWrite
  /-- The file is made if it does not exist. -/
  | create
  deriving DecidableEq, Repr

/-- How much a way of opening a database admits. -/
def OpenMode.rank : OpenMode → Nat
  | .readOnly => 0
  | .readWrite => 1
  | .create => 2

/-- What the options of a file's name ask for. -/
structure Access where
  mode : OpenMode
  inMemory : Bool
  isShared : Bool
  fileSystem : Option (List UInt8)
  deriving DecidableEq, Repr

namespace Access

/-- Another way of opening the database. A database in memory may be opened in every way. -/
def setMode (access : Access) (mode : OpenMode) (name : String) : Except Error Access :=
  if access.inMemory ∨ mode.rank ≤ access.mode.rank then
    .ok { access with mode, inMemory := false }
  else .error (.modeNotAllowed name)

/-- The access with one option taken into account. -/
def setOption (access : Access) (key value : List UInt8) : Except Error Access :=
  let name := Text.lossyText value
  match Text.lossyText key, name with
  | "mode", "ro" => access.setMode .readOnly name
  | "mode", "rw" => access.setMode .readWrite name
  | "mode", "rwc" => access.setMode .create name
  | "mode", "memory" => .ok { access with mode := .create, inMemory := true }
  | "mode", _ => .error (.unknownMode name)
  | "cache", "private" => .ok { access with isShared := false }
  | "cache", "shared" => .ok { access with isShared := true }
  | "cache", _ => .error (.unknownCache name)
  | "vfs", _ => .ok { access with fileSystem := some value }
  | _, _ => .ok access

end Access

/-- The place of a database. -/
inductive Place where
  /-- The memory, where connections may share one database or have one each. -/
  | memory (isShared : Bool)
  /-- A file with a name, which may take it through folders. -/
  | file (name : List UInt8)
  deriving DecidableEq, Repr

/-- Where a database is and what may be done there. -/
structure Location where
  place : Place
  mode : OpenMode
  /-- Whether the database is taken never to change. -/
  immutable : Bool
  deriving DecidableEq, Repr

namespace Location

/-- The file systems that are known, but for the one in memory. -/
def fileSystems : List String := ["unix", "unix-none", "unix-dotfile", "unix-excl"]

/-- The file system that keeps its files in memory. -/
def memoryFileSystem : String := "memdb"

/-- Whether the value of an option affirms it: a word, or a number whose lowest eight bits are
not all zero. -/
def affirms (value : List UInt8) : Bool :=
  let text := (Text.lossyText value).toList.map Char.toLower
  let digits := text.takeWhile Char.isDigit
  if digits.isEmpty then
    ["on", "yes", "true"].contains (String.ofList text)
  else
    let number := Nat.ofDigitChars 10 digits 0
    (number : Int) ≤ IntegerBounds.signed32.greatest && number % 256 != 0

/-- Whether a name in the file system in memory is one that all connections have in common. -/
def isNamedFromRoot (path : List UInt8) : Bool :=
  path.head? == some (Text.byteOf '/') && 1 < path.length

/-- The location that a name with options leads to. Connections share a database in memory
only under a name. -/
def ofUri (access : Access) (uri : FileUri) : Except Error Location := do
  let access ← uri.options.foldlM (fun access (key, value) => access.setOption key value) access
  let fileSystem := access.fileSystem.map Text.lossyText
  let immutable := (uri.options.lookup (Text.bytesOf "immutable")).any affirms
  match fileSystem.filter fun name => name != memoryFileSystem && !fileSystems.contains name with
  | some name => .error (.unknownFileSystem name)
  | none =>
    if access.inMemory ∨ uri.path = Address.memoryName then
      return ⟨.memory (access.isShared && uri.isUri && uri.path != []), access.mode, false⟩
    else if uri.path = [] then return ⟨.memory false, access.mode, false⟩
    else if fileSystem = some memoryFileSystem then
      return ⟨.memory (access.isShared || isNamedFromRoot uri.path), access.mode, immutable⟩
    else return ⟨.file uri.path, access.mode, immutable⟩

/-- The location that an address leads to. A file that does not exist is made, unless the
address is one for reading only. -/
def ofAddress (text : String) : Except Error Location := do
  let address ← Address.ofText text
  let mode := if address.readOnly then .readOnly else .create
  ofUri ⟨mode, address.inMemory, address.isShared, none⟩ (← FileUri.ofAddress address)

end Location

end TradeLedger.Store
