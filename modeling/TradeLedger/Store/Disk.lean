import TradeLedger.Store.Database
import TradeLedger.Store.Location

/-! The disk: databases in files, files in folders. Names are taken from the working folder
unless they begin at the root; a step up takes back the step before it, whether or not that
one led anywhere. -/
namespace TradeLedger.Store

/-- The names that lead from the root of the disk to a file or a folder. -/
abbrev Path := List (List UInt8)

/-- The steps that a name writes, with slashes between them. -/
def pathSteps (name : List UInt8) : List (List UInt8) := Text.fieldsBy (Text.byteOf '/') name

/-- The path that a name of the whole disk writes. -/
def Path.ofText (text : String) : Path := (pathSteps (Text.bytesOf text)).filter (· != [])

/-- How long the name of a path is, with a slash before each of its steps. -/
def Path.size (path : Path) : Nat :=
  path.foldl (fun size name => size + name.length + 1) 0

/-- The databases in files, and the folders. -/
structure Disk where
  workingFolder : Path
  /-- The folders besides the working folder; what leads to one is a folder too. -/
  folders : List Path
  files : List (Path × Database)

namespace Disk

/-- The database in a file. -/
def find? (disk : Disk) (path : Path) : Option Database :=
  (disk.files.find? (·.1 == path)).map (·.2)

/-- Whether a path leads to a folder. -/
def isFolder (disk : Disk) (path : Path) : Bool :=
  (disk.workingFolder :: disk.folders).any (path.isPrefixOf ·)

/-- The longest name of one step. -/
def longestName : Nat := 255

/-- The longest name of a database, which leaves room for that of its journal. -/
def longestDatabaseName : Nat := longestName - "-journal".length

/-- The length that the name of a path must stay below. -/
def pathLimit : Nat := 512

/-- The path one step on. -/
def step (disk : Disk) (path : Path) (name : List UInt8) : Except Error Path :=
  if name = [] ∨ name = Text.bytesOf "." then .ok path
  else if name = Text.bytesOf ".." then .ok path.dropLast
  else
    let next := path ++ [name]
    if longestName < name.length ∨ pathLimit ≤ next.size ∨ (disk.find? path).isSome then
      .error .cannotOpen
    else .ok next

/-- The path that a name leads along. -/
def resolve (disk : Disk) (name : List UInt8) : Except Error Path :=
  let start := if name.head? = some (Text.byteOf '/') then [] else disk.workingFolder
  (pathSteps name).foldlM disk.step start

/-- The database in a file that does not exist yet, which is empty. A file that never changes
can be made, but not filled. -/
def make (disk : Disk) (location : Location) (path : Path) : Except Error Database :=
  if location.mode ≠ .create ∨ !disk.isFolder path.dropLast then .error .cannotOpen
  else if location.immutable then .error .readOnly
  else if longestDatabaseName < (path.getLast?.getD []).length then .error .cannotOpen
  else .ok ∅

/-- Whether a part occurs in a text of bytes. -/
def occursIn (part : List UInt8) : List UInt8 → Bool
  | [] => part.isEmpty
  | byte :: rest => part.isPrefixOf (byte :: rest) || occursIn part rest

/-- Whether an address is opened by a single connection; it is if it contains the name of the
memory. -/
def hasOneConnection (address : String) : Bool :=
  occursIn Address.memoryName (Text.bytesOf address)

/-- The database at an address. The tables are made by one connection after the other: a
database in memory that they do not share lacks the table that the next one needs, and a file
that one of them makes may stand in the way of the next. -/
def openAt (disk : Disk) (address : String) : Except Error Database := do
  let location ← Location.ofAddress address
  match location.place with
  | .memory isShared =>
    if location.mode = .readOnly ∨ location.immutable then .error .readOnly
    else if isShared || hasOneConnection address then .ok ∅
    else .error (.missingTable LineRow.table)
  | .file name =>
    let path ← disk.resolve name
    if path = [] then .error .cannotOpen
    else if disk.isFolder path then
      if location.mode = .readOnly then .error .cannotRead else .error .cannotOpen
    else
      match disk.find? path with
      | some database => .ok database
      | none =>
        let database ← disk.make location path
        unless hasOneConnection address do
          discard ({ disk with files := (path, database) :: disk.files }.resolve name)
        return database

end Disk

end TradeLedger.Store
