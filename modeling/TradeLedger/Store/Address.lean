import TradeLedger.Store.Error
import TradeLedger.Text.Utf8

/-! Addresses of databases: a scheme, a name in which percent signs may stand for bytes, and
after a question mark the parameters, written as a form. -/
namespace TradeLedger.Store

/-- An address taken apart. -/
structure Address where
  name : String
  /-- Whether the database is in memory, whatever its name. -/
  inMemory : Bool
  /-- Whether its connections share what they hold. -/
  isShared : Bool
  /-- Whether it may only be read. -/
  readOnly : Bool
  /-- Whether its file is taken never to change. -/
  immutable : Bool
  /-- The file system that is asked for. -/
  fileSystem : Option String
  deriving DecidableEq, Repr

namespace Address

/-- The text without any number of copies of `head`, which is not empty, at its start. -/
def dropCopies (head : List UInt8) : List UInt8 → List UInt8
  | [] => []
  | byte :: rest =>
    if head.isPrefixOf (byte :: rest) then dropCopies head (rest.drop (head.length - 1))
    else byte :: rest
termination_by bytes => bytes.length
decreasing_by
  simp only [List.length_drop, List.length_cons]
  omega

/-- The name of the memory. -/
def memoryName : List UInt8 := Text.bytesOf ":memory:"

/-- The address of a file. -/
def ofFile (name : String) : Address where
  name
  inMemory := false
  isShared := false
  readOnly := false
  immutable := false
  fileSystem := none

/-- The address in memory with a name under which connections find it. -/
def shared (name : String) : Address :=
  { ofFile ("file:" ++ name) with inMemory := true, isShared := true }

/-- The address of a name without parameters. The name of the memory counts only as it is
written, without percent signs. -/
def ofName (written : List UInt8) : Except Text.Utf8Error Address :=
  if written = memoryName then .ok (shared "memory")
  else (Text.ofUtf8 (Text.percentDecode written)).map ofFile

/-- The address with one of its parameters taken into account. -/
def setParameter (address : Address) (key value : String) : Except Error Address :=
  match key, value with
  | "mode", "ro" => .ok { address with readOnly := true }
  | "mode", "rw" | "mode", "rwc" => .ok address
  | "mode", "memory" => .ok { address with inMemory := true, isShared := true }
  | "cache", "private" => .ok { address with isShared := false }
  | "cache", "shared" => .ok { address with isShared := true }
  | "immutable", "true" | "immutable", "1" => .ok { address with immutable := true }
  | "immutable", "false" | "immutable", "0" => .ok { address with immutable := false }
  | "vfs", fileSystem => .ok { address with fileSystem := some fileSystem }
  | "mode", _ | "cache", _ | "immutable", _ => .error (.unknownValue key value)
  | _, _ => .error (.unknownParameter key)

/-- The address that a text writes. -/
def ofText (text : String) : Except Error Address := do
  let bytes := dropCopies (Text.bytesOf "sqlite:")
    (dropCopies (Text.bytesOf "sqlite://") (Text.bytesOf text))
  let (name, parameters) := Text.splitFirst '?' bytes
  let address ← (ofName name).mapError .notText
  (Text.formFields parameters).foldlM
    (fun address (key, value) => address.setParameter key value) address

end Address

end TradeLedger.Store
