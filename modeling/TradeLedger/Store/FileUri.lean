import TradeLedger.Store.Address

/-! Names of files as the database engine takes them. A name that begins with `file:` is a URI:
it may go through the local machine's name, it ends at a hash sign, percent signs stand for
bytes in it, and options follow a question mark. Any other name is taken as it is. -/
namespace TradeLedger.Store

/-- A name of a file and the options that came with it. -/
structure FileUri where
  path : List UInt8
  /-- Whether the name is a URI. -/
  isUri : Bool
  options : List (List UInt8 × List UInt8)
  deriving DecidableEq, Repr

namespace FileUri

/-- A part of a URI; a byte of zero ends it early. -/
def decode (bytes : List UInt8) : List UInt8 :=
  (Text.percentDecode bytes).takeWhile (· != 0)

/-- The URI without the name of the machine, which must be the local one. -/
def dropMachine (bytes : List UInt8) : Except Error (List UInt8) :=
  let marker := Text.bytesOf "//"
  if marker.isPrefixOf bytes then
    let rest := bytes.drop marker.length
    let machine := rest.takeWhile (· != Text.byteOf '/')
    if machine = [] ∨ machine = Text.bytesOf "localhost" then .ok (rest.drop machine.length)
    else .error (.foreignMachine (Text.lossyText machine))
  else .ok bytes

/-- The options after the question mark; one without a name does not count. -/
def optionsOf (bytes : List UInt8) : List (List UInt8 × List UInt8) :=
  ((Text.fieldsBy (Text.byteOf '&') bytes).map fun option =>
    let (name, value) := Text.splitFirst '=' option
    (decode name, decode value)).filter (·.1 != [])

/-- The URI after `file:`. -/
def ofUri (bytes : List UInt8) : Except Error FileUri := do
  let bytes ← dropMachine bytes
  let (path, options) := Text.splitFirst '?' (Text.splitFirst '#' bytes).1
  return ⟨decode path, true, optionsOf options⟩

/-- The name that a text of bytes is. -/
def ofName (name : List UInt8) : Except Error FileUri :=
  let scheme := Text.bytesOf "file:"
  if scheme.isPrefixOf name then ofUri (name.drop scheme.length) else .ok ⟨name, false, []⟩

/-- The name in an address, with what the address asks for besides as options. With such
options it is put into a URI as a whole, even if it looks like one itself, and a space in the
name of a file system becomes a plus sign. -/
def ofAddress (address : Address) : Except Error FileUri :=
  let name := Text.bytesOf address.name
  let immutable := if address.immutable then [("immutable", "true")] else []
  let fileSystem := address.fileSystem.toList.map fun fileSystem => ("vfs", fileSystem)
  match immutable ++ fileSystem with
  | [] => if name.contains 0 then .error .nulInName else ofName name
  | options =>
    let ended (bytes : List UInt8) : List UInt8 := bytes.takeWhile (· != 0)
    let plus (byte : UInt8) : UInt8 := if byte = Text.byteOf ' ' then Text.byteOf '+' else byte
    .ok ⟨ended name, true, options.map fun (key, value) =>
      (Text.bytesOf key, ended ((Text.bytesOf value).map plus))⟩

end FileUri

end TradeLedger.Store
