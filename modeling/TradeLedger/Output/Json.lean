/-! Reports as JSON text: two spaces of indentation for each level, one entry to a line. -/
namespace TradeLedger

/-- A JSON value as reports use it; amounts are texts, so all numbers are whole. -/
inductive Json where
  | null
  | bool (value : Bool)
  | integer (value : Int)
  | text (value : String)
  | list (items : List Json)
  | object (fields : List (String × Json))
  deriving Repr

namespace Json

/-- The text of a value that may be missing. -/
def ofOption {α : Type} (encode : α → Json) : Option α → Json
  | some value => encode value
  | none => .null

/-- The list of encoded values. -/
def ofList {α : Type} (encode : α → Json) (values : List α) : Json :=
  .list (values.map encode)

/-- A number of things. -/
def ofNat (n : Nat) : Json := .integer n

/-- Two hexadecimal digits of a code below 256. -/
def hexPair (code : Nat) : List Char :=
  [Nat.digitChar (code / 16), Nat.digitChar (code % 16)]

/-- A character inside quotes. -/
def escape (c : Char) : List Char :=
  match c with
  | '"' => ['\\', '"']
  | '\\' => ['\\', '\\']
  | '\n' => ['\\', 'n']
  | '\r' => ['\\', 'r']
  | '\t' => ['\\', 't']
  | c =>
    if c.toNat = 8 then ['\\', 'b']
    else if c.toNat = 12 then ['\\', 'f']
    else if c.toNat < 0x20 then ['\\', 'u', '0', '0'] ++ hexPair c.toNat
    else [c]

/-- A text in quotes. -/
def quoted (text : String) : String :=
  String.ofList ('"' :: text.toList.flatMap escape ++ ['"'])

/-- The start of a line at a level of indentation. -/
def newLine (level : Nat) : String :=
  String.ofList ('\n' :: List.replicate (2 * level) ' ')

/-- Entries between brackets, each on a line of its own. -/
def block (opening closing : String) (level : Nat) (entries : List String) : String :=
  if entries.isEmpty then opening ++ closing
  else
    opening ++ newLine (level + 1) ++ (("," ++ newLine (level + 1)).intercalate entries) ++
      newLine level ++ closing

mutual

/-- The text of a value whose first line stands at a level of indentation. -/
def render (level : Nat) : Json → String
  | .null => "null"
  | .bool value => if value then "true" else "false"
  | .integer value => toString value
  | .text value => quoted value
  | .list items => block "[" "]" level (renderItems (level + 1) items)
  | .object fields => block "\x7b" "\x7d" level (renderFields (level + 1) fields)

/-- The texts of the items of a list. -/
def renderItems (level : Nat) : List Json → List String
  | [] => []
  | item :: items => render level item :: renderItems level items

/-- The texts of the fields of an object. -/
def renderFields (level : Nat) : List (String × Json) → List String
  | [] => []
  | (key, value) :: fields =>
    (quoted key ++ ": " ++ render level value) :: renderFields level fields

end

/-- The text of a value. -/
def toText (value : Json) : String := render 0 value

end Json

end TradeLedger
