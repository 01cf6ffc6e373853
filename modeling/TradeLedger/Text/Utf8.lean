import TradeLedger.Text.Basic

/-! Bytes as text in UTF-8, and bytes written with percent signs. A sequence of bytes falls into
pieces: characters, bytes that begin no character, and at its end perhaps a character that is cut
off. Text consists of characters alone; `lossyText` puts a replacement for every other piece. -/
namespace TradeLedger.Text

/-- The bytes of a text. -/
def bytesOf (text : String) : List UInt8 := text.toUTF8.toList

/-- The byte of one of the first 128 characters. -/
def byteOf (c : Char) : UInt8 := c.toNat.toUInt8

/-- A piece of a sequence of bytes. -/
inductive Utf8Piece where
  /-- A character of so many bytes. -/
  | char (c : Char) (length : Nat)
  /-- So many bytes that no character begins with, once the byte after them is known. -/
  | invalid (length : Nat)
  /-- The remaining bytes, which a character might begin with. -/
  | incomplete
  deriving DecidableEq, Repr

/-- The piece whose first `length` bytes give the code so far, with so many bytes owed, the
next of them between `low` and `high`. -/
def Utf8Piece.complete (length code low high : Nat) : (owed : Nat) → List UInt8 → Utf8Piece
  | 0, _ => .char (Char.ofNat code) length
  | _ + 1, [] => .incomplete
  | owed + 1, byte :: rest =>
    if low ≤ byte.toNat ∧ byte.toNat ≤ high then
      complete (length + 1) (code * 64 + byte.toNat % 64) 0x80 0xBF owed rest
    else .invalid length

/-- The piece that starts with a byte. After some first bytes the range of the second is
narrower, so that every character has one form and none is a surrogate. -/
def Utf8Piece.startingWith (byte : UInt8) (rest : List UInt8) : Utf8Piece :=
  let first := byte.toNat
  let more (code owed low high : Nat) : Utf8Piece := complete 1 code low high owed rest
  if first < 0x80 then more first 0 0x80 0xBF
  else if first < 0xC2 then .invalid 1
  else if first < 0xE0 then more (first % 32) 1 0x80 0xBF
  else if first = 0xE0 then more 0 2 0xA0 0xBF
  else if first = 0xED then more 0xD 2 0x80 0x9F
  else if first < 0xF0 then more (first % 16) 2 0x80 0xBF
  else if first = 0xF0 then more 0 3 0x90 0xBF
  else if first < 0xF4 then more (first % 8) 3 0x80 0xBF
  else if first = 0xF4 then more 4 3 0x80 0x8F
  else .invalid 1

/-- The pieces that bytes fall into. -/
def utf8Pieces : List UInt8 → List Utf8Piece
  | [] => []
  | byte :: rest =>
    match Utf8Piece.startingWith byte rest with
    | .char c length => .char c length :: utf8Pieces (rest.drop (length - 1))
    | .invalid length => .invalid length :: utf8Pieces (rest.drop (length - 1))
    | .incomplete => [.incomplete]
termination_by bytes => bytes.length
decreasing_by
  all_goals
    simp only [List.length_drop, List.length_cons]
    omega

/-- Why bytes are not text. -/
inductive Utf8Error where
  /-- From an index on, so many bytes begin no character. -/
  | invalid (index length : Nat)
  /-- At an index a character begins that is cut off. -/
  | incomplete (index : Nat)
  deriving DecidableEq, Repr

/-- The wording of an error. -/
def Utf8Error.message : Utf8Error → String
  | .invalid index length =>
    "invalid utf-8 sequence of " ++ toString length ++ " bytes from index " ++ toString index
  | .incomplete index => "incomplete utf-8 byte sequence from index " ++ toString index

/-- The characters of pieces that start at an index, if they are characters all. -/
def readPieces (index : Nat) : List Utf8Piece → Except Utf8Error (List Char)
  | [] => .ok []
  | .char c length :: rest => (readPieces (index + length) rest).map (c :: ·)
  | .invalid length :: _ => .error (.invalid index length)
  | .incomplete :: _ => .error (.incomplete index)

/-- The text that bytes are; the first piece that is no character is an error. -/
def ofUtf8 (bytes : List UInt8) : Except Utf8Error String :=
  (readPieces 0 (utf8Pieces bytes)).map String.ofList

/-- The text that bytes are, with a replacement character for each piece that is none. -/
def lossyText (bytes : List UInt8) : String :=
  String.ofList ((utf8Pieces bytes).map fun
    | .char c _ => c
    | .invalid _ | .incomplete => '\uFFFD')

/-! ## Percent signs

A percent sign and two hexadecimal digits stand for one byte, and any other percent sign for
itself. Forms are such texts, in which fields are divided by ampersands, a name from its value by an
equals sign, and a plus sign stands for a space. -/

/-- The value of a hexadecimal digit. -/
def hexDigit? (byte : UInt8) : Option UInt8 :=
  if byteOf '0' ≤ byte ∧ byte ≤ byteOf '9' then some (byte - byteOf '0')
  else if byteOf 'A' ≤ byte ∧ byte ≤ byteOf 'F' then some (byte - byteOf 'A' + 10)
  else if byteOf 'a' ≤ byte ∧ byte ≤ byteOf 'f' then some (byte - byteOf 'a' + 10)
  else none

/-- The byte that the first two of the bytes write as hexadecimal digits. -/
def hexPair? : List UInt8 → Option UInt8
  | high :: low :: _ => do return (← hexDigit? high) * 16 + (← hexDigit? low)
  | _ => none

/-- The bytes that a text with percent signs stands for. -/
def percentDecode : List UInt8 → List UInt8
  | [] => []
  | byte :: rest =>
    match if byte = byteOf '%' then hexPair? rest else none with
    | some decoded => decoded :: percentDecode (rest.drop 2)
    | none => byte :: percentDecode rest
termination_by bytes => bytes.length
decreasing_by
  all_goals
    simp only [List.length_drop, List.length_cons]
    omega

/-- The bytes before the first occurrence of a mark, and those after it. -/
def splitFirst (mark : Char) (bytes : List UInt8) : List UInt8 × List UInt8 :=
  (bytes.takeWhile (· != byteOf mark), (bytes.dropWhile (· != byteOf mark)).drop 1)

/-- A part of a form as text. -/
def formText (bytes : List UInt8) : String :=
  lossyText (percentDecode (bytes.map fun byte => if byte = byteOf '+' then byteOf ' ' else byte))

/-- The names and values of the fields of a form. -/
def formFields (bytes : List UInt8) : List (String × String) :=
  ((fieldsBy (byteOf '&') bytes).filter (· != [])).map fun field =>
    let (name, value) := splitFirst '=' field
    (formText name, formText value)

end TradeLedger.Text
