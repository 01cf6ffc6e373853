/-! Texts as importers write them: blanks around them, the case of the letters A to Z, and
fields between commas. -/
namespace TradeLedger.Text

/-! ## Blanks

The class of blank characters is the Unicode property White_Space: it holds the no-break space
and the ideographic space, but neither the zero-width space nor the byte-order mark. -/

/-- The characters with the property White_Space. -/
def isBlank (c : Char) : Bool :=
  let code := c.toNat
  (0x09 ≤ code && code ≤ 0x0D) || code == 0x20 || code == 0x85 || code == 0xA0 ||
    code == 0x1680 || (0x2000 ≤ code && code ≤ 0x200A) || code == 0x2028 ||
    code == 0x2029 || code == 0x202F || code == 0x205F || code == 0x3000

/-- The characters without those that are blank at either end. -/
def trimChars (cs : List Char) : List Char :=
  ((cs.dropWhile isBlank).reverse.dropWhile isBlank).reverse

/-- The text without the blanks at either end. -/
def trim (text : String) : String :=
  String.ofList (trimChars text.toList)

/-! ## Labels

Labels are matched without regard to the case of A to Z alone; every other character stands for
itself. -/

/-- The text with A to Z in lower case. -/
def lowerAscii (text : String) : String :=
  String.ofList (text.toList.map Char.toLower)

/-- Whether two texts agree up to the case of the letters A to Z. -/
def sameIgnoringAsciiCase (a b : String) : Bool :=
  lowerAscii a == lowerAscii b

/-- The form in which labels are compared: trimmed, with A to Z in lower case. -/
def label (text : String) : String :=
  lowerAscii (trim text)

/-! ## Fields

What stands between two neighbouring commas is one field, so a text with `n` commas has `n + 1`
fields. -/

/-- The fields of a list divided by `mark`, in order; there is always one. -/
def fieldsBy {α : Type} [DecidableEq α] (mark : α) : List α → List (List α)
  | [] => [[]]
  | x :: rest =>
    if x = mark then [] :: fieldsBy mark rest
    else
      match fieldsBy mark rest with
      | [] => [[x]]
      | field :: fields => (x :: field) :: fields

/-- The fields of a text divided by commas. -/
def splitCommas (text : String) : List String :=
  (fieldsBy ',' text.toList).map String.ofList

/-- One text that holds the fields with a comma between neighbours. -/
def joinCommas (fields : List String) : String :=
  ",".intercalate fields

end TradeLedger.Text
