import TradeLedger.Binary64.Text
import TradeLedger.Number.Integer
import TradeLedger.Store.Error
import TradeLedger.Store.Numeral

/-! Cells of the ledger's tables. A column prefers text, real numbers or whole numbers and
turns what it is given into its kind where nothing is lost; what it cannot turn it keeps,
and a reader of the column then fails. -/
namespace TradeLedger.Store

/-- A value handed to a column. Raw bytes and text that is not in UTF-8 are left out, so a column
of text always holds text that can be read. -/
inductive Value where
  | null
  | integer (n : Int)
  | real (x : Binary64)
  | text (text : String)
  deriving DecidableEq, Repr

/-- A cell of a column of text; it holds text or nothing. -/
abbrev TextCell := Option String

/-- The cell of a column of text that is given a value. -/
def TextCell.ofValue : Value → TextCell
  | .null => none
  | .integer n => some (toString n)
  | .real .nan => none
  | .real x => some x.toText
  | .text text => some text

/-- A cell of a column of real numbers. -/
inductive RealCell where
  | null
  | real (x : Binary64)
  | text (text : String)
  deriving DecidableEq, Repr

namespace RealCell

/-- The cell that holds a number; what is not a number is stored as nothing, and a zero
loses its sign. -/
def ofBinary64 : Binary64 → RealCell
  | .nan => .null
  | x => .real x.withoutZeroSign

/-- The cell that is given a value. Text that writes a number becomes that number. -/
def ofValue : Value → RealCell
  | .null => .null
  | .integer n => ofBinary64 (Binary64.ofInt n)
  | .real x => ofBinary64 x
  | .text written =>
    match Numeral.ofText? written with
    | some numeral => ofBinary64 numeral.toBinary64
    | none => .text written

/-- The number in a cell, if it holds one; text is a mismatch. -/
def read (column : String) : RealCell → Except Error (Option Binary64)
  | .null => .ok none
  | .real x => .ok (some x)
  | .text _ => .error (.mismatch column .real .text)

end RealCell

/-- A cell of a column of whole numbers. -/
inductive IntegerCell where
  | null
  | integer (n : Int)
  | real (x : Binary64)
  | text (text : String)
  deriving DecidableEq, Repr

namespace IntegerCell

/-- The whole number that a binary number is, if it is one and has fewer than 63 bits. -/
def whole? : Binary64 → Option Int
  | .finite negative word =>
    let units := Binary64.units word
    let magnitude := units / Binary64.unitsPerOne
    if units % Binary64.unitsPerOne = 0 ∧ magnitude < IntegerBounds.signed64.greatest then
      some (if negative then -(magnitude : Int) else magnitude)
    else none
  | _ => none

/-- The cell that holds a number, as a whole one if it is one. -/
def ofBinary64 : Binary64 → IntegerCell
  | .nan => .null
  | x =>
    match whole? x with
    | some n => .integer n
    | none => .real x

/-- The cell that is given a value. Text that writes a number becomes that number. -/
def ofValue : Value → IntegerCell
  | .null => .null
  | .integer n => .integer n
  | .real x => ofBinary64 x
  | .text written =>
    match Numeral.ofText? written with
    | none => .text written
    | some numeral =>
      match numeral.whole?.filter fun n =>
          IntegerBounds.signed64.least ≤ n ∧ n ≤ IntegerBounds.signed64.greatest with
      | some n => .integer n
      | none => ofBinary64 numeral.toBinary64

/-- The whole number in a cell, if it holds one; any other value is a mismatch. -/
def read (column : String) : IntegerCell → Except Error (Option Int)
  | .null => .ok none
  | .integer n => .ok (some n)
  | .real _ => .error (.mismatch column .integer .real)
  | .text _ => .error (.mismatch column .integer .text)

end IntegerCell

end TradeLedger.Store
