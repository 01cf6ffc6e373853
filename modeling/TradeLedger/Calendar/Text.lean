import TradeLedger.Calendar.Date
import TradeLedger.Text.Basic

/-! Dates as text. A date is written as year, month and day with dashes between, the year
with four digits, or with a sign and at least four outside 0 to 9999. It is read from that
layout and from month/day/year and year/month/day; a time of day after it is passed over. -/
namespace TradeLedger.Date

/-- The digits of a number, with zeros in front up to a width. -/
def padded (width n : Nat) : List Char :=
  let digits := Nat.toDigits 10 n
  List.replicate (width - digits.length) '0' ++ digits

/-- The written form of a year. -/
def yearChars (year : Int) : List Char :=
  if year < 0 then '-' :: padded 4 year.natAbs
  else if 9999 < year then '+' :: padded 4 year.natAbs
  else padded 4 year.natAbs

/-- The written form of a date. -/
def toText (date : Date) : String :=
  let civil := date.civil
  String.ofList
    (yearChars civil.year ++ '-' :: padded 2 civil.month ++ '-' :: padded 2 civil.day)

instance : ToString Date := ⟨toText⟩

/-- One part of a layout: a number or a mark between numbers. -/
inductive Piece where
  | year
  | month
  | day
  | mark (c : Char)
  deriving DecidableEq, Repr

/-- Year, month and day with dashes. -/
def dashed : List Piece := [.year, .mark '-', .month, .mark '-', .day]

/-- Month, day and year with slashes. -/
def monthFirst : List Piece := [.month, .mark '/', .day, .mark '/', .year]

/-- Year, month and day with slashes. -/
def yearFirst : List Piece := [.year, .mark '/', .month, .mark '/', .day]

/-- The layouts in the order in which they are tried. -/
def layouts : List (List Piece) := [dashed, monthFirst, yearFirst]

/-- The number written by leading digits, at least one, and what follows it. -/
def digits? (digits rest : List Char) : Option (Nat × List Char) :=
  if digits.isEmpty then none else some (Nat.ofDigitChars 10 digits 0, rest)

/-- The number at the start, of at most `most` digits. -/
def short? (most : Nat) (cs : List Char) : Option (Nat × List Char) :=
  let digits := (cs.take most).takeWhile Char.isDigit
  digits? digits (cs.drop digits.length)

/-- The number at the start, of any length. -/
def long? (cs : List Char) : Option (Nat × List Char) :=
  digits? (cs.takeWhile Char.isDigit) (cs.dropWhile Char.isDigit)

/-- The year at the start: of at most four digits, or of any length after a sign. -/
def year? : List Char → Option (Int × List Char)
  | '-' :: rest => (long? rest).map fun (year, rest) => (-(year : Int), rest)
  | '+' :: rest => (long? rest).map fun (year, rest) => ((year : Int), rest)
  | cs => (short? 4 cs).map fun (year, rest) => ((year : Int), rest)

/-- The parts of a date read by a layout that takes up the whole text. Blanks may stand
before a number but not before a mark. -/
def readPieces : List Piece → List Char → Civil → Option Civil
  | [], [], civil => some civil
  | [], _ :: _, _ => none
  | .year :: pieces, cs, civil => do
    let (year, rest) ← year? (cs.dropWhile Text.isBlank)
    readPieces pieces rest { civil with year }
  | .month :: pieces, cs, civil => do
    let (month, rest) ← short? 2 (cs.dropWhile Text.isBlank)
    readPieces pieces rest { civil with month }
  | .day :: pieces, cs, civil => do
    let (day, rest) ← short? 2 (cs.dropWhile Text.isBlank)
    readPieces pieces rest { civil with day }
  | .mark _ :: _, [], _ => none
  | .mark m :: pieces, c :: rest, civil =>
    if c = m then readPieces pieces rest civil else none

/-- The date that a text writes in one layout. -/
def ofLayout? (layout : List Piece) (cs : List Char) : Option Date := do
  ofCivil? (← readPieces layout cs ⟨0, 0, 0⟩)

/-- The date that a text writes in the first layout that fits. -/
def ofLayouts? (cs : List Char) : Option Date :=
  layouts.findSome? fun layout => ofLayout? layout cs

/-- The characters that take up the first `bytes` bytes in UTF-8, if a character ends
there. -/
def bytePrefix? : Nat → List Char → Option (List Char)
  | 0, _ => some []
  | _ + 1, [] => none
  | bytes + 1, c :: rest =>
    if c.utf8Size ≤ bytes + 1 then
      (bytePrefix? (bytes + 1 - c.utf8Size) rest).map (c :: ·)
    else
      none

/-- How many bytes a date of ten characters takes up. -/
def dateBytes : Nat := 10

/-- The date that a text writes, with blanks around it passed over. The whole text is
tried first, then its first ten bytes. -/
def ofText? (text : String) : Option Date :=
  let cs := Text.trimChars text.toList
  (ofLayouts? cs).or (ofLayouts? ((bytePrefix? dateBytes cs).getD cs))

end TradeLedger.Date
