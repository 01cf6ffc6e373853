import TradeLedger.Binary64.Extended
import TradeLedger.Number.Rounding

/-! Text that a numeric column takes for a number: blanks, a sign, digits with at most one
point, an optional power of ten, blanks. -/
namespace TradeLedger.Store

-- Powers mean the same under every import.
attribute [local instance (high)] instPowNat

/-- A number as written: the digits without the point, the power of ten that puts it back,
and whether there was neither point nor power. -/
structure Numeral where
  negative : Bool
  digits : Nat
  exponent : Int
  isWhole : Bool
  deriving DecidableEq, Repr

namespace Numeral

/-- The blanks that may surround a number. -/
def isSpace (c : Char) : Bool := c == ' ' || (9 ≤ c.toNat && c.toNat ≤ 13)

/-- A sign at the start, and what follows it. -/
def splitSign : List Char → Bool × List Char
  | '-' :: rest => (true, rest)
  | '+' :: rest => (false, rest)
  | cs => (false, cs)

/-- The power of ten that digits write; past four digits it is only known to be large. -/
def readPower (digits : List Char) : Nat :=
  digits.foldl (fun power c =>
    if power < 10000 then power * 10 + (c.toNat - '0'.toNat) else 10000) 0

/-- The power of ten after the mantissa, and whether there was none; nothing but blanks may
follow. -/
def exponent? (cs : List Char) : Option (Int × Bool) :=
  match cs with
  | c :: rest =>
    if c = 'e' ∨ c = 'E' then
      let (negative, rest) := splitSign rest
      let digits := rest.takeWhile Char.isDigit
      let power : Int := readPower digits
      if digits.isEmpty || !(rest.dropWhile Char.isDigit).all isSpace then none
      else some (if negative then -power else power, false)
    else if cs.all isSpace then some (0, true)
    else none
  | [] => some (0, true)

/-- The number that a text writes, if it is one. -/
def ofText? (text : String) : Option Numeral := do
  let (negative, cs) := splitSign (text.toList.dropWhile isSpace)
  let whole := cs.takeWhile Char.isDigit
  let rest := cs.dropWhile Char.isDigit
  let (places, rest, noPoint) :=
    match rest with
    | '.' :: rest => (rest.takeWhile Char.isDigit, rest.dropWhile Char.isDigit, false)
    | _ => ([], rest, true)
  let (power, noPower) ← exponent? rest
  if whole.isEmpty && places.isEmpty then none
  else
    some {
      negative
      digits := Nat.ofDigitChars 10 (whole ++ places) 0
      exponent := power - places.length
      isWhole := noPoint && noPower }

/-- The digits that count and the power of ten after them: no more digits than fill 64 bits,
with as many zeros at their end as the power of ten allows, and none that it does not
need. -/
def significant (numeral : Numeral) : Nat × Int :=
  let (digits, dropped) := leadingDigits ((2 ^ (64 : Nat) - 10) / 10) numeral.digits
  match numeral.exponent + dropped with
  | .ofNat power =>
    let (digits, power) := appendZeros ((2 ^ (64 : Nat) - 1) / 10) digits power
    (digits, power)
  | .negSucc places =>
    let (digits, places) := dropTrailingZeros digits (places + 1)
    (digits, -places)

/-- The binary number that a text is taken for. It is the one nearest to the number written
as far as the working precision tells. -/
def toBinary64 (numeral : Numeral) : Binary64 :=
  if numeral.digits = 0 then .ofRatio numeral.negative 0 1
  else
    let (digits, power) := numeral.significant
    ((Extended.ofNat digits).timesPowerOfTen power).toBinary64 numeral.negative

/-- The number written, if it is written as a whole number. -/
def whole? (numeral : Numeral) : Option Int :=
  if numeral.isWhole then
    some (if numeral.negative then -(numeral.digits : Int) else numeral.digits)
  else none

end Numeral

end TradeLedger.Store
