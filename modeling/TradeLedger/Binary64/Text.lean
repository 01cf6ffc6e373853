import TradeLedger.Binary64.Extended

/-! The text that a number takes in a column of text: up to fifteen significant digits,
a half rounding up, without zeros at the end but with at least one digit after the point;
beyond 10^15 and below 10^-4 with a power of ten. -/
namespace TradeLedger.Binary64

-- Powers mean the same under every import.
attribute [local instance (high)] instPowNat

/-- The number of significant digits. -/
def textDigits : Nat := 15

/-- A number on its way to another power of ten: `value` times `10 ^ power`. -/
structure Scaled where
  value : Extended
  power : Int

/-- The value brought `steps` powers of ten up as long as it is not in range; twenty times are
more than any number needs. -/
def Scaled.bring (isOut : Extended → Bool) (steps : Int) (number : Scaled) : Scaled :=
  Nat.repeat (fun number : Scaled =>
    if isOut number.value then ⟨number.value.mul (.powerOfTen steps), number.power - steps⟩
    else number) 20 number

/-- The number with a value of 18 or 19 digits before the point. -/
def Scaled.normalize (number : Scaled) : Scaled :=
  let isBelow (power : Int) (a : Extended) : Bool := !decide (.powerOfTen power ≤ a)
  let isAbove (power : Int) (a : Extended) : Bool := decide (.powerOfTen power ≤ a)
  if isAbove 19 number.value then
    ((number.bring (isAbove 119) (-100)).bring (isAbove 29) (-10)).bring (isAbove 19) (-1)
  else
    ((number.bring (isBelow (-97)) 100).bring (isBelow 7) 10).bring (isBelow 17) 1

/-- The significant digits of the positive number with this word and the power of ten of the
first. What the working precision has past its 18 or 19 digits is cut off before the digits
are rounded. -/
def significantDigits (word : Nat) : List Char × Int :=
  let number := (Scaled.mk (.ofWord word) 0).normalize
  let whole := number.value.significand * 2 ^ number.value.exponent.toNat /
    2 ^ (-number.value.exponent).toNat
  let excess := (Nat.toDigits 10 whole).length - textDigits
  let digits := Nat.toDigits 10 ((2 * whole + 10 ^ excess) / (2 * 10 ^ excess))
  (digits.take textDigits, number.power + excess + (digits.length - 1))

/-- The digits without zeros at their end, but at least one digit. -/
def shortenDigits (digits : List Char) : List Char :=
  match (digits.reverse.dropWhile (· == '0')).reverse with
  | [] => ['0']
  | kept => kept

/-- Digits with a power of ten: one digit, the point, the rest, and a signed exponent of
at least two digits. -/
def exponentText (digits : List Char) (exponent : Int) : List Char :=
  let sign := if exponent < 0 then '-' else '+'
  let power := Nat.toDigits 10 exponent.natAbs
  digits.take 1 ++ '.' :: shortenDigits (digits.drop 1) ++
    'e' :: sign :: List.replicate (2 - power.length) '0' ++ power

/-- Digits with the point at its place. -/
def positionalText (digits : List Char) (exponent : Int) : List Char :=
  if exponent < 0 then
    '0' :: '.' :: shortenDigits (List.replicate (exponent.natAbs - 1) '0' ++ digits)
  else
    digits.take (exponent.toNat + 1) ++ '.' :: shortenDigits (digits.drop (exponent.toNat + 1))

/-- The text of a number in a column of text; a zero has no sign. -/
def toText : Binary64 → String
  | .nan => ""
  | .infinite negative => if negative then "-Inf" else "Inf"
  | .finite negative word =>
    if word.val = 0 then "0.0"
    else
      let (digits, exponent) := significantDigits word
      let text :=
        if exponent < -4 ∨ (textDigits : Int) ≤ exponent then exponentText digits exponent
        else positionalText digits exponent
      String.ofList (if negative then '-' :: text else text)

end TradeLedger.Binary64
