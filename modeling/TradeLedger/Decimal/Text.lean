import TradeLedger.Decimal.Arithmetic
import TradeLedger.Number.Rounding

/-! Decimals as text. A decimal is written with all its places and at least one digit
before the point. It is read back from an optional sign and digits with at most one
point among them, where underscores may divide digits, or from such a text followed by
`e` and a power of ten. Digits after the point that do not fit round those that do, a half
going up. -/
namespace TradeLedger.Decimal

-- Powers mean the same under every import.
attribute [local instance (high)] instPowNat

/-- The digits of the magnitude, with zeros in front so that one stands before the point. -/
def paddedDigits (a : Decimal) : List Char :=
  let digits := Nat.toDigits 10 a.magnitude
  List.replicate (a.scale + 1 - digits.length) '0' ++ digits

/-- The written form of a decimal. -/
def toText (a : Decimal) : String :=
  let digits := a.paddedDigits
  let whole := digits.take (digits.length - a.scale)
  let places := digits.drop (digits.length - a.scale)
  let point := if a.scale = 0 then [] else ['.']
  let sign := if a.negative then ['-'] else []
  String.ofList (sign ++ whole ++ point ++ places)

instance : ToString Decimal := ⟨toText⟩

/-- The digits before and after the point; underscores may stand anywhere after the first
digit. -/
def splitPoint? (cs : List Char) : Option (List Char × List Char) :=
  let whole := cs.takeWhile (· != '.')
  let places := (cs.dropWhile (· != '.')).drop 1
  let written := whole ++ places
  if written.all (fun c => c.isDigit || c == '_') && written.head?.any Char.isDigit then
    some (whole.filter Char.isDigit, places.filter Char.isDigit)
  else none

/-- The magnitude and scale read on over further places. The first digit past those that
fit rounds, and the ones after it do not count. -/
def readPlaces (magnitude scale : Nat) : List Char → Option (Nat × Nat)
  | [] => some (magnitude, scale)
  | c :: rest =>
    let digit := c.toNat - '0'.toNat
    let longer := magnitude * 10 + digit
    if scale < maxScale ∧ longer < capacity then readPlaces longer (scale + 1) rest
    else if digit < 5 then some (magnitude, scale)
    else if magnitude + 1 < capacity then some (magnitude + 1, scale)
    else if scale = 0 then none
    else some ((magnitude + 5) / 10, scale - 1)

/-- The decimal that digits with at most one point write. A zero is read without its sign. -/
def ofUnsigned? (negative : Bool) (cs : List Char) : Option Decimal := do
  let (whole, places) ← splitPoint? cs
  let (magnitude, scale) ← readPlaces (Nat.ofDigitChars 10 whole 0) 0 places
  return (← ofParts? negative magnitude scale).withoutZeroSign

/-- The decimal written without a power of ten. -/
def ofPlain? : List Char → Option Decimal
  | '-' :: rest => ofUnsigned? true rest
  | '+' :: rest => ofUnsigned? false rest
  | cs => ofUnsigned? false cs

/-- A whole number without sign, or with a plus sign. -/
def exponent? (cs : List Char) : Option Nat :=
  let digits := match cs with
    | '+' :: rest => rest
    | _ => cs
  if digits.isEmpty || !digits.all Char.isDigit then none
  else some (Nat.ofDigitChars 10 digits 0)

/-- The number times ten to the power of `exponent`, without zeros at the end of its
places. -/
def timesPowerOfTen? (a : Decimal) (exponent : Nat) : Option Decimal := do
  if exponent ≤ a.scale then
    ofParts? a.negative a.magnitude (a.scale - exponent)
  else if exponent ≤ maxScale then
    let product ← product? a (← ofParts? false (10 ^ exponent) 0)
    let (magnitude, scale) := dropTrailingZeros product.magnitude product.scale
    ofParts? (product.negative && magnitude != 0) magnitude scale
  else none

/-- The number divided by ten to the power of `exponent`. Places past the last that a
decimal has are given up and round those before them, a half going up; a number that rounds
to zero keeps its sign. -/
def overPowerOfTen? (a : Decimal) (exponent : Nat) : Option Decimal :=
  let scale := a.scale + exponent
  if maxScale < exponent then none
  else if scale ≤ maxScale then ofParts? a.negative a.magnitude scale
  else
    let unit := 10 ^ (scale - maxScale)
    ofParts? a.negative ((2 * a.magnitude + unit) / (2 * unit)) maxScale

/-- The decimal written with a power of ten. -/
def ofScientific? (cs : List Char) : Option Decimal := do
  let base ← ofPlain? (cs.takeWhile fun c => c != 'e' && c != 'E')
  match cs.dropWhile fun c => c != 'e' && c != 'E' with
  | _ :: '-' :: digits => base.overPowerOfTen? (← exponent? digits)
  | _ :: digits => base.timesPowerOfTen? (← exponent? digits)
  | [] => none

/-- The decimal that a text writes, if it writes one. -/
def ofText? (text : String) : Option Decimal :=
  (ofPlain? text.toList).or (ofScientific? text.toList)

end TradeLedger.Decimal
