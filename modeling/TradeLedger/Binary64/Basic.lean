import TradeLedger.Number.Rounding

/-! Binary floating-point numbers of 64 bits, in exact arithmetic. The nonnegative finite
ones, listed in ascending order from zero, are numbered by their words; every finite
number is a whole multiple of one unit, the least positive one. -/
namespace TradeLedger

-- Powers mean the same under every import.
attribute [local instance (high)] instPowNat

/-- How many words the numbers from a power of two up to the next one have. -/
def Binary64.binade : Nat := 2 ^ (52 : Nat)

/-- The word after those of all finite numbers. -/
def Binary64.infinityWord : Nat := 2047 * binade

/-- A binary floating-point number of 64 bits. All values that are not a number count as
one. -/
inductive Binary64 where
  | nan
  | infinite (negative : Bool)
  | finite (negative : Bool) (word : Fin Binary64.infinityWord)
  deriving DecidableEq, Repr

namespace Binary64

/-- How many units make one. -/
def unitsPerOne : Nat := 2 ^ (1074 : Nat)

/-- The 53 leading binary digits of the number with this word; fewer if it is among the
least ones. -/
def significand (word : Nat) : Nat :=
  if word < binade then word else binade + word % binade

/-- How often the significand is doubled to give the number in units. -/
def doublings (word : Nat) : Nat := word / binade - 1

/-- The number with this word, in units. -/
def units (word : Nat) : Nat := significand word * 2 ^ doublings word

/-- The word of the number nearest to `numerator / denominator`, a tie going to the even
word. It may be past those of the finite numbers. -/
def nearestWord (numerator denominator : Nat) : Nat :=
  let cut := Nat.log2 (numerator * unitsPerOne / denominator) - 52
  cut * binade + roundHalfEven (numerator * unitsPerOne) (denominator * 2 ^ cut)

/-- The number with this sign and word, infinite if the word is past the finite ones. -/
def ofWord (negative : Bool) (word : Nat) : Binary64 :=
  if finite : word < infinityWord then .finite negative ⟨word, finite⟩ else .infinite negative

/-- The number nearest to `numerator / denominator`, negated if `negative`. -/
def ofRatio (negative : Bool) (numerator denominator : Nat) : Binary64 :=
  ofWord negative (nearestWord numerator denominator)

/-- The number nearest to a whole number. -/
def ofInt (n : Int) : Binary64 :=
  ofRatio (n < 0) n.natAbs 1

/-- Zero without its sign, and every other number as it is. -/
def withoutZeroSign : Binary64 → Binary64
  | .finite negative word => .finite (negative && word.val != 0) word
  | other => other

/-! ## Arithmetic on words

Each operation is the exact one followed by one rounding to the nearest number. -/

/-- The word nearest to a natural number. -/
def wordOfNat (n : Nat) : Nat := nearestWord n 1

/-- The word nearest to the sum. -/
def addWords (a b : Nat) : Nat :=
  nearestWord (units a + units b) unitsPerOne

/-- The word nearest to the product. -/
def mulWords (a b : Nat) : Nat :=
  nearestWord (units a * units b) (unitsPerOne * unitsPerOne)

/-- The word nearest to the quotient. -/
def divWords (a b : Nat) : Nat :=
  nearestWord (units a) (units b)

/-- The word of the nearest whole number, a half going up. -/
def roundWord (a : Nat) : Nat :=
  wordOfNat ((2 * units a + unitsPerOne) / (2 * unitsPerOne))

end Binary64

end TradeLedger
