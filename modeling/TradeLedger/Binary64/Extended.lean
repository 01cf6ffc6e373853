import TradeLedger.Binary64.Basic

/-! Nonnegative binary numbers of 64 significant digits, the working precision between
decimal text and binary numbers of 64 bits. A product is rounded to 64 digits, a half going
to the even neighbour, so a number that is brought to another power of ten in several steps
may end beside the one nearest to the exact product. -/
namespace TradeLedger

-- Powers mean the same under every import.
attribute [local instance (high)] instPowNat

/-- The number `significand * 2 ^ exponent`. -/
structure Extended where
  significand : Nat
  exponent : Int
  deriving Repr

namespace Extended

/-- How many digits are below the first of the significant ones. -/
def lowerDigits : Nat := 63

/-- The number nearest to `numerator / denominator` among the whole numbers of at most 64
significant digits, times `2 ^ exponent`. -/
def round (numerator denominator : Nat) (exponent : Int) : Extended :=
  let cut := Nat.log2 (numerator / denominator) - lowerDigits
  ⟨roundHalfEven numerator (denominator * 2 ^ cut), exponent + cut⟩

/-- A whole number. -/
def ofNat (n : Nat) : Extended := round n 1 0

/-- The number of 64 significant digits nearest to one divided by `n`. -/
def reciprocal (n : Nat) : Extended :=
  let shift := Nat.log2 n + lowerDigits + 1
  round (2 ^ shift) n (-shift)

/-- The product, rounded. -/
def mul (a b : Extended) : Extended :=
  round (a.significand * b.significand) 1 (a.exponent + b.exponent)

/-- Numbers are ordered by size: both are brought to the smaller exponent. -/
instance : LE Extended :=
  ⟨fun a b => a.significand * 2 ^ (a.exponent - b.exponent).toNat ≤
    b.significand * 2 ^ (b.exponent - a.exponent).toNat⟩

instance (a b : Extended) : Decidable (a ≤ b) :=
  inferInstanceAs (Decidable (a.significand * 2 ^ (a.exponent - b.exponent).toNat ≤
    b.significand * 2 ^ (b.exponent - a.exponent).toNat))

/-- The number nearest to a power of ten. -/
def powerOfTen (power : Int) : Extended :=
  if 0 ≤ power then ofNat (10 ^ power.toNat) else reciprocal (10 ^ power.natAbs)

/-- The number brought to another power of ten, a hundred powers at a time, then ten, then
one. -/
def timesPowerOfTen (a : Extended) (power : Int) : Extended :=
  let steps (size count : Nat) (a : Extended) : Extended :=
    Nat.repeat (fun a => a.mul (powerOfTen (power.sign * size))) count a
  let powers := power.natAbs
  steps 1 (powers % 10) (steps 10 (powers % 100 / 10) (steps 100 (powers / 100) a))

/-- The finite number with this word. -/
def ofWord (word : Nat) : Extended :=
  ⟨Binary64.significand word, Binary64.doublings word - 1074⟩

/-- The greatest number that is not taken for infinite. -/
def greatest : Extended := ofNat (17976931348623157081451942541 * 10 ^ (280 : Nat))

/-- The binary number of 64 bits nearest to this one, negated if `negative`. -/
def toBinary64 (negative : Bool) (a : Extended) : Binary64 :=
  if a ≤ greatest then
    .ofRatio negative (a.significand * 2 ^ a.exponent.toNat) (2 ^ (-a.exponent).toNat)
  else .infinite negative

end Extended

end TradeLedger
