import TradeLedger.Decimal.Basic
import TradeLedger.Fault

/-! Sums, products and amounts in cents. Every result is rounded at most once, where its
places no longer fit or where cents end. -/
namespace TradeLedger.Decimal

-- Powers mean the same under every import.
attribute [local instance (high)] instPowNat

/-! ## Sums and differences

The result has the places of the operand with more of them, as far as they fit; an operand that
is zero drops out, and its places do not count. -/

/-- The magnitude with its sign, brought to `places` decimal places. -/
def scaledTo (a : Decimal) (places : Nat) : Int :=
  a.numerator * 10 ^ (places - a.scale)

/-- The sum, if it fits. Of two zeros the second is the sum. -/
def sum? (a b : Decimal) : Option Decimal :=
  if a.isZero then some b
  else if b.isZero then some a
  else
    let places := Nat.max a.scale b.scale
    let total := a.scaledTo places + b.scaledTo places
    fit? (total < 0) total.natAbs places

/-- The sum of two decimals. -/
def add (a b : Decimal) : Except Fault Decimal :=
  match sum? a b with
  | some total => .ok total
  | none => .error (.overflow .addition)

/-- The difference of two decimals. Of two zeros the second is the difference. -/
def sub (a b : Decimal) : Except Fault Decimal :=
  match if b.isZero then sum? a b else sum? a b.neg with
  | some difference => .ok difference
  | none => .error (.overflow .subtraction)

/-- The decimals added up from zero, first to last. -/
def total (terms : List Decimal) : Except Fault Decimal :=
  terms.foldlM add zero

/-! ## Products

The places of the factors add up, as far as they fit. -/

/-- Whether the magnitude has at most 32 bits. -/
def isShort (a : Decimal) : Bool := a.magnitude < 2 ^ (32 : Nat)

/-- The product, if it fits. A factor of zero makes it the plain zero, and so do two short
factors whose places add up to more than 47. A product that rounds to zero keeps its sign
unless both factors are short. -/
def product? (a b : Decimal) : Option Decimal :=
  let places := a.scale + b.scale
  let product := fit? (a.negative != b.negative) (a.magnitude * b.magnitude) places
  if a.isZero || b.isZero then some zero
  else if a.isShort && b.isShort then
    if 47 < places then some zero else product.map withoutZeroSign
  else product

/-- The product of two decimals. -/
def mul (a b : Decimal) : Except Fault Decimal :=
  match product? a b with
  | some product => .ok product
  | none => .error (.overflow .multiplication)

/-! ## Cents

A half cent goes to the even cent. An amount with two places or fewer is left as it is. -/

theorem roundHalfEven_lt_capacity {magnitude : Nat} (bound : magnitude < capacity)
    (places : Nat) : roundHalfEven magnitude (10 ^ (places + 1)) < capacity := by
  have upper := roundHalfEven_le_succ magnitude (10 ^ (places + 1))
  have ten : 10 ≤ 10 ^ (places + 1) := by
    rw [Nat.pow_succ]
    exact Nat.le_mul_of_pos_left 10 (Nat.pow_pos (by decide))
  have small : magnitude / 10 ^ (places + 1) ≤ magnitude / 10 :=
    Nat.div_le_div_left ten (by decide)
  have large : 10 < capacity := by decide
  omega

/-- The number rounded to two places. -/
def roundCents (a : Decimal) : Decimal :=
  match fewer : a.scale - 2 with
  | 0 => a
  | places + 1 =>
    let cents := roundHalfEven a.magnitude (10 ^ (places + 1))
    { negative := a.negative && (a.magnitude == 0 || cents != 0)
      magnitude := cents
      scale := 2
      magnitude_lt := roundHalfEven_lt_capacity a.magnitude_lt places
      scale_le := by decide }

end TradeLedger.Decimal
