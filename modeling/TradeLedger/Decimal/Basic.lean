import TradeLedger.Number.Rounding

/-! Decimal numbers of bounded size. A decimal is a sign, a magnitude of at most 96
bits and a number of decimal places of at most 28; the places are part of the number
as written, so 1.5 and 1.50 differ as decimals although neither is the larger. The
order compares sizes. -/
namespace TradeLedger

-- Powers mean the same under every import.
attribute [local instance (high)] instPowNat

/-- One more than the largest magnitude of a decimal. -/
def Decimal.capacity : Nat := 2 ^ (96 : Nat)

/-- The largest number of decimal places. -/
def Decimal.maxScale : Nat := 28

/-- The number `magnitude / 10 ^ scale`, negated if `negative`. A zero may carry the
sign, which shows only in its written form. -/
structure Decimal where
  negative : Bool
  magnitude : Nat
  scale : Nat
  magnitude_lt : magnitude < Decimal.capacity
  scale_le : scale ≤ Decimal.maxScale
  deriving DecidableEq, Repr

namespace Decimal

/-- The decimal with these parts, if they are within the bounds. -/
def ofParts? (negative : Bool) (magnitude scale : Nat) : Option Decimal :=
  if bounds : magnitude < capacity ∧ scale ≤ maxScale then
    some ⟨negative, magnitude, scale, bounds.1, bounds.2⟩
  else
    none

/-- A whole number of at most 32 bits. -/
def ofUInt32 (n : UInt32) : Decimal where
  negative := false
  magnitude := n.toNat
  scale := 0
  magnitude_lt := Nat.lt_trans n.toNat_lt (by decide)
  scale_le := by decide

/-- A count of things; past the capacity it stands still at the largest whole number. -/
def ofCount (n : Nat) : Decimal where
  negative := false
  magnitude := min n (capacity - 1)
  scale := 0
  magnitude_lt := Nat.lt_of_le_of_lt (Nat.min_le_right ..) (by decide)
  scale_le := by decide

def zero : Decimal := ofUInt32 0

def hundred : Decimal := ofUInt32 100

instance : Inhabited Decimal := ⟨zero⟩

/-- Whether the number is zero, whatever its sign and places. -/
def isZero (a : Decimal) : Bool := a.magnitude == 0

/-- The magnitude with its sign. -/
def numerator (a : Decimal) : Int :=
  if a.negative then -(a.magnitude : Int) else a.magnitude

/-- Decimals are ordered by size: both sides are brought to a common number of places. -/
instance : LT Decimal :=
  ⟨fun a b => a.numerator * 10 ^ b.scale < b.numerator * 10 ^ a.scale⟩

instance : LE Decimal :=
  ⟨fun a b => a.numerator * 10 ^ b.scale ≤ b.numerator * 10 ^ a.scale⟩

instance (a b : Decimal) : Decidable (a < b) :=
  inferInstanceAs (Decidable (a.numerator * 10 ^ b.scale < b.numerator * 10 ^ a.scale))

instance (a b : Decimal) : Decidable (a ≤ b) :=
  inferInstanceAs (Decidable (a.numerator * 10 ^ b.scale ≤ b.numerator * 10 ^ a.scale))

/-- The larger of two decimals; of two equally large ones the first, with its places. -/
def max (a b : Decimal) : Decimal := if a < b then b else a

/-- The smaller of two decimals; of two equally large ones the first, with its places. -/
def min (a b : Decimal) : Decimal := if b < a then b else a

/-- The number without its sign. -/
def abs (a : Decimal) : Decimal := { a with negative := false }

/-- The number with the other sign. -/
def neg (a : Decimal) : Decimal := { a with negative := !a.negative }

/-- A zero without its sign, and every other number as it is. -/
def withoutZeroSign (a : Decimal) : Decimal := { a with negative := a.negative && !a.isZero }

/-! ## Fitting an exact magnitude into a decimal

The fewest trailing places are given up that bring the number within the bounds, and it is
rounded once at the place where it is cut, a half to the even neighbour. -/

/-- The fewest trailing places of `magnitude / 10 ^ scale` to give up so that the rest
is within the bounds; `none` if even the whole part is too large. -/
def excessPlaces (magnitude scale : Nat) : Option Nat :=
  (List.range (scale + 1)).find? fun dropped =>
    scale ≤ maxScale + dropped && magnitude / 10 ^ dropped < capacity

/-- The parts as a decimal; a magnitude that rounding has carried to the capacity gives
up one more place. -/
def ofRounded? (negative : Bool) (magnitude scale : Nat) : Option Decimal :=
  let carried :=
    match scale with
    | 0 => none
    | fewer + 1 => ofParts? negative (roundHalfEven magnitude 10) fewer
  (ofParts? negative magnitude scale).or carried

/-- The decimal nearest to `magnitude / 10 ^ scale` with as many places as fit. A number
that rounds to zero keeps its sign. -/
def fit? (negative : Bool) (magnitude scale : Nat) : Option Decimal := do
  let dropped ← excessPlaces magnitude scale
  ofRounded? negative (roundHalfEven magnitude (10 ^ dropped)) (scale - dropped)

end Decimal

end TradeLedger
