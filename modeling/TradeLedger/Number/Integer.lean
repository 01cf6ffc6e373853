/-! Whole numbers as text: an optional sign and decimal digits, within given bounds. A minus
sign is part of the text only where the bounds admit negative numbers. Of several faults
the one that shows first from the left is reported. -/
namespace TradeLedger

-- Powers mean the same under every import.
attribute [local instance (high)] instPowNat

/-- Why a text is not a whole number within the bounds. -/
inductive IntegerError where
  | empty
  | invalidDigit
  | tooLarge
  | tooSmall
  deriving DecidableEq, Repr

/-- The wording of an error. -/
def IntegerError.message : IntegerError → String
  | .empty => "cannot parse integer from empty string"
  | .invalidDigit => "invalid digit found in string"
  | .tooLarge => "number too large to fit in target type"
  | .tooSmall => "number too small to fit in target type"

/-- The least and the greatest number that a reader accepts. -/
structure IntegerBounds where
  least : Int
  greatest : Int

namespace IntegerBounds

/-- Numbers of so many bits without sign. -/
def unsigned (bits : Nat) : IntegerBounds := ⟨0, 2 ^ bits - 1⟩

/-- Numbers of so many bits besides the sign. -/
def signed (bits : Nat) : IntegerBounds := ⟨-2 ^ bits, 2 ^ bits - 1⟩

/-- Numbers of 32 bits without sign. -/
def unsigned32 : IntegerBounds := unsigned 32

/-- Numbers of 32 bits with sign. -/
def signed32 : IntegerBounds := signed 31

/-- Numbers of 64 bits with sign. -/
def signed64 : IntegerBounds := signed 63

/-- The magnitude that digits write after those read so far, at most `limit`. -/
def magnitude (limit : Nat) (excess : IntegerError) : Nat → List Char → Except IntegerError Nat
  | read, [] => .ok read
  | read, c :: rest =>
    if c.isDigit then
      let longer := 10 * read + (c.toNat - '0'.toNat)
      if longer ≤ limit then magnitude limit excess longer rest else .error excess
    else .error .invalidDigit

/-- The number that digits write, of which there must be one. -/
def digits (limit : Nat) (excess : IntegerError) : List Char → Except IntegerError Nat
  | [] => .error .invalidDigit
  | cs => magnitude limit excess 0 cs

/-- The number within the bounds that a text writes. -/
def read (bounds : IntegerBounds) (text : String) : Except IntegerError Int :=
  match text.toList with
  | [] => .error .empty
  | '+' :: rest => (digits bounds.greatest.toNat .tooLarge rest).map fun n => (n : Int)
  | '-' :: rest =>
    if bounds.least < 0 then
      (digits bounds.least.natAbs .tooSmall rest).map fun n => -(n : Int)
    else .error .invalidDigit
  | cs => (digits bounds.greatest.toNat .tooLarge cs).map fun n => (n : Int)

end IntegerBounds

end TradeLedger
