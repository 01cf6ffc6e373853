import TradeLedger.Decimal.Basic
import TradeLedger.Fault

/-! Quotients by long division. Decimal places are found in blocks of up to nine until
nothing is left to divide or no further place fits, and the last place is then rounded,
a half to the even neighbour. A quotient that needed places loses up to seven zeros at
its end again, so that 1/4 is 0.25 but 1/2 is 0.50. -/
namespace TradeLedger.Decimal

-- Powers mean the same under every import.
attribute [local instance (high)] instPowNat

/-- The most decimal places to find in one block. -/
def blockSize : Nat := 9

/-- How many places the next block brings: as many as the bounds leave, at most a full
block. `room` counts the places that may still be found. -/
def nextBlock (digits room : Nat) : Nat :=
  ((List.range (Nat.min blockSize room)).filter fun place =>
    digits * 10 ^ (place + 1) < capacity).length

theorem nextBlock_le (digits room : Nat) : nextBlock digits room ≤ room := by
  have filtered := List.length_filter_le
    (fun place => decide (digits * 10 ^ (place + 1) < capacity))
    (List.range (Nat.min blockSize room))
  rw [List.length_range] at filtered
  exact Nat.le_trans filtered (Nat.min_le_right ..)

/-- The magnitude and the room left of the quotient `digits + rest / divisor`, whose
first part has been found and still has `room` places to come; `maxScale - room` places
are found, and a room above `maxScale` stands for zeros missing before the point. -/
def divideFrom (divisor digits rest room : Nat) : Option (Nat × Nat) :=
  if rest = 0 then
    if room ≤ maxScale then some (digits, room)
    else
      let padded := digits * 10 ^ (room - maxScale)
      if padded < capacity then some (padded, maxScale) else none
  else
    let block := nextBlock digits room
    if block + maxScale < room ∧ block < blockSize then none
    else if found : block = 0 then
      settle (roundHalfEven (digits * divisor + rest) divisor) room
    else
      let longer := digits * 10 ^ block + rest * 10 ^ block / divisor
      let left := rest * 10 ^ block % divisor
      if longer < capacity then divideFrom divisor longer left (room - block)
      else if room - block < maxScale then
        some (roundHalfEven (longer * divisor + left) (10 * divisor), room - block + 1)
      else none
termination_by room
decreasing_by
  have := nextBlock_le digits room
  omega
where
  /-- A magnitude carried to the capacity gives up one place, if it has one. -/
  settle (digits room : Nat) : Option (Nat × Nat) :=
    if digits < capacity then some (digits, room)
    else if room < maxScale then some (roundHalfEven digits 10, room + 1)
    else none

/-- Gives up `zeros` places if that many zeros stand at the end. -/
def dropZeros (zeros : Nat) (number : Nat × Nat) : Nat × Nat :=
  if zeros ≤ number.2 ∧ number.1 % 10 ^ zeros = 0 then
    (number.1 / 10 ^ zeros, number.2 - zeros)
  else
    number

/-- Gives up eight places if eight zeros stand at the end of a magnitude whose lowest
32 bits are all zero. -/
def dropEightZeros (number : Nat × Nat) : Nat × Nat :=
  if number.1 % 2 ^ (32 : Nat) = 0 then dropZeros 8 number else number

/-- The magnitude and places of a quotient after zeros at its end are given up: eight at
a time where the lowest bits allow it, then four, two and one. -/
def stripZeros (number : Nat × Nat) : Nat × Nat :=
  dropZeros 1 (dropZeros 2 (dropZeros 4
    (dropEightZeros (dropEightZeros (dropEightZeros number)))))

/-- The quotient by a divisor other than zero, if it fits. A dividend of zero makes it the
plain zero. -/
def quotient? (a b : Decimal) : Option Decimal :=
  if a.isZero then some zero
  else do
    let rest := a.magnitude % b.magnitude
    let (digits, room) ←
      divideFrom b.magnitude (a.magnitude / b.magnitude) rest (maxScale + b.scale - a.scale)
    let (magnitude, scale) :=
      if rest = 0 then (digits, maxScale - room) else stripZeros (digits, maxScale - room)
    ofParts? (a.negative != b.negative && magnitude != 0) magnitude scale

/-- The quotient of two decimals. -/
def div (a b : Decimal) : Except Fault Decimal :=
  if b.isZero then .error .divisionByZero
  else
    match quotient? a b with
    | some quotient => .ok quotient
    | none => .error (.overflow .division)

end TradeLedger.Decimal
