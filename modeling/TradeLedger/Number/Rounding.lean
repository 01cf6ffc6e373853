/-! Numbers with fewer digits: a quotient of natural numbers rounded to the nearest whole
number, a half going to the even neighbour, and digits dropped or put at the end of a number.
Every inexact figure of the ledger is rounded by `roundHalfEven`; it is never more than one above
the quotient cut off. -/
namespace TradeLedger

/-- The whole number nearest to `numerator / denominator`; of two equally near
ones the even one. -/
def roundHalfEven (numerator denominator : Nat) : Nat :=
  let quotient := numerator / denominator
  let rest := numerator % denominator
  if denominator < 2 * rest ∨ (2 * rest = denominator ∧ quotient % 2 = 1) then
    quotient + 1
  else
    quotient

theorem roundHalfEven_le_succ (n d : Nat) : roundHalfEven n d ≤ n / d + 1 := by
  simp only [roundHalfEven]
  split <;> omega

theorem roundHalfEven_one (n : Nat) : roundHalfEven n 1 = n := by
  have rest : n % 1 = 0 := by omega
  simp [roundHalfEven, rest]

/-- The number without the zeros at its end, of which at most `places` are taken off, and how
many of the `places` are left. -/
def dropTrailingZeros (n : Nat) : (places : Nat) → Nat × Nat
  | 0 => (n, 0)
  | places + 1 => if n % 10 = 0 then dropTrailingZeros (n / 10) places else (n, places + 1)

/-- The number with zeros put at its end as long as it is below `limit`, at most `places` of
them, and how many of the `places` are left. -/
def appendZeros (limit n : Nat) : (places : Nat) → Nat × Nat
  | 0 => (n, 0)
  | places + 1 => if n < limit then appendZeros limit (n * 10) places else (n, places + 1)

/-- The fewest leading digits of the number that make up `least` or more, or else all of them,
and how many digits are dropped. -/
def leadingDigits (least n : Nat) : Nat × Nat :=
  if more : 0 < n ∧ least ≤ n / 10 then
    have : n / 10 < n := Nat.div_lt_self more.1 (by decide)
    let (leading, dropped) := leadingDigits least (n / 10)
    (leading, dropped + 1)
  else (n, 0)
termination_by n
decreasing_by exact this

end TradeLedger
