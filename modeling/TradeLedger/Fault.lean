/-! The ways in which a computation over amounts and dates can have no answer.
Decimals have a bounded size and dates a bounded range, so every operation that
may leave them says which one did. -/
namespace TradeLedger

/-- The four operations on decimals. -/
inductive Operation where
  | addition
  | subtraction
  | multiplication
  | division
  deriving DecidableEq, Repr

/-- The name of an operation as it opens a message. -/
def Operation.name : Operation → String
  | .addition => "Addition"
  | .subtraction => "Subtraction"
  | .multiplication => "Multiplication"
  | .division => "Division"

/-- Why a figure could not be computed. -/
inductive Fault where
  /-- The exact result is larger than any decimal. -/
  | overflow (operation : Operation)
  /-- A quotient by zero was asked for. -/
  | divisionByZero
  /-- A day before the first day of the calendar was asked for. -/
  | beforeCalendar
  deriving DecidableEq, Repr

/-- The wording of a fault. -/
def Fault.message : Fault → String
  | .overflow operation => operation.name ++ " overflowed"
  | .divisionByZero => "Division by zero"
  | .beforeCalendar => "`NaiveDate - TimeDelta` overflowed"

end TradeLedger
