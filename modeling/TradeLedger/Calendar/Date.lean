import TradeLedger.Fault

/-! Days of the proleptic Gregorian calendar. A date is the number of its day, so the
order of dates and the days between them are those of whole numbers; day 0 is 1 January
of the year 1, and a year 0 precedes it. The calendar has a first and a last day. -/
namespace TradeLedger

/-- The number of the first day of a year. -/
def Calendar.newYear (year : Int) : Int :=
  let before := year - 1
  365 * before + before / 4 - before / 100 + before / 400

/-- The first day of the calendar, 1 January of the year -262143. -/
def Calendar.firstDay : Int := Calendar.newYear (-262143)

/-- The last day of the calendar, 31 December of the year 262142. -/
def Calendar.lastDay : Int := Calendar.newYear 262143 - 1

/-- A day of the calendar. -/
structure Date where
  dayNumber : Int
  first_le : Calendar.firstDay ≤ dayNumber
  le_last : dayNumber ≤ Calendar.lastDay
  deriving DecidableEq, Repr

namespace Date

@[ext]
theorem ext_dayNumber {a b : Date} (same : a.dayNumber = b.dayNumber) : a = b := by
  cases a
  cases b
  cases same
  rfl

instance : Ord Date := ⟨fun a b => compare a.dayNumber b.dayNumber⟩

instance : LT Date := ⟨fun a b => a.dayNumber < b.dayNumber⟩

instance : LE Date := ⟨fun a b => a.dayNumber ≤ b.dayNumber⟩

instance (a b : Date) : Decidable (a < b) :=
  inferInstanceAs (Decidable (a.dayNumber < b.dayNumber))

instance (a b : Date) : Decidable (a ≤ b) :=
  inferInstanceAs (Decidable (a.dayNumber ≤ b.dayNumber))

instance : Std.TransOrd Date :=
  inferInstanceAs (Std.TransCmp (compareOn Date.dayNumber))

instance : Std.LawfulEqOrd Date where
  eq_of_compare same := ext_dayNumber (Std.LawfulEqOrd.eq_of_compare same)

/-- The day with this number, if the calendar has it. -/
def ofDayNumber? (n : Int) : Option Date :=
  if inside : Calendar.firstDay ≤ n ∧ n ≤ Calendar.lastDay then
    some ⟨n, inside.1, inside.2⟩
  else
    none

/-- The day `days` before. -/
def before (date : Date) (days : Nat) : Except Fault Date :=
  if inside : Calendar.firstDay ≤ date.dayNumber - days then
    have last : date.dayNumber - days ≤ Calendar.lastDay :=
      Int.le_trans (Int.sub_le_self _ (Int.natCast_nonneg days)) date.le_last
    .ok ⟨date.dayNumber - days, inside, last⟩
  else
    .error .beforeCalendar

/-- The days from `start` to `date`, negative if `date` is the earlier. -/
def daysSince (date start : Date) : Int := date.dayNumber - start.dayNumber

end Date

/-! ## Years, months and days of the month -/

/-- A day named by year, month and day of the month, the latter two counted from one. -/
structure Civil where
  year : Int
  month : Nat
  day : Nat
  deriving DecidableEq, Repr

namespace Calendar

/-- Whether a year has 366 days. -/
def isLeapYear (year : Int) : Bool :=
  year % 4 == 0 && (year % 100 != 0 || year % 400 == 0)

/-- The lengths of the twelve months. -/
def monthLengths (year : Int) : List Nat :=
  [31, if isLeapYear year then 29 else 28, 31, 30, 31, 30, 31, 31, 30, 31, 30, 31]

/-- The year of a day: the average length of a year leads to it or to a neighbour. -/
def yearOf (dayNumber : Int) : Int :=
  let year := dayNumber * 400 / 146097 + 1
  if dayNumber < newYear year then year - 1
  else if newYear (year + 1) ≤ dayNumber then year + 1
  else year

/-- The month, counted on from `month`, and the day of the month, for a day so many days
after the first of the months with these lengths. -/
def monthAndDay (month : Nat) : List Nat → Nat → Nat × Nat
  | [], days => (month, days + 1)
  | length :: lengths, days =>
    if days < length then (month, days + 1)
    else monthAndDay (month + 1) lengths (days - length)

/-- The days of the months before a month, in a year whose months have these lengths. -/
def daysBefore (month : Nat) (lengths : List Nat) : Nat :=
  (lengths.take (month - 1)).foldl (· + ·) 0

end Calendar

namespace Date

/-- The year of a date. -/
def year (date : Date) : Int := Calendar.yearOf date.dayNumber

/-- Year, month and day of a date. -/
def civil (date : Date) : Civil :=
  let year := date.year
  let (month, day) := Calendar.monthAndDay 1 (Calendar.monthLengths year)
    (date.dayNumber - Calendar.newYear year).toNat
  ⟨year, month, day⟩

/-- The date with this year, month and day, if there is one. -/
def ofCivil? (civil : Civil) : Option Date := do
  let length ← (Calendar.monthLengths civil.year)[civil.month - 1]?
  if 1 ≤ civil.month ∧ 1 ≤ civil.day ∧ civil.day ≤ length then
    ofDayNumber? (Calendar.newYear civil.year +
      Calendar.daysBefore civil.month (Calendar.monthLengths civil.year) +
      (civil.day - 1 : Nat))
  else
    none

end Date

end TradeLedger
