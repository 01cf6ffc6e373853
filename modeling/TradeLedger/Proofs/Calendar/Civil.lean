import Mathlib.Algebra.Order.BigOperators.Group.List
import Mathlib.Algebra.Order.Field.Rat
import TradeLedger.Calendar.Date

/-! Days and their names. Every day lies in the year that it is counted to, in one of the twelve months and
on a day that the month has, and the date with this year, month and day is the day again. -/
namespace TradeLedger.Calendar

/-- A year is as long as its months. -/
theorem newYear_succ (year : Int) :
    newYear (year + 1) = newYear year + ((monthLengths year).sum : Nat) := by
  have months : (monthLengths year).sum = if isLeapYear year then 366 else 365 := by
    rw [monthLengths]
    cases isLeapYear year <;> rfl
  rw [months, newYear, newYear]
  by_cases leap : isLeapYear year = true
  · rw [if_pos leap]
    simp only [isLeapYear, Bool.and_eq_true, Bool.or_eq_true, beq_iff_eq, bne_iff_ne] at leap
    omega
  · rw [if_neg leap]
    simp only [isLeapYear, Bool.and_eq_true, Bool.or_eq_true, beq_iff_eq, bne_iff_ne] at leap
    omega

/-- A day lies between the first day of its year and that of the next. -/
theorem yearOf_bounds (dayNumber : Int) :
    newYear (yearOf dayNumber) ≤ dayNumber ∧ dayNumber < newYear (yearOf dayNumber + 1) := by
  simp only [yearOf]
  split
  case isTrue early =>
    simp only [newYear] at early ⊢
    omega
  case isFalse late =>
    split
    case isTrue past =>
      simp only [newYear] at past late ⊢
      omega
    case isFalse inside =>
      simp only [newYear] at inside late ⊢
      omega

theorem newYear_mono {year later : Int} (before : year ≤ later) : newYear year ≤ newYear later := by
  simp only [newYear]
  omega

/-- A day that lies within the months is on a day of one of them, after the days of those before. -/
theorem monthAndDay_spec {lengths : List Nat} {days : Nat} (inside : days < lengths.sum) (month : Nat) :
    ∃ (passed length day : Nat), monthAndDay month lengths days = (month + passed, day + 1) ∧
      lengths[passed]? = some length ∧ day < length ∧ (lengths.take passed).sum + day = days := by
  induction lengths generalizing days month with
  | nil => exact absurd inside (Nat.not_lt_zero _)
  | cons first lengths ih =>
    rw [List.sum_cons] at inside
    rw [monthAndDay]
    split
    case isTrue here => exact ⟨0, first, days, rfl, rfl, here, by simp⟩
    case isFalse past =>
      have rest : days - first < lengths.sum := by omega
      obtain ⟨passed, length, day, found, listed, below, sum⟩ := ih rest (month + 1)
      refine ⟨passed + 1, length, day, by rw [found, Nat.add_right_comm, Nat.add_assoc], listed, below, ?_⟩
      rw [List.take_succ_cons, List.sum_cons]
      omega

theorem daysBefore_eq (month : Nat) (lengths : List Nat) :
    daysBefore month lengths = (lengths.take (month - 1)).sum := by
  rw [daysBefore, List.sum_eq_foldl]

end TradeLedger.Calendar

namespace TradeLedger.Date

open Calendar

/-- What a date is named by: a month of the year, and a day that the month has. -/
theorem civil_spec (date : Date) : ∃ (passed length day : Nat), date.civil = ⟨date.year, passed + 1, day + 1⟩ ∧
    (monthLengths date.year)[passed]? = some length ∧ day < length ∧
    newYear date.year + ((monthLengths date.year).take passed).sum + day = date.dayNumber := by
  obtain ⟨above, below⟩ := yearOf_bounds date.dayNumber
  rw [newYear_succ] at below
  have inside : (date.dayNumber - newYear date.year).toNat < (monthLengths date.year).sum := by
    rw [year]
    omega
  obtain ⟨passed, length, day, found, listed, less, sum⟩ := monthAndDay_spec inside 1
  refine ⟨passed, length, day, ?_, listed, less, ?_⟩
  · simp only [civil, found, Nat.add_comm 1]
  · rw [year] at sum ⊢
    omega

/-- The date with the year, month and day of a date is the date. -/
theorem ofCivil_civil (date : Date) : ofCivil? date.civil = some date := by
  obtain ⟨passed, length, day, named, listed, below, sum⟩ := date.civil_spec
  have number : ofDayNumber? date.dayNumber = some date := dif_pos ⟨date.first_le, date.le_last⟩
  rw [ofCivil?, named]
  simp only [Nat.add_sub_cancel, listed, Option.bind_eq_bind, Option.bind_some, daysBefore_eq]
  rw [if_pos ⟨by omega, by omega, by omega⟩, ← number]
  congr 1

/-- Months and days have two digits at most. -/
theorem civil_lt (date : Date) : date.civil.month < 100 ∧ date.civil.day < 100 := by
  obtain ⟨passed, length, day, named, listed, below, _⟩ := date.civil_spec
  have months : passed < 12 := (List.getElem?_eq_some_iff.mp listed).1
  have days : length ≤ 31 := by
    have bound : ∀ year : Int, ∀ length ∈ monthLengths year, length ≤ 31 := by
      intro year
      rw [monthLengths]
      cases isLeapYear year <;> decide
    exact bound _ length (List.mem_of_getElem? listed)
  rw [named]
  dsimp only
  exact ⟨by omega, by omega⟩

theorem year_le_iff {date : Date} {year : Int} : date.year ≤ year ↔ date.dayNumber < newYear (year + 1) := by
  obtain ⟨began, below⟩ := yearOf_bounds date.dayNumber
  unfold Date.year
  constructor
  · intro past
    have mono := newYear_mono (show yearOf date.dayNumber + 1 ≤ year + 1 by omega)
    omega
  · intro past
    by_contra later
    have mono := newYear_mono (show year + 1 ≤ yearOf date.dayNumber by omega)
    omega

/-- The days of a year and of those before it are the days up to one, or the calendar has none of them. -/
theorem exists_last_of_year (year : Int) :
    (∃ last : Date, ∀ date : Date, date.year ≤ year ↔ date ≤ last) ∨ ∀ date : Date, ¬date.year ≤ year := by
  simp only [year_le_iff]
  by_cases early : newYear (year + 1) ≤ firstDay
  · right
    intro date
    have inside := date.first_le
    omega
  · left
    refine ⟨⟨min (newYear (year + 1) - 1) lastDay, ?_, min_le_right _ _⟩, fun date => ?_⟩
    · have long : firstDay ≤ lastDay := by decide
      exact le_min (by omega) long
    · have inside := date.le_last
      change _ ↔ date.dayNumber ≤ min _ _
      rw [le_min_iff]
      omega

end TradeLedger.Date
