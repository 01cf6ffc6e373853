import TradeLedger.Calendar.Text
import TradeLedger.Proofs.Calendar.Civil
import TradeLedger.Proofs.Text.Blank

/-! Written dates. A padded number is read back from the start of a text, whatever follows it where its
width is known, and up to the first character that is no digit where it is not. So every date of the
calendar is read back from its written form, and no two dates are written alike. -/
namespace TradeLedger.Date

open Text

-- Powers mean the same under every import.
attribute [local instance (high)] instPowNat

section Numbers

variable {width n : ℕ} {rest : List Char}

theorem isDigit_of_mem_padded {c : Char} (member : c ∈ padded width n) : c.isDigit = true := by
  rcases List.mem_append.mp member with zero | digit
  · rw [List.eq_of_mem_replicate zero]
    decide
  · exact Nat.isDigit_of_mem_toDigits (by decide) (by decide) digit

theorem padded_ne_nil : padded width n ≠ [] :=
  List.append_ne_nil_of_right_ne_nil _ Nat.toDigits_ne_nil

theorem length_padded (positive : 0 < width) (small : n < 10 ^ width) : (padded width n).length = width := by
  have fits : (Nat.toDigits 10 n).length ≤ width := (Nat.length_toDigits_le_iff (by decide) positive).mpr small
  rw [padded, List.length_append, List.length_replicate]
  omega

theorem ofDigitChars_padded : Nat.ofDigitChars 10 (padded width n) 0 = n := by
  rw [padded, Nat.ofDigitChars_append, Nat.ofDigitChars_replicate_zero, Nat.mul_zero, Nat.ofDigitChars_ten_toDigits]

theorem digits?_padded : digits? (padded width n) rest = some (n, rest) := by
  rw [digits?, if_neg (by simp [padded_ne_nil]), ofDigitChars_padded]

/-- A number is read up to the end of its digits or to the last digit that it may have. -/
theorem short?_append (most : ℕ) {digits : List Char} (all : ∀ c ∈ digits, c.isDigit = true)
    (nonempty : digits.take most ≠ []) (ends : most ≤ digits.length ∨ ∀ c ∈ rest.head?, c.isDigit = false) :
    short? most (digits ++ rest) = some (Nat.ofDigitChars 10 (digits.take most) 0, digits.drop most ++ rest) := by
  have taken : ((digits ++ rest).take most).takeWhile Char.isDigit = digits.take most := by
    have stop : (rest.take (most - digits.length)).takeWhile Char.isDigit = [] := by
      rcases ends with long | ends
      · rw [Nat.sub_eq_zero_of_le long]
        rfl
      · cases rest with
        | nil => simp
        | cons c rest => cases most - digits.length <;> simp [ends c rfl]
    rw [List.take_append, List.takeWhile_append_of_pos fun c member => all c (List.mem_of_mem_take member), stop,
      List.append_nil]
  have left : (digits ++ rest).drop (digits.take most).length = digits.drop most ++ rest := by
    rw [List.length_take]
    rcases Nat.le_total most digits.length with long | short
    · rw [Nat.min_eq_left long, List.drop_append_of_le_length long]
    · rw [Nat.min_eq_right short, List.drop_left, List.drop_of_length_le short, List.nil_append]
  simp only [short?, taken, left]
  rw [digits?, if_neg (by simpa using nonempty)]

/-- A number of known width is read whole, whatever follows it. -/
theorem short?_padded (positive : 0 < width) (small : n < 10 ^ width) :
    short? width (padded width n ++ rest) = some (n, rest) := by
  have length : (padded width n).length = width := length_padded positive small
  have whole : (padded width n).take width = padded width n := List.take_of_length_le length.le
  have read := @short?_append rest width _ (fun _ => isDigit_of_mem_padded) (by rw [whole]; exact padded_ne_nil)
    (.inl length.ge)
  rwa [whole, ofDigitChars_padded, List.drop_of_length_le length.le, List.nil_append] at read

/-- A number that may have more digits is read up to the end of its own. -/
theorem short?_padded_of_end {most : ℕ} (fits : (padded width n).length ≤ most)
    (ends : ∀ c ∈ rest.head?, c.isDigit = false) : short? most (padded width n ++ rest) = some (n, rest) := by
  have whole : (padded width n).take most = padded width n := List.take_of_length_le fits
  have read := short?_append most (fun _ => isDigit_of_mem_padded) (by rw [whole]; exact padded_ne_nil)
    (.inr ends)
  rwa [whole, ofDigitChars_padded, List.drop_of_length_le fits, List.nil_append] at read

/-- A number of any width is read up to the end of its digits. -/
theorem long?_padded (ends : ∀ c ∈ rest.head?, c.isDigit = false) :
    long? (padded width n ++ rest) = some (n, rest) := by
  have stop : rest.takeWhile Char.isDigit = [] ∧ rest.dropWhile Char.isDigit = rest := by
    cases rest with
    | nil => exact ⟨rfl, rfl⟩
    | cons c rest => simp [ends c rfl]
  have digits : ∀ c ∈ padded width n, c.isDigit = true := fun _ => isDigit_of_mem_padded
  rw [long?, List.takeWhile_append_of_pos digits, List.dropWhile_append_of_pos digits, stop.1, stop.2, List.append_nil,
    digits?_padded]

end Numbers

theorem isBlank_of_isDigit {c : Char} (digit : c.isDigit = true) : isBlank c = false := by
  simp only [Char.isDigit, ge_iff_le, UInt32.le_iff_toNat_le, Bool.and_eq_true, decide_eq_true_eq] at digit
  obtain ⟨first, last⟩ := digit
  exact visible_of_graphic (Nat.lt_of_lt_of_le (by decide) first) (Nat.lt_of_le_of_lt last (by decide))

theorem isBlank_of_mem_padded {width n : ℕ} {c : Char} (member : c ∈ padded width n) : isBlank c = false :=
  isBlank_of_isDigit (isDigit_of_mem_padded member)

/-- No blanks stand before a number. -/
theorem dropWhile_isBlank_padded {width n : ℕ} {rest : List Char} :
    (padded width n ++ rest).dropWhile isBlank = padded width n ++ rest :=
  dropWhile_isBlank_append padded_ne_nil fun _ => isBlank_of_mem_padded

theorem yearChars_ne_nil (year : ℤ) : yearChars year ≠ [] := by
  rw [yearChars]
  split
  · exact List.cons_ne_nil _ _
  · split
    · exact List.cons_ne_nil _ _
    · exact padded_ne_nil

theorem isBlank_of_mem_yearChars {year : ℤ} {c : Char} (member : c ∈ yearChars year) : isBlank c = false := by
  have signed : ∀ sign, isBlank sign = false → c ∈ sign :: padded 4 year.natAbs → isBlank c = false := by
    intro sign visible member
    rcases List.mem_cons.mp member with rfl | digit
    · exact visible
    · exact isBlank_of_mem_padded digit
  rw [yearChars] at member
  split at member
  · exact signed '-' (by decide) member
  · split at member
    · exact signed '+' (by decide) member
    · exact isBlank_of_mem_padded member

section Pieces

variable {pieces : List Piece} {rest : List Char} {civil : Civil}

theorem readPieces_month {month : ℕ} (small : month < 100) :
    readPieces (.month :: pieces) (padded 2 month ++ rest) civil = readPieces pieces rest { civil with month } := by
  rw [readPieces, dropWhile_isBlank_padded, short?_padded (by decide) small]
  rfl

theorem readPieces_day {day : ℕ} (small : day < 100) :
    readPieces (.day :: pieces) (padded 2 day ++ rest) civil = readPieces pieces rest { civil with day } := by
  rw [readPieces, dropWhile_isBlank_padded, short?_padded (by decide) small]
  rfl

theorem readPieces_mark (c : Char) :
    readPieces (.mark c :: pieces) (c :: rest) civil = readPieces pieces rest civil := by
  rw [readPieces, if_pos rfl]

/-- A year without a sign is a short number. -/
theorem year?_of_digit {cs : List Char} (digit : ∀ c ∈ cs.head?, c.isDigit = true) :
    year? cs = (short? 4 cs).map fun (year, rest) => ((year : ℤ), rest) := by
  rw [year?]
  -- A digit is neither of the signs.
  · rintro _ rfl
    cases digit '-' rfl
  · rintro _ rfl
    cases digit '+' rfl

theorem isDigit_of_mem_head?_padded {width n : ℕ} :
    ∀ c ∈ (padded width n ++ rest).head?, c.isDigit = true := by
  have nonempty : padded width n ≠ [] := padded_ne_nil
  intro c found
  rw [List.head?_append_of_ne_nil _ nonempty] at found
  exact isDigit_of_mem_padded (List.mem_of_mem_head? found)

/-- A year of at most four digits is read up to the end of them. -/
theorem year?_padded_of_end {width n : ℕ} (fits : (padded width n).length ≤ 4)
    (ends : ∀ c ∈ rest.head?, c.isDigit = false) : year? (padded width n ++ rest) = some ((n : ℤ), rest) := by
  rw [year?_of_digit isDigit_of_mem_head?_padded, short?_padded_of_end fits ends]
  rfl

/-- A year of four digits is read whole, whatever follows it. -/
theorem year?_padded {n : ℕ} (small : n < 10 ^ 4) : year? (padded 4 n ++ rest) = some ((n : ℤ), rest) := by
  rw [year?_of_digit isDigit_of_mem_head?_padded, short?_padded (by decide) small]
  rfl

/-- A written year is read up to the end of its digits. -/
theorem year?_yearChars {year : ℤ} (ends : ∀ c ∈ rest.head?, c.isDigit = false) :
    year? (yearChars year ++ rest) = some (year, rest) := by
  rw [yearChars]
  split
  case isTrue before =>
    have size : -(year.natAbs : ℤ) = year := by omega
    rw [List.cons_append, year?, long?_padded ends]
    exact congrArg (fun year => some (year, rest)) size
  case isFalse =>
    have size : (year.natAbs : ℤ) = year := by omega
    split
    case isTrue =>
      rw [List.cons_append, year?, long?_padded ends]
      exact congrArg (fun year => some (year, rest)) size
    case isFalse =>
      rw [year?_padded (by omega), size]

theorem readPieces_year {year : ℤ} (ends : ∀ c ∈ rest.head?, c.isDigit = false) :
    readPieces (.year :: pieces) (yearChars year ++ rest) civil = readPieces pieces rest { civil with year } := by
  rw [readPieces, dropWhile_isBlank_append (yearChars_ne_nil year) fun _ => isBlank_of_mem_yearChars,
    year?_yearChars ends]
  rfl

end Pieces

/-- The characters of a written date. -/
theorem toList_toText (date : Date) : date.toText.toList =
    yearChars date.civil.year ++ '-' :: (padded 2 date.civil.month ++ '-' :: padded 2 date.civil.day) := by
  simp [toText]

theorem isBlank_of_mem_toText {date : Date} {c : Char} (member : c ∈ date.toText.toList) : isBlank c = false := by
  simp only [toList_toText, List.mem_append, List.mem_cons] at member
  rcases member with year | rfl | month | rfl | day
  · exact isBlank_of_mem_yearChars year
  · decide
  · exact isBlank_of_mem_padded month
  · decide
  · exact isBlank_of_mem_padded day

/-- The first layout reads a date as it is written. -/
theorem ofLayout?_toText (date : Date) : ofLayout? dashed date.toText.toList = some date := by
  obtain ⟨month, day⟩ := date.civil_lt
  have read : readPieces dashed date.toText.toList ⟨0, 0, 0⟩ = some date.civil := by
    have last : padded 2 date.civil.day = padded 2 date.civil.day ++ [] := (List.append_nil _).symm
    rw [toList_toText, dashed, readPieces_year (by simp), readPieces_mark, readPieces_month month, readPieces_mark,
      last, readPieces_day day, readPieces]
  rw [ofLayout?, read]
  exact date.ofCivil_civil

/-- Every date is read back from its written form. -/
theorem ofText?_toText (date : Date) : ofText? date.toText = some date := by
  have trimmed : Trimmed date.toText.toList := trimmed_of_visible fun _ => isBlank_of_mem_toText
  have first : ofLayouts? date.toText.toList = some date := by
    rw [ofLayouts?, layouts, List.findSome?_cons, ofLayout?_toText]
  simp only [ofText?, trimChars_of_trimmed trimmed, first, Option.some_or]

end TradeLedger.Date
