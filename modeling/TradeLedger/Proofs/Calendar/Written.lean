import TradeLedger.Proofs.Calendar.Layouts

/-! Dates written in a layout. With a year of four digits each layout writes ten bytes, and no other layout reads
them. They are read back whatever follows them: where something does, no layout reads the whole text, and its first
ten bytes are those that were written. -/
namespace TradeLedger

/-- If all elements but one have no answer, that one decides. -/
theorem findSome?_of_others {α β : Type} {f : α → Option β} {x : α} {xs : List α} (member : x ∈ xs)
    (others : ∀ y ∈ xs, y ≠ x → f y = none) : xs.findSome? f = f x := by
  induction xs with
  | nil => cases member
  | cons y xs ih =>
    obtain ⟨first, rest⟩ := List.forall_mem_cons.mp others
    rw [List.findSome?_cons]
    by_cases same : y = x
    · subst same
      cases answer : f y with
      | some found => rfl
      | none =>
        rw [List.findSome?_eq_none_iff]
        intro z later
        by_cases again : z = y
        · rw [again, answer]
        · exact rest z later again
    · rw [first same]
      exact ih ((List.mem_cons.mp member).resolve_left (Ne.symm same)) rest

namespace Date

open Text

/-- The characters that a layout writes for one of its parts. Months and days have two digits. -/
def Piece.written (civil : Civil) : Piece → List Char
  | .year => yearChars civil.year
  | .month => padded 2 civil.month
  | .day => padded 2 civil.day
  | .mark c => [c]

/-- The characters of a date in a layout. -/
def written (layout : List Piece) (date : Date) : List Char := layout.flatMap (Piece.written date.civil)

/-- A date in a layout. -/
def toTextIn (layout : List Piece) (date : Date) : String := String.ofList (written layout date)

/-- The first layout is the one in which dates are stored. -/
theorem toTextIn_dashed (date : Date) : toTextIn dashed date = date.toText := by
  simp [toTextIn, written, dashed, Piece.written, toText]

section Written

variable {date : Date} {layout : List Piece} {rest : List Char}

/-- The year is written with four digits. -/
def FourDigits (date : Date) : Prop := 0 ≤ date.year ∧ date.year ≤ 9999

theorem FourDigits.yearChars_eq (four : date.FourDigits) :
    yearChars date.civil.year = padded 4 date.civil.year.natAbs := by
  have least : 0 ≤ date.civil.year := four.1
  have greatest : date.civil.year ≤ 9999 := four.2
  rw [yearChars, if_neg (not_lt.mpr least), if_neg (not_lt.mpr greatest)]

theorem FourDigits.natAbs_lt (four : date.FourDigits) : date.civil.year.natAbs < 10 ^ 4 := by
  obtain ⟨least, greatest⟩ := four
  change date.year.natAbs < 10000
  omega

theorem readPieces_end (civil : Civil) : readPieces [] rest civil = if rest = [] then some civil else none := by
  cases rest <;> rfl

theorem FourDigits.readPieces_year {pieces : List Piece} {civil : Civil} (four : date.FourDigits) :
    readPieces (.year :: pieces) (yearChars date.civil.year ++ rest) civil =
      readPieces pieces rest { civil with year := date.civil.year } := by
  rw [four.yearChars_eq, readPieces, dropWhile_isBlank_padded, year?_padded four.natAbs_lt]
  have size : (date.civil.year.natAbs : ℤ) = date.civil.year := Int.natAbs_of_nonneg four.1
  rw [size]
  rfl

/-- A layout reads the date that it has written, if nothing follows. -/
theorem ofLayout?_written (four : date.FourDigits) (listed : layout ∈ layouts) (rest : List Char) :
    ofLayout? layout (written layout date ++ rest) = if rest = [] then some date else none := by
  obtain ⟨month, day⟩ := date.civil_lt
  have read : readPieces layout (written layout date ++ rest) ⟨0, 0, 0⟩ = readPieces [] rest date.civil := by
    rcases mem_layouts_iff.mp listed with rfl | rfl | rfl <;>
      simp only [written, dashed, monthFirst, yearFirst, List.flatMap_cons, List.flatMap_nil, Piece.written,
        List.append_assoc, List.append_nil, List.cons_append, List.nil_append, readPieces_mark, readPieces_month month,
        readPieces_day day, four.readPieces_year]
  rw [ofLayout?, read, readPieces_end]
  split
  · exact date.ofCivil_civil
  · rfl

/-- A layout reads no date written with another mark. -/
theorem ofLayout?_of_other_mark {other : List Piece} (four : date.FourDigits) (listed : layout ∈ layouts)
    (listed' : other ∈ layouts) (apart : ∀ c, Piece.mark c ∈ layout → Piece.mark c ∉ other) (rest : List Char) :
    ofLayout? other (written layout date ++ rest) = none := by
  rw [Option.eq_none_iff_forall_ne_some]
  intro found read
  have own : ofLayout? layout (written layout date) = some date := by
    have whole := ofLayout?_written four listed []
    rwa [List.append_nil, if_pos rfl] at whole
  obtain ⟨mark, inside, digit, spans⟩ := ofLayout?_spans listed own
  obtain ⟨mark', inside', digit', longer⟩ := ofLayout?_spans listed' read
  obtain ⟨rfl, _⟩ := spans.all_digits longer digit digit'
  exact apart mark inside inside'

/-- A month or a day is read from the first two digits of a year. -/
theorem short?_of_four (four : date.FourDigits) (rest : List Char) :
    ∃ n c left, c.isDigit = true ∧ short? 2 (padded 4 date.civil.year.natAbs ++ rest) = some (n, c :: left) := by
  have length := length_padded (by decide) four.natAbs_lt
  have digits : ∀ c ∈ padded 4 date.civil.year.natAbs, c.isDigit = true := fun _ => isDigit_of_mem_padded
  match padded 4 date.civil.year.natAbs, length, digits with
  | [a, b, c, d], _, digits =>
    have read := @short?_append rest 2 _ digits (by simp) (.inl (by simp))
    exact ⟨_, c, _, digits c (by simp), read⟩

theorem ofLayout?_monthFirst_of_yearFirst (four : date.FourDigits) :
    ofLayout? monthFirst (written yearFirst date ++ rest) = none := by
  have year : written yearFirst date ++ rest = padded 4 date.civil.year.natAbs ++
      (written [.mark '/', .month, .mark '/', .day] date ++ rest) := by
    rw [← four.yearChars_eq, ← List.append_assoc]
    rfl
  obtain ⟨n, c, left, digit, read⟩ := short?_of_four four (written [.mark '/', .month, .mark '/', .day] date ++ rest)
  have mark : c ≠ '/' := by
    rintro rfl
    cases digit
  -- Two digits of the year are read as the month, and the others stand where the mark should be.
  rw [year, ofLayout?, monthFirst, readPieces, dropWhile_isBlank_padded, read]
  simp [readPieces, mark]

theorem ofLayout?_yearFirst_of_monthFirst (four : date.FourDigits) :
    ofLayout? yearFirst (written monthFirst date ++ rest) = none := by
  obtain ⟨month, day⟩ := date.civil_lt
  obtain ⟨n, c, left, _, read⟩ := short?_of_four four rest
  have text : written monthFirst date ++ rest = padded 2 date.civil.month ++
      '/' :: (padded 2 date.civil.day ++ '/' :: (padded 4 date.civil.year.natAbs ++ rest)) := by
    simp [written, monthFirst, Piece.written, four.yearChars_eq]
  have short : (padded 2 date.civil.month).length ≤ 4 := by
    rw [length_padded (by decide) month]
    decide
  -- The month is read as the year and the day as the month, and the year goes on where the day should end.
  rw [text, ofLayout?, yearFirst, readPieces, dropWhile_isBlank_padded, year?_padded_of_end short (by simp)]
  simp only [Option.bind_eq_bind, Option.bind_some, readPieces_mark, readPieces_month day]
  rw [readPieces, dropWhile_isBlank_padded, read]
  rfl

theorem ofLayout?_of_other {other : List Piece} (four : date.FourDigits) (listed : layout ∈ layouts)
    (listed' : other ∈ layouts) (different : other ≠ layout) :
    ofLayout? other (written layout date ++ rest) = none := by
  have marks := fun apart => ofLayout?_of_other_mark four listed listed' apart rest
  rcases mem_layouts_iff.mp listed with rfl | rfl | rfl <;> rcases mem_layouts_iff.mp listed' with rfl | rfl | rfl
  case inr.inl.inr.inr => exact ofLayout?_yearFirst_of_monthFirst four
  case inr.inr.inr.inl => exact ofLayout?_monthFirst_of_yearFirst four
  all_goals first
    | exact absurd rfl different
    | exact marks (by simp [dashed, monthFirst, yearFirst])

/-- Of the layouts only the one that a date was written in reads it, and only if nothing follows. -/
theorem ofLayouts?_written (four : date.FourDigits) (listed : layout ∈ layouts) (rest : List Char) :
    ofLayouts? (written layout date ++ rest) = if rest = [] then some date else none := by
  rw [← ofLayout?_written four listed rest, ofLayouts?]
  exact findSome?_of_others listed fun other listed' => ofLayout?_of_other four listed listed'

theorem utf8Size_of_isDigit {c : Char} (digit : c.isDigit = true) : c.utf8Size = 1 := by
  simp only [Char.isDigit, ge_iff_le, UInt32.le_iff_toNat_le, Bool.and_eq_true, decide_eq_true_eq] at digit
  exact Char.utf8Size_eq_one_iff.mpr (UInt32.le_iff_toNat_le.mpr (digit.2.trans (by decide)))

theorem utf8Len_of_digits {digits : List Char} (digit : ∀ c ∈ digits, c.isDigit = true) :
    String.utf8Len digits = digits.length := by
  induction digits with
  | nil => rfl
  | cons c digits ih =>
    obtain ⟨first, others⟩ := List.forall_mem_cons.mp digit
    rw [String.utf8Len_cons, ih others, utf8Size_of_isDigit first, List.length_cons]

theorem utf8Len_padded {n : ℕ} (width : ℕ) (positive : 0 < width) (small : n < 10 ^ width) :
    String.utf8Len (padded width n) = width := by
  rw [utf8Len_of_digits fun _ => isDigit_of_mem_padded, length_padded positive small]

/-- A layout writes a date with ten bytes. -/
theorem utf8Len_written (four : date.FourDigits) (listed : layout ∈ layouts) :
    String.utf8Len (written layout date) = dateBytes := by
  obtain ⟨month, day⟩ := date.civil_lt
  have year := utf8Len_padded 4 (by decide) four.natAbs_lt
  have month := utf8Len_padded 2 (by decide) month
  have day := utf8Len_padded 2 (by decide) day
  have dash : '-'.utf8Size = 1 := by decide
  have slash : '/'.utf8Size = 1 := by decide
  rcases mem_layouts_iff.mp listed with rfl | rfl | rfl <;>
    simp only [written, dashed, monthFirst, yearFirst, List.flatMap_cons, List.flatMap_nil, Piece.written,
      four.yearChars_eq, String.utf8Len_append, String.utf8Len_cons, String.utf8Len_nil, year, month, day, dash,
      slash] <;>
    rfl

theorem trimmed_written (listed : layout ∈ layouts) : Trimmed (written layout date) := by
  refine trimmed_of_visible fun c member => ?_
  obtain ⟨piece, inside, member⟩ := List.mem_flatMap.mp member
  cases piece with
  | year => exact isBlank_of_mem_yearChars member
  | month => exact isBlank_of_mem_padded member
  | day => exact isBlank_of_mem_padded member
  | mark mark =>
    rw [List.mem_singleton.mp member]
    rcases mark_of_mem listed inside with rfl | rfl <;> decide

theorem written_ne_nil (four : date.FourDigits) (listed : layout ∈ layouts) : written layout date ≠ [] := by
  intro empty
  have bytes := utf8Len_written four listed
  rw [empty] at bytes
  cases bytes

/-- A date is read from the text that a layout writes for it, whatever follows. -/
theorem ofText?_written (four : date.FourDigits) (listed : layout ∈ layouts) {before : List Char}
    (blank : ∀ c ∈ before, isBlank c = true) :
    ofText? (String.ofList (before ++ (written layout date ++ rest))) = some date := by
  obtain ⟨left, trimmed⟩ : ∃ left, trimChars (before ++ (written layout date ++ rest)) = written layout date ++ left :=
    ⟨_, by rw [trimChars_blank_append blank,
      (trimmed_written listed).trimChars_append (written_ne_nil four listed)]⟩
  have front : bytePrefix? dateBytes (written layout date ++ left) = some (written layout date) :=
    bytePrefix?_eq_some_iff.mpr ⟨List.prefix_append .., utf8Len_written four listed⟩
  have alone : ofLayouts? (written layout date) = some date := by
    have whole := ofLayouts?_written four listed []
    rwa [List.append_nil, if_pos rfl] at whole
  simp only [ofText?, String.toList_ofList, trimmed, front, Option.getD_some, ofLayouts?_written four listed, alone]
  split <;> rfl

end Written

/-- Every date of the calendar is read back from its written form. A date whose year has four digits is read back from
every layout, with blanks around it and whatever text behind it. -/
theorem written_dates_read (date : Date) :
    ofText? date.toText = some date ∧
      (0 ≤ date.year → date.year ≤ 9999 → ∀ layout ∈ layouts, ∀ before text after : String,
        (∀ c ∈ before.toList, isBlank c = true) → (∀ c ∈ after.toList, isBlank c = true) →
          ofText? (before ++ (date.toTextIn layout ++ text) ++ after) = some date) := by
  refine ⟨ofText?_toText date, fun least greatest layout listed before text after blank _ => ?_⟩
  have whole : before ++ (date.toTextIn layout ++ text) ++ after =
      String.ofList (before.toList ++ (written layout date ++ (text ++ after).toList)) := by
    simp [toTextIn, String.append_assoc]
  rw [whole]
  exact ofText?_written ⟨least, greatest⟩ listed blank

/-- Month and day could be the year and the month of another layout, and the digits behind them its day, but they
are not read so. -/
theorem ambiguous_date_read :
    layouts.map (fun layout => toTextIn layout ⟨734562, by decide, by decide⟩) =
        ["2012-03-01", "03/01/2012", "2012/03/01"] ∧
      ofText? ("\u3000 " ++ ("03/01/2012" ++ "5 09:30") ++ "\n") = some ⟨734562, by decide, by decide⟩ := by
  have texts : layouts.map (fun layout => toTextIn layout ⟨734562, by decide, by decide⟩) =
      ["2012-03-01", "03/01/2012", "2012/03/01"] := by decide +kernel
  have text : toTextIn monthFirst ⟨734562, by decide, by decide⟩ = "03/01/2012" := by
    simp only [layouts, List.map_cons, List.cons.injEq] at texts
    exact texts.2.1
  have read := (written_dates_read ⟨734562, by decide, by decide⟩).2 (by decide) (by decide) monthFirst (by decide)
    "\u3000 " "5 09:30" "\n" (List.all_eq_true.mp (by decide)) (List.all_eq_true.mp (by decide))
  rw [text] at read
  exact ⟨texts, read⟩

end Date

end TradeLedger
