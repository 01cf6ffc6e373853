import Mathlib.Data.String.Basic
import TradeLedger.Proofs.Calendar.Text

/-! What a layout takes up. Every layout reads three numbers with its mark between them, where a number is made of
blanks, a sign and digits, and it reads the whole text. So of two texts that are dates, one of which begins with
the other, the longer one has more digits at its end, and nothing else. -/
namespace TradeLedger.Date

open Text

/-- The first bytes of a text are those characters at its start that take them up. -/
theorem bytePrefix?_eq_some_iff {bytes : ℕ} {cs front : List Char} :
    bytePrefix? bytes cs = some front ↔ front <+: cs ∧ String.utf8Len front = bytes := by
  fun_induction bytePrefix? bytes cs generalizing front with
  | case1 cs =>
    constructor
    · rintro ⟨rfl⟩
      exact ⟨List.nil_prefix, rfl⟩
    · rintro ⟨_, size⟩
      cases front with
      | nil => rfl
      | cons c front =>
        have positive := c.utf8Size_pos
        rw [String.utf8Len_cons] at size
        omega
  | case2 bytes =>
    constructor
    · rintro ⟨⟩
    · rintro ⟨begins, size⟩
      rw [List.prefix_nil.mp begins] at size
      cases size
  | case3 bytes c rest fits ih =>
    rw [Option.map_eq_some_iff]
    constructor
    · rintro ⟨front, found, rfl⟩
      obtain ⟨begins, size⟩ := ih.mp found
      rw [String.utf8Len_cons]
      exact ⟨(List.prefix_cons_inj c).mpr begins, by omega⟩
    · rintro ⟨begins, size⟩
      cases front with
      | nil => cases size
      | cons d front =>
        obtain ⟨rfl, others⟩ := List.cons_prefix_cons.mp begins
        rw [String.utf8Len_cons] at size
        exact ⟨front, ih.mpr ⟨others, by omega⟩, rfl⟩
  | case4 bytes c rest long =>
    constructor
    · rintro ⟨⟩
    · rintro ⟨begins, size⟩
      cases front with
      | nil => cases size
      | cons d front =>
        obtain ⟨rfl, _⟩ := List.cons_prefix_cons.mp begins
        rw [String.utf8Len_cons] at size
        omega

/-- The signs that a number may have. -/
def isSign (c : Char) : Bool := c == '-' || c == '+'

theorem isSign_of_isDigit {c : Char} (digit : c.isDigit = true) : isSign c = false := by
  rw [← Bool.not_eq_true]
  intro sign
  simp only [isSign, Bool.or_eq_true, beq_iff_eq] at sign
  rcases sign with rfl | rfl <;> cases digit

theorem isBlank_of_isSign {c : Char} (sign : isSign c = true) : isBlank c = false := by
  simp only [isSign, Bool.or_eq_true, beq_iff_eq] at sign
  rcases sign with rfl | rfl <;> decide

/-- Blanks, perhaps a sign, and digits, which a layout reads as a number. -/
inductive IsNumber : List Char → Prop where
  | intro {blanks signs digits : List Char} (blank : ∀ c ∈ blanks, isBlank c = true)
      (sign : ∀ c ∈ signs, isSign c = true) (nonempty : digits ≠ []) (digit : ∀ c ∈ digits, c.isDigit = true) :
      IsNumber (blanks ++ (signs ++ digits))

/-- What is left of a text behind a number. -/
def afterNumber (cs : List Char) : List Char :=
  ((cs.dropWhile isBlank).dropWhile isSign).dropWhile Char.isDigit

theorem IsNumber.afterNumber_append {number : List Char} (spelled : IsNumber number) (rest : List Char) :
    afterNumber (number ++ rest) = rest.dropWhile Char.isDigit := by
  obtain @⟨blanks, signs, digits, blank, sign, nonempty, digit⟩ := spelled
  have visible : ∀ c ∈ signs ++ digits, isBlank c = false := fun c member =>
    (List.mem_append.mp member).elim (fun member => isBlank_of_isSign (sign c member))
      fun member => isBlank_of_isDigit (digit c member)
  have unsigned : (digits ++ rest).dropWhile isSign = digits ++ rest := by
    obtain ⟨d, digits, rfl⟩ := List.exists_cons_of_ne_nil nonempty
    exact List.dropWhile_cons_of_neg (by simp [isSign_of_isDigit (digit d List.mem_cons_self)])
  rw [afterNumber, List.append_assoc, List.dropWhile_append_of_pos blank,
    dropWhile_isBlank_append (List.append_ne_nil_of_right_ne_nil _ nonempty) visible, List.append_assoc,
    List.dropWhile_append_of_pos sign, unsigned, List.dropWhile_append_of_pos digit]

section Reading

variable {cs rest : List Char} {n most : ℕ}

theorem digits?_eq_some {digits : List Char} (read : digits? digits rest = some (n, cs)) : digits ≠ [] ∧ rest = cs := by
  rw [digits?] at read
  split at read
  case isTrue => cases read
  case isFalse written =>
    exact ⟨fun empty => written (by rw [empty]; rfl), congrArg Prod.snd (Option.some.inj read)⟩

/-- A short number is made of the digits before the rest. -/
theorem short?_eq_some (read : short? most cs = some (n, rest)) :
    ∃ digits, digits ≠ [] ∧ (∀ c ∈ digits, c.isDigit = true) ∧ cs = digits ++ rest := by
  obtain ⟨nonempty, left⟩ := digits?_eq_some read
  have begins : (cs.take most).takeWhile Char.isDigit <+: cs :=
    (List.takeWhile_prefix _).trans (List.take_prefix most cs)
  exact ⟨_, nonempty, fun c member => List.mem_takeWhile_imp member,
    by rw [← left]; exact (List.prefix_iff_eq_append.mp begins).symm⟩

theorem long?_eq_some (read : long? cs = some (n, rest)) :
    ∃ digits, digits ≠ [] ∧ (∀ c ∈ digits, c.isDigit = true) ∧ cs = digits ++ rest := by
  obtain ⟨nonempty, left⟩ := digits?_eq_some read
  exact ⟨_, nonempty, fun c member => List.mem_takeWhile_imp member,
    by rw [← left, List.takeWhile_append_dropWhile]⟩

theorem year?_eq_some {year : ℤ} (read : year? cs = some (year, rest)) :
    ∃ signs digits, (∀ c ∈ signs, isSign c = true) ∧ digits ≠ [] ∧ (∀ c ∈ digits, c.isDigit = true) ∧
      cs = signs ++ digits ++ rest := by
  rw [year?.eq_def] at read
  split at read
  case h_1 cs =>
    obtain ⟨⟨n, left⟩, number, same⟩ := Option.map_eq_some_iff.mp read
    obtain ⟨digits, nonempty, digit, rfl⟩ := long?_eq_some number
    cases same
    exact ⟨['-'], digits, by simp [isSign], nonempty, digit, rfl⟩
  case h_2 cs =>
    obtain ⟨⟨n, left⟩, number, same⟩ := Option.map_eq_some_iff.mp read
    obtain ⟨digits, nonempty, digit, rfl⟩ := long?_eq_some number
    cases same
    exact ⟨['+'], digits, by simp [isSign], nonempty, digit, rfl⟩
  case h_3 =>
    obtain ⟨⟨n, left⟩, number, same⟩ := Option.map_eq_some_iff.mp read
    obtain ⟨digits, nonempty, digit, rfl⟩ := short?_eq_some number
    cases same
    exact ⟨[], digits, by simp, nonempty, digit, rfl⟩

variable {piece : Piece} {pieces : List Piece} {civil found : Civil}

/-- A part of a layout that is no mark takes up a number. -/
theorem readPieces_number (number : ∀ c, piece ≠ .mark c) (read : readPieces (piece :: pieces) cs civil = some found) :
    ∃ front rest civil', IsNumber front ∧ cs = front ++ rest ∧ readPieces pieces rest civil' = some found := by
  have blank : ∀ c ∈ cs.takeWhile isBlank, isBlank c = true := fun c member => List.mem_takeWhile_imp member
  have whole : cs.takeWhile isBlank ++ cs.dropWhile isBlank = cs := List.takeWhile_append_dropWhile
  have short : ∀ n rest, short? 2 (cs.dropWhile isBlank) = some (n, rest) →
      ∃ front, IsNumber front ∧ cs = front ++ rest := by
    intro n rest read
    obtain ⟨digits, nonempty, digit, same⟩ := short?_eq_some read
    have unsigned : ∀ c ∈ ([] : List Char), isSign c = true := by simp
    refine ⟨_, .intro blank unsigned nonempty digit, ?_⟩
    rw [List.nil_append, List.append_assoc, ← same, whole]
  cases piece with
  | year =>
    rw [readPieces] at read
    obtain ⟨⟨year, rest⟩, first, read⟩ := Option.bind_eq_some_iff.mp read
    obtain ⟨signs, digits, sign, nonempty, digit, same⟩ := year?_eq_some first
    refine ⟨_, rest, _, .intro blank sign nonempty digit, ?_, read⟩
    rw [List.append_assoc, ← same, whole]
  | month =>
    rw [readPieces] at read
    obtain ⟨⟨month, rest⟩, first, read⟩ := Option.bind_eq_some_iff.mp read
    obtain ⟨front, spelled, same⟩ := short month rest first
    exact ⟨front, rest, _, spelled, same, read⟩
  | day =>
    rw [readPieces] at read
    obtain ⟨⟨day, rest⟩, first, read⟩ := Option.bind_eq_some_iff.mp read
    obtain ⟨front, spelled, same⟩ := short day rest first
    exact ⟨front, rest, _, spelled, same, read⟩
  | mark c => exact absurd rfl (number c)

theorem readPieces_mark_eq_some {mark : Char} (read : readPieces (.mark mark :: pieces) cs civil = some found) :
    ∃ rest, cs = mark :: rest ∧ readPieces pieces rest civil = some found := by
  cases cs with
  | nil => cases read
  | cons c rest =>
    rw [readPieces] at read
    split at read
    case isTrue same => exact ⟨rest, by rw [same], read⟩
    case isFalse => cases read

end Reading

/-- Three numbers with a mark between neighbours. -/
inductive Spans (mark : Char) : List Char → Prop where
  | intro {first second third : List Char} (one : IsNumber first) (two : IsNumber second) (three : IsNumber third) :
      Spans mark (first ++ mark :: (second ++ mark :: third))

theorem mem_layouts_iff {layout : List Piece} :
    layout ∈ layouts ↔ layout = dashed ∨ layout = monthFirst ∨ layout = yearFirst := by
  simp only [layouts, List.mem_cons, List.not_mem_nil, or_false]

theorem mark_of_mem {layout : List Piece} {c : Char} (listed : layout ∈ layouts) (inside : .mark c ∈ layout) :
    c = '-' ∨ c = '/' := by
  rcases mem_layouts_iff.mp listed with rfl | rfl | rfl
  · exact .inl (by simpa [dashed] using inside)
  · exact .inr (by simpa [monthFirst] using inside)
  · exact .inr (by simpa [yearFirst] using inside)

/-- Each layout takes up three numbers with its mark between them. -/
theorem ofLayout?_spans {layout : List Piece} {cs : List Char} {date : Date} (listed : layout ∈ layouts)
    (read : ofLayout? layout cs = some date) : ∃ mark, .mark mark ∈ layout ∧ mark.isDigit = false ∧ Spans mark cs := by
  obtain ⟨mark, one, two, three, rfl, numbers⟩ : ∃ mark one two three,
      layout = [one, .mark mark, two, .mark mark, three] ∧ ∀ piece ∈ [one, two, three], ∀ c, piece ≠ Piece.mark c := by
    rcases mem_layouts_iff.mp listed with rfl | rfl | rfl
    · exact ⟨'-', .year, .month, .day, rfl, by simp⟩
    · exact ⟨'/', .month, .day, .year, rfl, by simp⟩
    · exact ⟨'/', .year, .month, .day, rfl, by simp⟩
  have digit : mark.isDigit = false := by
    rcases mark_of_mem listed (show Piece.mark mark ∈ _ by simp) with rfl | rfl <;> decide
  obtain ⟨civil, whole, _⟩ := Option.bind_eq_some_iff.mp read
  obtain ⟨first, rest, _, spelled, rfl, marked⟩ := readPieces_number (numbers one (by simp)) whole
  obtain ⟨rest, rfl, later⟩ := readPieces_mark_eq_some marked
  obtain ⟨second, rest, _, spelled', rfl, marked'⟩ := readPieces_number (numbers two (by simp)) later
  obtain ⟨rest, rfl, last⟩ := readPieces_mark_eq_some marked'
  obtain ⟨third, rest, _, spelled'', rfl, ended⟩ := readPieces_number (numbers three (by simp)) last
  cases rest with
  | cons c rest => cases ended
  | nil =>
    rw [List.append_nil]
    exact ⟨mark, by simp, digit, .intro spelled spelled' spelled''⟩

/-- A text that continues a date and is a date as a whole continues it by digits. -/
theorem Spans.all_digits {mark mark' : Char} {cs more : List Char} (spans : Spans mark cs)
    (longer : Spans mark' (cs ++ more)) (mark_digit : mark.isDigit = false) (mark_digit' : mark'.isDigit = false) :
    mark = mark' ∧ ∀ c ∈ more, c.isDigit = true := by
  obtain @⟨first, second, third, one, two, three⟩ := spans
  generalize whole : first ++ mark :: (second ++ mark :: third) ++ more = text at longer
  obtain @⟨first', second', third', one', two', three'⟩ := longer
  have stop : ∀ rest, (mark :: rest).dropWhile Char.isDigit = mark :: rest := fun rest =>
    List.dropWhile_cons_of_neg (by simp [mark_digit])
  have stop' : ∀ rest, (mark' :: rest).dropWhile Char.isDigit = mark' :: rest := fun rest =>
    List.dropWhile_cons_of_neg (by simp [mark_digit'])
  have afterFirst := congrArg afterNumber whole
  rw [List.append_assoc, one.afterNumber_append, one'.afterNumber_append, List.cons_append, stop, stop'] at afterFirst
  obtain ⟨rfl, afterMark⟩ := List.cons.inj afterFirst
  have afterSecond := congrArg afterNumber afterMark
  rw [List.append_assoc, two.afterNumber_append, two'.afterNumber_append, List.cons_append, stop, stop'] at afterSecond
  have afterThird := congrArg afterNumber (List.cons.inj afterSecond).2
  have ended := three'.afterNumber_append []
  rw [List.append_nil, List.dropWhile_nil] at ended
  rw [three.afterNumber_append, ended, List.dropWhile_eq_nil_iff] at afterThird
  exact ⟨rfl, afterThird⟩

end TradeLedger.Date
