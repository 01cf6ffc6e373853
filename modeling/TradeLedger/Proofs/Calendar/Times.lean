import TradeLedger.Proofs.Calendar.Layouts

/-! Times of day behind a date. No layout reads a date with something else than a digit behind it, so what is read
with a time behind a text is what its first ten bytes write. They are the date where the text has ten bytes or a time
already; a date that is written with fewer is lost, and of one that is written with more the end is left out. -/
namespace TradeLedger.Date

open Text

variable {cs more : List Char} {text suffix : String} {date found : Date}

/-- The date that the first ten bytes of a text write, if a character ends there. -/
def ofFirstBytes? (cs : List Char) : Option Date := (bytePrefix? dateBytes cs).bind ofLayouts?

/-- Behind a date only digits make another date. -/
theorem all_digits_of_longer (read : ofLayouts? cs = some date) (longer : ofLayouts? (cs ++ more) = some found) :
    ∀ c ∈ more, c.isDigit = true := by
  obtain ⟨layout, listed, read⟩ := List.exists_of_findSome?_eq_some read
  obtain ⟨layout', listed', longer⟩ := List.exists_of_findSome?_eq_some longer
  obtain ⟨mark, _, digit, spans⟩ := ofLayout?_spans listed read
  obtain ⟨mark', _, digit', spans'⟩ := ofLayout?_spans listed' longer
  exact (spans.all_digits spans' digit digit').2

theorem ofLayouts?_append_eq_none (read : ofLayouts? cs = some date) (stop : ∃ c ∈ more, c.isDigit = false) :
    ofLayouts? (cs ++ more) = none := by
  rw [Option.eq_none_iff_forall_ne_some]
  intro found longer
  obtain ⟨c, member, stop⟩ := stop
  rw [all_digits_of_longer read longer c member] at stop
  cases stop

/-- A trimmed text is a date as a whole, or else its first ten bytes are one. -/
theorem ofText?_cases (trimmed : Trimmed text.toList) (read : ofText? text = some date) :
    ofLayouts? text.toList = some date ∨
      ofLayouts? text.toList = none ∧ ofFirstBytes? text.toList = some date := by
  simp only [ofText?, trimChars_of_trimmed trimmed] at read
  cases whole : ofLayouts? text.toList with
  | some found =>
    rw [whole] at read
    exact .inl read
  | none =>
    refine .inr ⟨rfl, ?_⟩
    cases front : bytePrefix? dateBytes text.toList with
    | none =>
      rw [front, Option.getD_none, whole] at read
      cases read
    | some front' =>
      rw [whole, front, Option.none_or, Option.getD_some] at read
      rw [ofFirstBytes?, front]
      exact read

theorem ofFirstBytes?_eq_some (read : ofFirstBytes? cs = some date) :
    ∃ front, bytePrefix? dateBytes cs = some front ∧ front <+: cs ∧ ofLayouts? front = some date := by
  obtain ⟨front, found, read⟩ := Option.bind_eq_some_iff.mp read
  exact ⟨front, found, (bytePrefix?_eq_some_iff.mp found).1, read⟩

section Behind

variable {c : Char} {rest : List Char}

/-- With something else than a digit behind a date, the whole is none. -/
theorem ofLayouts?_behind (trimmed : Trimmed text.toList) (read : ofText? text = some date)
    (stop : c.isDigit = false) : ofLayouts? (text.toList ++ c :: rest) = none := by
  rcases ofText?_cases trimmed read with whole | ⟨_, front⟩
  · exact ofLayouts?_append_eq_none whole ⟨c, List.mem_cons_self, stop⟩
  · obtain ⟨front, _, ⟨between, same⟩, read⟩ := ofFirstBytes?_eq_some front
    rw [← same, List.append_assoc]
    exact ofLayouts?_append_eq_none read ⟨c, List.mem_append_right between List.mem_cons_self, stop⟩

/-- The ten bytes that are tried then are those of the text before it, or nothing is read from them. -/
theorem ofLayouts?_front_behind (trimmed : Trimmed text.toList) (read : ofText? text = some date)
    (stop : c.isDigit = false) :
    ofLayouts? ((bytePrefix? dateBytes (text.toList ++ c :: rest)).getD (text.toList ++ c :: rest)) =
      ofFirstBytes? text.toList := by
  cases own : bytePrefix? dateBytes text.toList with
  | some front =>
    obtain ⟨begins, size⟩ := bytePrefix?_eq_some_iff.mp own
    have same : bytePrefix? dateBytes (text.toList ++ c :: rest) = some front :=
      bytePrefix?_eq_some_iff.mpr ⟨begins.trans (List.prefix_append ..), size⟩
    rw [ofFirstBytes?, own, same]
    rfl
  | none =>
    have nothing : ofFirstBytes? text.toList = none := by
      rw [ofFirstBytes?, own]
      rfl
    rw [nothing]
    cases found : bytePrefix? dateBytes (text.toList ++ c :: rest) with
    | none => exact ofLayouts?_behind trimmed read stop
    | some front =>
      obtain ⟨begins, size⟩ := bytePrefix?_eq_some_iff.mp found
      -- The text itself has no ten bytes, so they reach beyond it.
      have within : ¬front <+: text.toList := by
        intro inside
        rw [bytePrefix?_eq_some_iff.mpr ⟨inside, size⟩] at own
        cases own
      obtain ⟨beyond, rfl⟩ := (List.prefix_or_prefix_of_prefix begins (List.prefix_append ..)).resolve_left within
      rw [List.prefix_append_right_inj] at begins
      cases beyond with
      | nil => exact absurd (by simp) within
      | cons d beyond =>
        obtain ⟨rfl, _⟩ := List.cons_prefix_cons.mp begins
        exact ofLayouts?_behind trimmed read stop

end Behind

theorem toList_ne_nil (read : ofText? text = some date) : text.toList ≠ [] := by
  intro empty
  simp only [ofText?, empty] at read
  cases read

/-- Blanks behind a date are passed over. -/
theorem ofText?_append_of_blank (trimmed : Trimmed text.toList) (read : ofText? text = some date)
    (blank : ∀ c ∈ suffix.toList, isBlank c = true) : ofText? (text ++ suffix) = some date := by
  have same : trimChars (text ++ suffix).toList = trimChars text.toList := by
    rw [String.toList_append, trimmed.trimChars_append (toList_ne_nil read),
      List.rdropWhile_eq_nil_iff.mpr blank, List.append_nil, trimChars_of_trimmed trimmed]
  simpa only [ofText?, same] using read

/-- With a suffix that is neither blank nor begins with a digit, only the first ten bytes of the text count. -/
theorem ofText?_append_of_visible (trimmed : Trimmed text.toList) (read : ofText? text = some date)
    (begins : ∀ c ∈ suffix.toList.head?, c.isDigit = false) (visible : ∃ c ∈ suffix.toList, isBlank c = false) :
    ofText? (text ++ suffix) = ofFirstBytes? text.toList := by
  obtain ⟨c, rest, more, stop⟩ : ∃ c rest, suffix.toList.rdropWhile isBlank = c :: rest ∧ c.isDigit = false := by
    have begun : suffix.toList.rdropWhile isBlank <+: suffix.toList := List.rdropWhile_prefix ..
    cases left : suffix.toList.rdropWhile isBlank with
    | nil =>
      obtain ⟨c, member, visible⟩ := visible
      rw [List.rdropWhile_eq_nil_iff.mp left c member] at visible
      cases visible
    | cons c rest =>
      rw [left] at begun
      obtain ⟨_, whole⟩ := begun
      exact ⟨c, rest, rfl, begins c (by rw [← whole]; rfl)⟩
  have trimmed' : trimChars (text ++ suffix).toList = text.toList ++ c :: rest := by
    rw [String.toList_append, trimmed.trimChars_append (toList_ne_nil read), more]
  simp only [ofText?, trimmed', ofLayouts?_behind trimmed read stop, Option.none_or,
    ofLayouts?_front_behind trimmed read stop]

/-- A text without ten bytes has no first ten. -/
theorem ofFirstBytes?_of_short (short : text.utf8ByteSize < dateBytes) : ofFirstBytes? text.toList = none := by
  rw [Option.eq_none_iff_forall_ne_some]
  intro found read
  obtain ⟨front, taken, begins, _⟩ := ofFirstBytes?_eq_some read
  have size := (bytePrefix?_eq_some_iff.mp taken).2
  have within := String.utf8Len_le_of_prefix begins
  rw [String.utf8Len_toList] at within
  omega

theorem ofFirstBytes?_of_exact (ten : text.utf8ByteSize = dateBytes) :
    ofFirstBytes? text.toList = ofLayouts? text.toList := by
  have whole : bytePrefix? dateBytes text.toList = some text.toList :=
    bytePrefix?_eq_some_iff.mpr ⟨List.prefix_rfl, by rw [String.utf8Len_toList, ten]⟩
  rw [ofFirstBytes?, whole]
  rfl

/-- A time of day behind a date leaves the date as it is exactly where it is blank or the first ten bytes of the
text before it are that date themselves. They are where the text has ten bytes, and where it is no date as a whole,
having a time of its own. A shorter text has no first ten bytes, and its date is lost. -/
theorem ofText?_timed_iff (trimmed : Trimmed text.toList) (read : ofText? text = some date)
    {suffix : String} (timed : suffix.toList.head? = some 'T' ∨ suffix.toList.head? = some ' ') :
    (ofText? (text ++ suffix) = some date ↔
      (∀ c ∈ suffix.toList, isBlank c = true) ∨ ofFirstBytes? text.toList = some date) ∧
    ((∃ c ∈ suffix.toList, isBlank c = false) → ofText? (text ++ suffix) = ofFirstBytes? text.toList) ∧
    (text.utf8ByteSize < dateBytes → ofFirstBytes? text.toList = none) ∧
    (text.utf8ByteSize = dateBytes ∨ ofLayouts? text.toList = none → ofFirstBytes? text.toList = some date) := by
  have begins : ∀ c ∈ suffix.toList.head?, c.isDigit = false := by
    intro c first
    rcases timed with timed | timed <;> rw [timed] at first <;> cases first <;> decide
  have behind := ofText?_append_of_visible trimmed read begins
  refine ⟨?_, behind, ofFirstBytes?_of_short, ?_⟩
  · by_cases blank : ∀ c ∈ suffix.toList, isBlank c = true
    · exact iff_of_true (ofText?_append_of_blank trimmed read blank) (.inl blank)
    · have visible : ∃ c ∈ suffix.toList, isBlank c = false := by simpa using blank
      rw [behind visible, or_iff_right blank]
  · rintro (ten | none)
    · rcases ofText?_cases trimmed read with whole | ⟨_, front⟩
      · rw [ofFirstBytes?_of_exact ten, whole]
      · exact front
    · rcases ofText?_cases trimmed read with whole | ⟨_, front⟩
      · rw [none] at whole
        cases whole
      · exact front

/-- Of a date with one digit for the month or the day a time leaves nothing, and of a date of eleven bytes another
date. -/
theorem unpadded_dates_change :
    (ofText? "3/1/2024" = ofCivil? ⟨2024, 3, 1⟩ ∧ (ofCivil? ⟨2024, 3, 1⟩).isSome ∧
      ofText? ("3/1/2024" ++ " 09:30:00") = none) ∧
    ofText? "+10000-1-12" = ofCivil? ⟨10000, 1, 12⟩ ∧
      ofText? ("+10000-1-12" ++ "T09:30") = ofCivil? ⟨10000, 1, 1⟩ ∧
      ofCivil? ⟨10000, 1, 12⟩ ≠ ofCivil? ⟨10000, 1, 1⟩ := by
  decide +kernel

/-- A time keeps the date of a text that has ten bytes or a time already, and not that of a shorter one. -/
theorem padded_dates_stay :
    (Trimmed "2024-03-01".toList ∧ ofText? "2024-03-01" = some ⟨738945, by decide, by decide⟩ ∧
      ofText? ("2024-03-01" ++ "T09:30") = some ⟨738945, by decide, by decide⟩) ∧
    (Trimmed "03/01/2024 09:30".toList ∧ ofText? "03/01/2024 09:30" = some ⟨738945, by decide, by decide⟩ ∧
      ofText? ("03/01/2024 09:30" ++ " UTC") = some ⟨738945, by decide, by decide⟩) ∧
    Trimmed "3/1/2024".toList ∧ ofText? "3/1/2024" = some ⟨738945, by decide, by decide⟩ ∧
      ofText? ("3/1/2024" ++ " 09:30") = none := by
  have padded : Trimmed "2024-03-01".toList := by decide +kernel
  have again : Trimmed "03/01/2024 09:30".toList := by decide +kernel
  have short : Trimmed "3/1/2024".toList := by decide +kernel
  have read : ofText? "2024-03-01" = some ⟨738945, by decide, by decide⟩ := by decide +kernel
  have read' : ofText? "03/01/2024 09:30" = some ⟨738945, by decide, by decide⟩ := by decide +kernel
  have read'' : ofText? "3/1/2024" = some ⟨738945, by decide, by decide⟩ := by decide +kernel
  obtain ⟨kept, _, _, stays⟩ := @ofText?_timed_iff _ _ padded read "T09:30" (.inl rfl)
  obtain ⟨kept', _, _, stays'⟩ := @ofText?_timed_iff _ _ again read' " UTC" (.inr rfl)
  obtain ⟨_, behind, lost, _⟩ := @ofText?_timed_iff _ _ short read'' " 09:30" (.inr rfl)
  refine ⟨⟨padded, read, kept.mpr (.inr (stays (.inl (by decide))))⟩,
    ⟨again, read', kept'.mpr (.inr (stays' (.inr (by decide +kernel))))⟩, short, read'', ?_⟩
  rw [behind ⟨'9', by decide, by decide⟩]
  exact lost (by decide)

end TradeLedger.Date
