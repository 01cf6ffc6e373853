import Mathlib.Data.List.DropRight
import TradeLedger.Proofs.Text.Uppercase
import TradeLedger.Text.Basic

/-! Trimmed texts. A text is trimmed if neither end of it is blank; trimming makes it so, and leaves it as
it is afterwards. No change of case and no replacement of single characters makes a visible character blank,
so a trimmed text stays trimmed under them. -/
namespace TradeLedger.Text

/-- Neither the first nor the last character is blank. -/
structure Trimmed (cs : List Char) : Prop where
  first : ∀ c ∈ cs.head?, isBlank c = false
  last : ∀ c ∈ cs.getLast?, isBlank c = false

theorem trimmed_iff (cs : List Char) :
    (cs.head?.all (!isBlank ·) && cs.getLast?.all (!isBlank ·)) = true ↔ Trimmed cs := by
  simp only [Bool.and_eq_true, Option.all_eq_true, Bool.not_eq_true']
  exact ⟨fun ⟨first, last⟩ => ⟨first, last⟩, fun ⟨first, last⟩ => ⟨first, last⟩⟩

instance (cs : List Char) : Decidable (Trimmed cs) := decidable_of_iff _ (trimmed_iff cs)

variable {cs : List Char}

/-- No blanks are passed over before a trimmed text. -/
theorem Trimmed.dropWhile_append (trimmed : Trimmed cs) (nonempty : cs ≠ []) (rest : List Char) :
    (cs ++ rest).dropWhile isBlank = cs ++ rest := by
  obtain ⟨c, cs, rfl⟩ := List.exists_cons_of_ne_nil nonempty
  exact List.dropWhile_cons_of_neg (by simp [trimmed.first c rfl])

/-- Blanks at the end are those of what follows a trimmed text. -/
theorem Trimmed.rdropWhile_append (trimmed : Trimmed cs) (rest : List Char) :
    (cs ++ rest).rdropWhile isBlank = cs ++ rest.rdropWhile isBlank := by
  induction rest using List.reverseRecOn with
  | nil =>
    rw [List.append_nil, List.rdropWhile_nil, List.append_nil, List.rdropWhile_eq_self_iff]
    intro nonempty
    simp [trimmed.last _ (List.getLast?_eq_some_getLast nonempty)]
  | append_singleton rest c ih =>
    rw [← List.append_assoc, List.rdropWhile_concat, List.rdropWhile_concat, ih]
    split
    · rfl
    · exact List.append_assoc ..

/-- Blanks in front are trimmed off. -/
theorem trimChars_blank_append {before : List Char} (blank : ∀ c ∈ before, isBlank c = true) :
    trimChars (before ++ cs) = trimChars cs := by
  rw [trimChars, List.dropWhile_append_of_pos blank, trimChars]

/-- Behind a trimmed text, blanks are trimmed off at the end alone. -/
theorem Trimmed.trimChars_append (trimmed : Trimmed cs) (nonempty : cs ≠ []) (rest : List Char) :
    trimChars (cs ++ rest) = cs ++ rest.rdropWhile isBlank := by
  rw [trimChars, trimmed.dropWhile_append nonempty]
  exact trimmed.rdropWhile_append rest

theorem trimChars_of_trimmed (trimmed : Trimmed cs) : trimChars cs = cs := by
  by_cases empty : cs = []
  · rw [empty]
    rfl
  · have whole := trimmed.trimChars_append empty []
    rwa [List.rdropWhile_nil, List.append_nil] at whole

theorem trimChars_isPrefix (cs : List Char) : trimChars cs <+: cs.dropWhile isBlank :=
  List.rdropWhile_prefix isBlank _

theorem trimmed_trimChars (cs : List Char) : Trimmed (trimChars cs) where
  first c found := by
    -- What is left after the blanks at the end are dropped still begins with what was first.
    obtain ⟨rest, whole⟩ := trimChars_isPrefix cs
    have head : (cs.dropWhile isBlank).head? = some c := by
      rw [← whole, List.head?_append, Option.mem_def.mp found]
      rfl
    have visible := List.head?_dropWhile_not isBlank cs
    rwa [head] at visible
  last c found := by
    obtain ⟨nonempty, rfl⟩ := List.mem_getLast?_eq_getLast found
    exact Bool.eq_false_iff.mpr (List.rdropWhile_last_not isBlank (cs.dropWhile isBlank) nonempty)

/-- A text without blanks is trimmed. -/
theorem trimmed_of_visible (visible : ∀ c ∈ cs, isBlank c = false) : Trimmed cs where
  first c found := visible c (List.mem_of_mem_head? found)
  last c found := visible c (List.mem_of_mem_getLast? found)

/-- No blanks are passed over before a part without them. -/
theorem dropWhile_isBlank_append {rest : List Char} (nonempty : cs ≠ []) (visible : ∀ c ∈ cs, isBlank c = false) :
    (cs ++ rest).dropWhile isBlank = cs ++ rest :=
  (trimmed_of_visible visible).dropWhile_append nonempty rest

/-- Trimming adds no character. -/
theorem mem_of_mem_trimChars {c : Char} (member : c ∈ trimChars cs) : c ∈ cs := by
  exact (List.dropWhile_sublist isBlank).subset ((trimChars_isPrefix cs).subset member)

theorem trim_of_trimmed {text : String} (trimmed : Trimmed text.toList) : trim text = text := by
  rw [trim, trimChars_of_trimmed trimmed, String.ofList_toList]

theorem trimmed_trim (text : String) : Trimmed (trim text).toList := by
  rw [trim, String.toList_ofList]
  exact trimmed_trimChars _

section Characters

/-- A text stays trimmed when every visible character becomes one or several of them. -/
theorem Trimmed.flatMap {f : Char → List Char}
    (visible : ∀ c, isBlank c = false → f c ≠ [] ∧ ∀ d ∈ f c, isBlank d = false) (trimmed : Trimmed cs) :
    Trimmed (cs.flatMap f) where
  first d found := by
    cases cs with
    | nil => cases found
    | cons c cs =>
      obtain ⟨some, shown⟩ := visible c (trimmed.first c rfl)
      rw [List.flatMap_cons, List.head?_append_of_ne_nil _ some] at found
      exact shown d (List.mem_of_mem_head? found)
  last d found := by
    rcases List.eq_nil_or_concat' cs with rfl | ⟨front, c, rfl⟩
    · cases found
    · obtain ⟨some, shown⟩ := visible c (trimmed.last c List.getLast?_concat)
      rw [List.flatMap_append, List.flatMap_singleton, List.getLast?_append_of_ne_nil _ some] at found
      exact shown d (List.mem_of_mem_getLast? found)

theorem Trimmed.map {f : Char → Char} (visible : ∀ c, isBlank c = false → isBlank (f c) = false)
    (trimmed : Trimmed cs) : Trimmed (cs.map f) := by
  rw [List.map_eq_flatMap]
  refine trimmed.flatMap fun c shown => ⟨List.cons_ne_nil _ _, fun d member => ?_⟩
  rw [List.mem_singleton.mp member]
  exact visible c shown

variable {c d : Char}

/-- The codes of the blank characters. -/
def blankCodes : List Nat :=
  List.range' 0x09 5 ++ [0x20, 0x85, 0xA0, 0x1680] ++ List.range' 0x2000 11 ++ [0x2028, 0x2029, 0x202F, 0x205F, 0x3000]

theorem mem_blankCodes (blank : isBlank c = true) : c.toNat ∈ blankCodes := by
  simp only [isBlank, Bool.or_eq_true, Bool.and_eq_true, decide_eq_true_eq, beq_iff_eq] at blank
  simp only [blankCodes, List.mem_append, List.mem_range'_1, List.mem_cons, List.not_mem_nil]
  omega

/-- No character of ASCII that leaves a mark is blank. -/
theorem visible_of_graphic (above : 0x20 < c.toNat) (below : c.toNat < 0x7F) : isBlank c = false := by
  rw [← Bool.not_eq_true]
  intro blank
  have listed := mem_blankCodes blank
  simp only [blankCodes, List.mem_append, List.mem_range'_1, List.mem_cons, List.not_mem_nil, or_false] at listed
  omega

theorem toLower_visible (visible : isBlank c = false) : isBlank c.toLower = false := by
  by_cases capital : 0x41 ≤ c.toNat ∧ c.toNat ≤ 0x5A
  · have small := toNat_toLower c
    rw [if_pos capital] at small
    exact visible_of_graphic (by omega) (by omega)
  · rwa [toLower_eq_self capital]

theorem toUpper_visible (visible : isBlank c = false) : isBlank c.toUpper = false := by
  by_cases small : 0x61 ≤ c.toNat ∧ c.toNat ≤ 0x7A
  · have capital := toNat_toUpper c
    rw [if_pos small] at capital
    exact visible_of_graphic (by omega) (by omega)
  · rwa [toUpper_eq_self small]

theorem upperCodes_visible : bitsAt upperCodes &&& bitsAt blankCodes = 0 := by
  decide +kernel

/-- The table leads to no blank character. -/
theorem visible_of_mem_upperCodes {code : Nat} (member : code ∈ upperCodes) : isBlank (Char.ofNat code) = false := by
  by_cases valid : code.isValidChar
  · rw [← Bool.not_eq_true]
    intro blank
    have listed := mem_blankCodes blank
    rw [toNat_ofNat valid] at listed
    exact not_mem_of_bits upperCodes_visible member listed
  · rw [Char.ofNat, dif_neg valid]
    decide

theorem caseExpansions_ne_nil : ∀ entry ∈ caseExpansions, entry.2 ≠ [] := by
  decide +kernel

theorem upperChar_visible (visible : isBlank c = false) :
    upperChar c ≠ [] ∧ ∀ d ∈ upperChar c, isBlank d = false := by
  rw [upperChar]
  split
  case isTrue ascii =>
    exact ⟨List.cons_ne_nil _ _, by simpa using toUpper_visible visible⟩
  case isFalse late =>
    rw [upperBeyondAscii]
    split
    case h_1 entry found =>
      have listed := List.mem_of_find?_eq_some found
      have shown : ∀ code ∈ entry.2, isBlank (Char.ofNat code) = false := fun code member =>
        visible_of_mem_upperCodes (mem_upperCodes_of_expansion listed member)
      exact ⟨by simpa using caseExpansions_ne_nil entry listed, by simpa using shown⟩
    case h_2 =>
      split
      case h_1 run found =>
        have image := visible_of_mem_upperCodes
          (mem_upperCodes_of_run (List.mem_of_find?_eq_some found) (by simpa using List.find?_some found))
        exact ⟨List.cons_ne_nil _ _, by simpa [CaseRun.image] using image⟩
      case h_2 => exact ⟨List.cons_ne_nil _ _, by simpa using visible⟩

theorem trimmed_upper {text : String} (trimmed : Trimmed text.toList) : Trimmed (upper text).toList := by
  rw [upper, String.toList_ofList]
  exact trimmed.flatMap fun _ => upperChar_visible

end Characters

end TradeLedger.Text
