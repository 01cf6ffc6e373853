import Mathlib.Tactic.Common
import TradeLedger.Text.Basic
import TradeLedger.Text.Uppercase

/-! Upper case and the case of the letters A to Z. An upper-case text is its own upper case, and the
case of A to Z never shows in it. A text need not agree with its upper case up to that case, though: it
does if no other letter changes, as in every text within ASCII. -/
namespace TradeLedger.Text

section Table

variable {run : CaseRun} {code : Nat}

/-- The code that the run maps a code to. -/
def CaseRun.image (run : CaseRun) (code : Nat) : Nat := run.target + (code - run.first)

/-- The codes that the run covers. -/
def CaseRun.codes (run : CaseRun) : List Nat :=
  (List.range ((run.last - run.first) / run.step + 1)).map fun place => run.first + place * run.step

theorem CaseRun.covers_iff :
    run.covers code = true ↔ run.first ≤ code ∧ code ≤ run.last ∧ (code - run.first) % run.step = 0 := by
  simp [covers, and_assoc]

theorem CaseRun.mem_codes (covered : run.covers code = true) : code ∈ run.codes := by
  obtain ⟨above, below, step⟩ := covers_iff.mp covered
  have place : (code - run.first) / run.step ≤ (run.last - run.first) / run.step :=
    Nat.div_le_div_right (by omega)
  have code_eq : (code - run.first) / run.step * run.step = code - run.first :=
    Nat.div_mul_cancel (Nat.dvd_of_mod_eq_zero step)
  exact List.mem_map.mpr ⟨_, List.mem_range.mpr (Nat.lt_succ_of_le place), by omega⟩

/-- The number whose binary digits are set at the codes. Tables as such numbers are compared in one step. -/
def bitsAt (codes : List Nat) : Nat := codes.foldr (fun code bits => 1 <<< code ||| bits) 0

theorem testBit_bitsAt {codes : List Nat} (member : code ∈ codes) : (bitsAt codes).testBit code = true := by
  induction codes with
  | nil => cases member
  | cons first rest ih =>
    rw [bitsAt, List.foldr_cons, Nat.testBit_or, Bool.or_eq_true]
    rcases List.mem_cons.mp member with rfl | later
    · exact .inl (by rw [Nat.one_shiftLeft, Nat.testBit_two_pow_self])
    · exact .inr (ih later)

/-- Lists that share no digit share no code. -/
theorem not_mem_of_bits {codes others : List Nat} (apart : bitsAt codes &&& bitsAt others = 0)
    (member : code ∈ codes) : code ∉ others := by
  intro shared
  have both : (bitsAt codes &&& bitsAt others).testBit code = true := by
    rw [Nat.testBit_and, testBit_bitsAt member, testBit_bitsAt shared, Bool.and_self]
  rw [apart, Nat.zero_testBit] at both
  cases both

/-- The codes that have an entry in the table, and those of ASCII from the small letters on. -/
def casedCodes : List Nat :=
  List.range' 0x61 0x1F ++ (caseExpansions.map Prod.fst ++ caseRuns.flatMap CaseRun.codes)

/-- The codes of the characters that the table leads to. -/
def upperCodes : List Nat :=
  caseExpansions.flatMap Prod.snd ++ caseRuns.flatMap fun run => run.codes.map run.image

theorem mem_upperCodes_of_expansion {entry : Nat × List Nat} (listed : entry ∈ caseExpansions)
    (member : code ∈ entry.2) : code ∈ upperCodes :=
  List.mem_append_left _ (List.mem_flatMap.mpr ⟨entry, listed, member⟩)

theorem mem_upperCodes_of_run (listed : run ∈ caseRuns) (covered : run.covers code = true) :
    run.image code ∈ upperCodes :=
  List.mem_append_right _ (List.mem_flatMap.mpr ⟨run, listed, List.mem_map_of_mem (run.mem_codes covered)⟩)

theorem upperCodes_apart : bitsAt upperCodes &&& bitsAt casedCodes = 0 := by
  decide +kernel

end Table

section Characters

variable {c d : Char}

theorem toNat_ofNat {code : Nat} (valid : code.isValidChar) : (Char.ofNat code).toNat = code := by
  rw [Char.ofNat, dif_pos valid]
  rfl

theorem toNat_toUpper (c : Char) :
    c.toUpper.toNat = if 0x61 ≤ c.toNat ∧ c.toNat ≤ 0x7A then c.toNat - 0x20 else c.toNat := by
  have letter : 'a'.val ≤ c.val ∧ c.val ≤ 'z'.val ↔ 0x61 ≤ c.toNat ∧ c.toNat ≤ 0x7A :=
    and_congr UInt32.le_iff_toNat_le UInt32.le_iff_toNat_le
  split
  case isTrue small =>
    have shifted : c.toUpper = ⟨c.val + ('A'.val - 'a'.val), _⟩ := dif_pos (letter.mpr small)
    -- What is added is negative and wraps around.
    have sum : (c.val + ('A'.val - 'a'.val)).toNat = (c.toNat + 0xFFFFFFE0) % 0x100000000 := UInt32.toNat_add _ _
    rw [shifted]
    change (c.val + ('A'.val - 'a'.val)).toNat = _
    omega
  case isFalse other => exact congrArg Char.toNat (dif_neg (mt letter.mp other))

theorem toNat_toLower (c : Char) :
    c.toLower.toNat = if 0x41 ≤ c.toNat ∧ c.toNat ≤ 0x5A then c.toNat + 0x20 else c.toNat := by
  have letter : 'A'.val ≤ c.val ∧ c.val ≤ 'Z'.val ↔ 0x41 ≤ c.toNat ∧ c.toNat ≤ 0x5A :=
    and_congr UInt32.le_iff_toNat_le UInt32.le_iff_toNat_le
  split
  case isTrue capital =>
    have shifted : c.toLower = ⟨c.val + ('a'.val - 'A'.val), _⟩ := dif_pos (letter.mpr capital)
    have sum : (c.val + ('a'.val - 'A'.val)).toNat = (c.toNat + 0x20) % 0x100000000 := UInt32.toNat_add _ _
    rw [shifted]
    change (c.val + ('a'.val - 'A'.val)).toNat = _
    omega
  case isFalse other => exact congrArg Char.toNat (dif_neg (mt letter.mp other))

theorem toUpper_eq_self (other : ¬(0x61 ≤ c.toNat ∧ c.toNat ≤ 0x7A)) : c.toUpper = c := by
  rw [← Char.toNat_inj, toNat_toUpper, if_neg other]

theorem toLower_eq_self (other : ¬(0x41 ≤ c.toNat ∧ c.toNat ≤ 0x5A)) : c.toLower = c := by
  rw [← Char.toNat_inj, toNat_toLower, if_neg other]

theorem toUpper_toUpper (c : Char) : c.toUpper.toUpper = c.toUpper := by
  apply toUpper_eq_self
  grind [toNat_toUpper]

theorem toLower_toLower (c : Char) : c.toLower.toLower = c.toLower := by
  apply toLower_eq_self
  grind [toNat_toLower]

theorem toUpper_toLower (c : Char) : c.toLower.toUpper = c.toUpper := by
  simp only [← Char.toNat_inj, toNat_toUpper, toNat_toLower]
  grind

theorem toLower_toUpper (c : Char) : c.toUpper.toLower = c.toLower := by
  simp only [← Char.toNat_inj, toNat_toUpper, toNat_toLower]
  grind

theorem toUpper_ascii (ascii : c.toNat < 0x80) : c.toUpper.toNat < 0x80 := by
  rw [toNat_toUpper]
  split <;> omega

theorem toLower_ascii (ascii : c.toNat < 0x80) : c.toLower.toNat < 0x80 := by
  rw [toNat_toLower]
  split <;> omega

/-- The character is its own upper case: the letter that ASCII gives it, or one beyond ASCII that is in no
entry of the table. -/
def Settled (c : Char) : Prop :=
  (c.toNat < 0x80 ∧ c.toUpper = c) ∨ (0x80 ≤ c.toNat ∧ (∀ entry ∈ caseExpansions, entry.1 ≠ c.toNat) ∧
    ∀ run ∈ caseRuns, run.covers c.toNat = false)

instance (c : Char) : Decidable (Settled c) := inferInstanceAs (Decidable (_ ∨ (_ ∧ _ ∧ _)))

theorem settled_of_not_mem (unlisted : c.toNat ∉ casedCodes) : Settled c := by
  simp only [casedCodes, List.mem_append, not_or, List.mem_range'_1] at unlisted
  obtain ⟨letters, expansions, runs⟩ := unlisted
  by_cases early : c.toNat < 0x61
  · exact .inl ⟨by omega, toUpper_eq_self (by omega)⟩
  · refine .inr ⟨by omega, fun entry listed same => ?_, fun run listed => ?_⟩
    · exact expansions (List.mem_map.mpr ⟨entry, listed, same⟩)
    · rw [← Bool.not_eq_true]
      exact fun covered => runs (List.mem_flatMap.mpr ⟨run, listed, run.mem_codes covered⟩)

/-- Whatever the table leads to is settled. -/
theorem settled_of_mem_upperCodes {code : Nat} (member : code ∈ upperCodes) : Settled (Char.ofNat code) := by
  by_cases valid : code.isValidChar
  · apply settled_of_not_mem
    rw [toNat_ofNat valid]
    exact not_mem_of_bits upperCodes_apart member
  · rw [Char.ofNat, dif_neg valid]
    decide

theorem upperChar_of_settled (settled : Settled c) : upperChar c = [c] := by
  rw [upperChar]
  rcases settled with ⟨ascii, own⟩ | ⟨late, expansions, runs⟩
  · rw [if_pos ascii, own]
  · have noEntry : caseExpansions.find? (fun entry => entry.1 == c.toNat) = none := by
      rw [List.find?_eq_none]
      simpa using expansions
    have noRun : caseRuns.find? (·.covers c.toNat) = none := by
      rw [List.find?_eq_none]
      simpa using runs
    rw [if_neg (by omega), upperBeyondAscii, noEntry, noRun]

/-- Upper case is settled. -/
theorem settled_upperChar (member : d ∈ upperChar c) : Settled d := by
  rw [upperChar] at member
  split at member
  case isTrue ascii =>
    rw [List.mem_singleton.mp member]
    exact .inl ⟨toUpper_ascii ascii, toUpper_toUpper c⟩
  case isFalse late =>
    rw [upperBeyondAscii] at member
    split at member
    case h_1 entry found =>
      obtain ⟨code, listed, rfl⟩ := List.mem_map.mp member
      exact settled_of_mem_upperCodes (mem_upperCodes_of_expansion (List.mem_of_find?_eq_some found) listed)
    case h_2 noEntry =>
      split at member
      case h_1 run found =>
        rw [List.mem_singleton.mp member]
        exact settled_of_mem_upperCodes
          (mem_upperCodes_of_run (List.mem_of_find?_eq_some found) (by simpa using List.find?_some found))
      case h_2 noRun =>
        rw [List.mem_singleton.mp member]
        refine .inr ⟨by omega, ?_, ?_⟩
        · simpa using noEntry
        · simpa using noRun

theorem upperChar_toLower (c : Char) : upperChar c.toLower = upperChar c := by
  by_cases ascii : c.toNat < 0x80
  · rw [upperChar, upperChar, if_pos ascii, if_pos (toLower_ascii ascii), toUpper_toLower]
  · rw [toLower_eq_self (by omega)]

end Characters

variable {s t : String}

theorem flatMap_upperChar_of_settled {cs : List Char} (settled : ∀ c ∈ cs, Settled c) : cs.flatMap upperChar = cs := by
  induction cs with
  | nil => rfl
  | cons c cs ih =>
    rw [List.flatMap_cons, upperChar_of_settled (settled c List.mem_cons_self),
      ih fun d member => settled d (List.mem_cons_of_mem c member)]
    rfl

/-- Upper case is its own upper case. -/
theorem upper_upper (s : String) : upper (upper s) = upper s := by
  rw [upper, upper, String.toList_ofList, flatMap_upperChar_of_settled]
  intro d member
  obtain ⟨c, _, produced⟩ := List.mem_flatMap.mp member
  exact settled_upperChar produced

/-- The case of A to Z does not show in it. -/
theorem upper_lowerAscii (s : String) : upper (lowerAscii s) = upper s := by
  rw [upper, lowerAscii, String.toList_ofList, List.flatMap_map, upper]
  simp only [upperChar_toLower]

/-- The text agrees with its upper case up to the case of A to Z. -/
def Cased (s : String) : Prop := sameIgnoringAsciiCase (upper s) s = true

instance (s : String) : Decidable (Cased s) := inferInstanceAs (Decidable (_ = true))

theorem cased_upper (s : String) : Cased (upper s) := by
  rw [Cased, upper_upper, sameIgnoringAsciiCase, beq_self_eq_true]

/-- The text has the first 128 characters only. -/
def IsAscii (s : String) : Prop := ∀ c ∈ s.toList, c.toNat < 0x80

instance (s : String) : Decidable (IsAscii s) := List.decidableBAll (fun c : Char => c.toNat < 0x80) s.toList

theorem cased_of_ascii (ascii : IsAscii s) : Cased s := by
  have same : ∀ cs : List Char, (∀ c ∈ cs, c.toNat < 0x80) →
      (cs.flatMap upperChar).map Char.toLower = cs.map Char.toLower := by
    intro cs ascii
    induction cs with
    | nil => rfl
    | cons c cs ih =>
      have first := ascii c List.mem_cons_self
      rw [List.flatMap_cons, List.map_append, ih fun d member => ascii d (List.mem_cons_of_mem c member), upperChar,
        if_pos first, List.map_cons, List.map_cons, toLower_toUpper]
      rfl
  rw [Cased, sameIgnoringAsciiCase, lowerAscii, lowerAscii, upper, String.toList_ofList, same s.toList ascii,
    beq_self_eq_true]

/-- An upper-case text agrees with the texts of that upper case, save those that do not agree with their
own. -/
theorem sameIgnoringAsciiCase_upper_iff : sameIgnoringAsciiCase (upper s) t = true ↔ upper t = upper s ∧ Cased t := by
  constructor
  · intro agree
    have lower : lowerAscii (upper s) = lowerAscii t := beq_iff_eq.mp agree
    have same : upper t = upper s := by
      rw [← upper_lowerAscii t, ← lower, upper_lowerAscii, upper_upper]
    exact ⟨same, by rw [Cased, same, agree]⟩
  · rintro ⟨same, cased⟩
    rw [← same]
    exact cased

end TradeLedger.Text
