import TradeLedger.Ledger.Line
import TradeLedger.Proofs.Text.Blank

/-! The normal form of a ledger line. A symbol is trimmed and in upper case, a contract is trimmed or the
symbol itself, and an action is known by its label: reading any of them again gives it back. An amount that
is zero has no sign. -/
namespace TradeLedger

open Text

namespace Action

/-- A character as it stands in the label of an action. -/
def labelChar (c : Char) : Char := if c.toLower = ' ' then '_' else c.toLower

theorem normalize_eq (raw : String) : normalize raw = String.ofList ((trimChars raw.toList).map labelChar) := by
  simp only [normalize, Text.label, lowerAscii, trim, String.toList_ofList, List.map_map]
  rfl

theorem labelChar_visible {c : Char} (visible : isBlank c = false) : isBlank (labelChar c) = false := by
  rw [labelChar]
  split
  · decide
  · exact toLower_visible visible

theorem labelChar_labelChar (c : Char) : labelChar (labelChar c) = labelChar c := by
  by_cases space : c.toLower = ' '
  · have underscore : labelChar c = '_' := if_pos space
    rw [underscore]
    decide
  · simp only [labelChar, if_neg space, toLower_toLower]

theorem normalize_normalize (raw : String) : normalize (normalize raw) = normalize raw := by
  have trimmed : Trimmed ((trimChars raw.toList).map labelChar) :=
    (trimmed_trimChars raw.toList).map fun _ => labelChar_visible
  have settled : labelChar ∘ labelChar = labelChar := by
    funext c
    rw [Function.comp_apply, labelChar_labelChar]
  rw [normalize_eq, normalize_eq, String.toList_ofList, trimChars_of_trimmed trimmed, List.map_map, settled]

/-- An action is the one that its label stands for. -/
theorem ofLabel_label_ofLabel (raw : String) : ofLabel (ofLabel raw).label = ofLabel raw := by
  have again : ofLabel (normalize raw) = ofLabel raw := by rw [ofLabel, normalize_normalize, ofLabel]
  have named : (ofLabel raw).label = normalize raw := by
    rw [ofLabel]
    split <;> simp_all [label]
  rw [named, again]

end Action

theorem Instrument.ofLabel_name (instrument : Instrument) : ofLabel instrument.name = instrument := by
  cases instrument <;> decide +kernel

namespace ImportedRow

theorem instrumentOf_name (instrument : Instrument) : instrumentOf (some instrument.name) = instrument := by
  rw [instrumentOf, Option.map_some, Option.getD_some, Instrument.ofLabel_name]

theorem trimmed_normalizeSymbol (raw : Option String) : Trimmed (normalizeSymbol raw).toList :=
  trimmed_upper (trimmed_trim (raw.getD ""))

theorem normalizeSymbol_normalizeSymbol (raw : Option String) :
    normalizeSymbol (some (normalizeSymbol raw)) = normalizeSymbol raw := by
  rw [normalizeSymbol, Option.getD_some, trim_of_trimmed (trimmed_normalizeSymbol raw), normalizeSymbol, upper_upper]

theorem contractOr_some (symbol written : String) :
    contractOr symbol (some written) = if trim written = "" then symbol else trim written := by
  by_cases empty : trim written = "" <;> simp [contractOr, Option.filter_some, empty]

/-- A contract is read back beside its symbol. -/
theorem contractOr_contractOr {symbol : String} (trimmed : Trimmed symbol.toList) (raw : Option String) :
    contractOr symbol (some (contractOr symbol raw)) = contractOr symbol raw := by
  have own : contractOr symbol (some symbol) = symbol := by
    rw [contractOr_some, trim_of_trimmed trimmed, ite_self]
  cases raw with
  | none => exact own
  | some written =>
    rw [contractOr_some symbol written]
    split
    case isTrue => exact own
    case isFalse named => rw [contractOr_some, trim_of_trimmed (trimmed_trim written), if_neg named]

end ImportedRow

/-- The line with no sign on a zero. -/
def LedgerLine.withoutZeroSigns (line : LedgerLine) : LedgerLine :=
  { line with quantity := line.quantity.withoutZeroSign, amount := line.amount.withoutZeroSign }

end TradeLedger
