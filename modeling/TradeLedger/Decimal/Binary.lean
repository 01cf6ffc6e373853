import TradeLedger.Binary64.Basic
import TradeLedger.Decimal.Text

/-! Between decimals and binary numbers. An imported number becomes the decimal of about
sixteen digits that it was written as; one that is missing, not finite or beyond the
ledger's limit becomes zero. A decimal is stored as a binary number near it. -/
namespace TradeLedger.Decimal

-- Powers mean the same under every import.
attribute [local instance (high)] instPowNat

/-- The largest magnitude that the ledger accepts, in whole units of account. -/
def ledgerLimit : Nat := 10 ^ (15 : Nat)

/-- The magnitude and the decimal places of `significand / 2 ^ halvings`. A factor of two
in the significand is taken out; without one the significand takes a factor of five and
the number one more place, or, where the capacity leaves no room, the last binary digit
is given up. -/
def toTenths : (halvings significand : Nat) → Nat × Nat
  | 0, significand => (significand, 0)
  | halvings + 1, significand =>
    if significand % 2 = 0 ∨ capacity ≤ significand * 5 then
      toTenths halvings (significand / 2)
    else
      let (magnitude, places) := toTenths halvings (significand * 5)
      (magnitude, places + 1)

/-- The magnitude and places after rounding, digit by digit and a half going up, until
there are few enough places and the magnitude has at most 52 bits; a magnitude of one
digit with too many places is zero. -/
def roundDigits : (places magnitude : Nat) → Nat × Nat
  | 0, magnitude => (magnitude, 0)
  | places + 1, magnitude =>
    if places + 1 ≤ maxScale ∧ magnitude < Binary64.binade then (magnitude, places + 1)
    else if magnitude / 10 = 0 then (0, 0)
    else roundDigits places (magnitude / 10 + if 5 ≤ magnitude % 10 then 1 else 0)

theorem toTenths_lt (halvings : Nat) : ∀ {significand : Nat}, significand < capacity →
    (toTenths halvings significand).1 < capacity := by
  induction halvings with
  | zero => exact fun bound => bound
  | succ halvings ih =>
    intro significand bound
    simp only [toTenths]
    split
    · exact ih (Nat.lt_of_le_of_lt (Nat.div_le_self ..) bound)
    · exact ih (by omega)

theorem roundDigits_bounds (places : Nat) : ∀ {magnitude : Nat}, magnitude < capacity →
    (roundDigits places magnitude).1 < capacity ∧
      (roundDigits places magnitude).2 ≤ maxScale := by
  induction places with
  | zero => exact fun bound => ⟨bound, Nat.zero_le _⟩
  | succ places ih =>
    intro magnitude bound
    simp only [roundDigits]
    split
    case isTrue small => exact ⟨bound, small.1⟩
    split
    · exact ⟨by decide, Nat.zero_le _⟩
    · exact ih (by split <;> omega)

theorem dropTrailingZeros_le (places : Nat) : ∀ magnitude : Nat,
    (dropTrailingZeros magnitude places).1 ≤ magnitude ∧
      (dropTrailingZeros magnitude places).2 ≤ places := by
  induction places with
  | zero => exact fun magnitude => ⟨Nat.le_refl _, Nat.le_refl _⟩
  | succ places ih =>
    intro magnitude
    simp only [dropTrailingZeros]
    split
    · have shorter := ih (magnitude / 10)
      exact ⟨Nat.le_trans shorter.1 (Nat.div_le_self ..), Nat.le_succ_of_le shorter.2⟩
    · exact ⟨Nat.le_refl _, Nat.le_refl _⟩

theorem significand_lt_capacity (word : Nat) : Binary64.significand word < capacity := by
  have room : 2 * Binary64.binade ≤ capacity := by decide
  have rest : word % Binary64.binade < Binary64.binade := Nat.mod_lt word (by decide)
  unfold Binary64.significand
  split <;> omega

/-- The magnitude and places of the decimal for a finite number with this word that is
below the ledger's limit. -/
def partsOfWord (word : Nat) : Nat × Nat :=
  let tenths := toTenths (1074 - Binary64.doublings word) (Binary64.significand word)
  let rounded := roundDigits tenths.2 tenths.1
  dropTrailingZeros rounded.1 rounded.2

theorem partsOfWord_bounds (word : Nat) :
    (partsOfWord word).1 < capacity ∧ (partsOfWord word).2 ≤ maxScale :=
  have rounded := roundDigits_bounds _
    (toTenths_lt (1074 - Binary64.doublings word) (significand_lt_capacity word))
  ⟨Nat.lt_of_le_of_lt (dropTrailingZeros_le _ _).1 rounded.1,
    Nat.le_trans (dropTrailingZeros_le _ _).2 rounded.2⟩

/-- The decimal for a finite number with this sign and word. -/
def ofFiniteWord (negative : Bool) (word : Nat) : Decimal where
  negative := negative
  magnitude := (partsOfWord word).1
  scale := (partsOfWord word).2
  magnitude_lt := (partsOfWord_bounds word).1
  scale_le := (partsOfWord_bounds word).2

/-- The decimal for an imported number; zero for one that is missing, not finite or beyond
the ledger's limit. -/
def ofImported : Option Binary64 → Decimal
  | some (.finite negative word) =>
    if Binary64.units word ≤ ledgerLimit * Binary64.unitsPerOne then
      ofFiniteWord negative word
    else zero
  | _ => zero

/-- The binary number that stores a decimal. Its whole part and its fraction are rounded
apart, and their sum is rounded again to the decimal's places. -/
def toBinary64 (a : Decimal) : Binary64 :=
  let power := Binary64.wordOfNat (10 ^ a.scale)
  let whole := Binary64.wordOfNat (a.magnitude / 10 ^ a.scale)
  let fraction := Binary64.divWords (Binary64.wordOfNat (a.magnitude % 10 ^ a.scale)) power
  let word :=
    if fraction = 0 then whole
    else
      let scaled := Binary64.mulWords (Binary64.addWords whole fraction) power
      Binary64.divWords (Binary64.roundWord scaled) power
  Binary64.ofWord a.negative word

end TradeLedger.Decimal
