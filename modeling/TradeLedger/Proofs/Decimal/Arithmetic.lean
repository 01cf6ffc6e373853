import TradeLedger.Decimal.Arithmetic
import TradeLedger.Proofs.Decimal.Fit

/-! Sums, differences and products are the exact results rounded once. Each has a result
exactly where the exact one is below the limit, and is an overflow otherwise. -/
namespace TradeLedger.Decimal

/-- The answer of an operation whose exact result is `x`: `x` rounded once if it is below
the limit, and otherwise the fault. -/
def Computes (answer : Except Fault Decimal) (x : ℚ) (fault : Fault) : Prop :=
  (∃ a, answer = .ok a ∧ |x| < limit ∧ Rounds a x) ∨ (answer = .error fault ∧ limit ≤ |x|)

namespace Computes

variable {answer : Except Fault Decimal} {x : ℚ} {fault : Fault} {a : Decimal}

theorem rounds (computes : Computes answer x fault) (ok : answer = .ok a) : Rounds a x := by
  rcases computes with ⟨b, made, _, rounded⟩ | ⟨failed, _⟩
  · rw [made] at ok
    cases ok
    exact rounded
  · rw [failed] at ok
    cases ok

theorem exists_ok (computes : Computes answer x fault) (below : |x| < limit) :
    ∃ a, answer = .ok a ∧ Rounds a x := by
  rcases computes with ⟨a, made, _, rounded⟩ | ⟨_, large⟩
  · exact ⟨a, made, rounded⟩
  · exact absurd below (not_lt.mpr large)

theorem eq_error (computes : Computes answer x fault) (large : limit ≤ |x|) : answer = .error fault := by
  rcases computes with ⟨_, _, below, _⟩ | ⟨failed, _⟩
  · exact absurd below (not_lt.mpr large)
  · exact failed

end Computes

/-- The answer of an operation is its exact result: it neither overflows nor rounds. -/
def IsExact (answer : Except Fault Decimal) (x : ℚ) : Prop := ∃ a, answer = .ok a ∧ a.toRat = x

instance (answer : Except Fault Decimal) (x : ℚ) : Decidable (IsExact answer x) :=
  match answer with
  | .ok a =>
    decidable_of_iff (a.toRat = x) ⟨fun same => ⟨a, rfl, same⟩, fun ⟨_, made, same⟩ => by cases made; exact same⟩
  | .error _ => .isFalse fun ⟨_, made, _⟩ => by cases made

theorem IsExact.toRat_eq {answer : Except Fault Decimal} {x : ℚ} {a : Decimal} (unrounded : IsExact answer x)
    (made : answer = .ok a) : a.toRat = x := by
  obtain ⟨b, answered, same⟩ := unrounded
  rw [answered] at made
  cases made
  exact same

theorem Rounds.congr {a b : Decimal} {x : ℚ} (rounded : Rounds a x) (same : b.toRat = a.toRat) :
    Rounds b x := by
  obtain ⟨digits, places, roundedAt, value⟩ := rounded
  exact ⟨digits, places, roundedAt, same.trans value⟩

theorem abs_toRat_lt_limit (a : Decimal) : |a.toRat| < limit := by
  have below := a.abs_toRat_lt
  rw [limit]
  linarith

/-- The signs of two factors differ where their product is negative, and agree where it is
positive. -/
theorem negative_bne_of_mul_neg {a b : Decimal} (below : a.toRat * b.toRat < 0) :
    (a.negative != b.negative) = true := by
  rcases mul_neg_iff.mp below with ⟨left, right⟩ | ⟨left, right⟩
  · rw [not_negative_of_toRat_pos left, negative_of_toRat_neg right]
    rfl
  · rw [negative_of_toRat_neg left, not_negative_of_toRat_pos right]
    rfl

theorem negative_bne_of_mul_pos {a b : Decimal} (above : 0 < a.toRat * b.toRat) :
    (a.negative != b.negative) = false := by
  rcases mul_pos_iff.mp above with ⟨left, right⟩ | ⟨left, right⟩
  · rw [not_negative_of_toRat_pos left, not_negative_of_toRat_pos right]
    rfl
  · rw [negative_of_toRat_neg left, negative_of_toRat_neg right]
    rfl

/-- The decimal of an exact result `x`: `x` rounded once if it is below the limit, and none
otherwise. -/
def Fits (result : Option Decimal) (x : ℚ) : Prop :=
  (∃ a, result = some a ∧ |x| < limit ∧ Rounds a x) ∨ (result = none ∧ limit ≤ |x|)

namespace Fits

variable {result : Option Decimal} {x : ℚ} {a : Decimal}

theorem of_eq (same : a.toRat = x) : Fits (some a) x :=
  .inl ⟨a, rfl, same ▸ a.abs_toRat_lt_limit, .of_eq same⟩

/-- Signs of zeros do not matter. -/
theorem withoutZeroSign (fits : Fits result x) : Fits (result.map Decimal.withoutZeroSign) x := by
  rcases fits with ⟨a, made, below, rounded⟩ | ⟨failed, large⟩
  · exact .inl ⟨a.withoutZeroSign, by rw [made]; rfl, below, rounded.congr (toRat_withoutZeroSign a)⟩
  · exact .inr ⟨by rw [failed]; rfl, large⟩

theorem computes {answer : Except Fault Decimal} {fault : Fault} (fits : Fits result x)
    (answers : ∀ a, result = some a → answer = .ok a) (fails : result = none → answer = .error fault) :
    Computes answer x fault := by
  rcases fits with ⟨a, made, below, rounded⟩ | ⟨failed, large⟩
  · exact .inl ⟨a, answers a made, below, rounded⟩
  · exact .inr ⟨fails failed, large⟩

end Fits

/-- A signed number fitted with its sign. -/
theorem fit?_fits {negative : Bool} {magnitude scale : ℕ} {x : ℚ}
    (size : |x| = magnitude / 10 ^ scale) (below : x < 0 → negative = true)
    (above : 0 < x → negative = false) : Fits (fit? negative magnitude scale) x := by
  unfold Fits
  rw [size]
  rcases fit?_cases negative magnitude scale with ⟨a, made, sign, small, rounded⟩ | failed
  · rw [← size] at rounded
    exact .inl ⟨a, made, small, .of_parts rounded (sign ▸ below) (sign ▸ above)⟩
  · exact .inr failed

theorem scaledTo_eq {a : Decimal} {places : ℕ} (enough : a.scale ≤ places) :
    (a.scaledTo places : ℚ) = a.toRat * 10 ^ places := by
  rw [scaledTo, toRat, ← Nat.sub_add_cancel enough, pow_add, Nat.add_sub_cancel]
  push_cast
  field_simp

theorem sum?_fits (a b : Decimal) : Fits (sum? a b) (a.toRat + b.toRat) := by
  rw [sum?]
  split
  case isTrue empty =>
    rw [isZero_iff.mp empty, zero_add]
    exact .of_eq rfl
  split
  case isTrue empty =>
    rw [isZero_iff.mp empty, add_zero]
    exact .of_eq rfl
  dsimp only
  generalize common : Nat.max a.scale b.scale = places
  have enough : a.scale ≤ places ∧ b.scale ≤ places := by
    rw [← common]
    exact ⟨Nat.le_max_left .., Nat.le_max_right ..⟩
  have power : (0 : ℚ) < 10 ^ places := by positivity
  have summed : ((a.scaledTo places + b.scaledTo places : ℤ) : ℚ) =
      (a.toRat + b.toRat) * 10 ^ places := by
    rw [Int.cast_add, scaledTo_eq enough.1, scaledTo_eq enough.2, add_mul]
  generalize a.scaledTo places + b.scaledTo places = total at summed ⊢
  apply fit?_fits
  · rw [eq_div_iff power.ne', ← abs_of_pos power, ← abs_mul, ← summed, ← Int.cast_abs,
      Int.abs_eq_natAbs, Int.cast_natCast]
  · intro below
    have negative : ((total : ℤ) : ℚ) < (0 : ℤ) := by
      rw [summed, Int.cast_zero]
      exact mul_neg_of_neg_of_pos below power
    exact decide_eq_true (by exact_mod_cast negative)
  · intro above
    have positive : ((0 : ℤ) : ℚ) < (total : ℤ) := by
      rw [summed, Int.cast_zero]
      exact mul_pos above power
    exact decide_eq_false (not_lt.mpr (by exact_mod_cast positive.le))

theorem add_computes (a b : Decimal) :
    Computes (a.add b) (a.toRat + b.toRat) (.overflow .addition) := by
  apply (sum?_fits a b).computes
  · intro c made
    rw [add, made]
  · intro failed
    rw [add, failed]

theorem sub_computes (a b : Decimal) :
    Computes (a.sub b) (a.toRat - b.toRat) (.overflow .subtraction) := by
  -- A zero is not turned around, but it has the same number either way.
  have fits : Fits (if b.isZero then sum? a b else sum? a b.neg) (a.toRat - b.toRat) := by
    split
    case isTrue empty =>
      have same : a.toRat - b.toRat = a.toRat + b.toRat := by rw [isZero_iff.mp empty]; ring
      rw [same]
      exact sum?_fits a b
    case isFalse =>
      rw [sub_eq_add_neg, ← toRat_neg]
      exact sum?_fits a b.neg
  apply fits.computes
  · intro c made
    rw [sub, made]
  · intro failed
    rw [sub, failed]

/-- The product of two short factors with many places is below the last place that there is. -/
theorem abs_product_le_of_short {a b : Decimal} (short : a.isShort = true ∧ b.isShort = true)
    (many : 47 < a.scale + b.scale) : |a.toRat * b.toRat| * 10 ^ 48 ≤ 2 ^ 64 := by
  have size : |a.toRat * b.toRat| * 10 ^ (a.scale + b.scale) ≤ 2 ^ 64 := by
    have left : (a.magnitude : ℚ) ≤ 2 ^ 32 := by
      exact_mod_cast (of_decide_eq_true short.1).le
    have right : (b.magnitude : ℚ) ≤ 2 ^ 32 := by
      exact_mod_cast (of_decide_eq_true short.2).le
    calc |a.toRat * b.toRat| * 10 ^ (a.scale + b.scale) = a.magnitude * b.magnitude := by
          rw [abs_mul, abs_toRat, abs_toRat, pow_add]
          field_simp
      _ ≤ 2 ^ 32 * 2 ^ 32 := by gcongr
      _ = 2 ^ 64 := by norm_num
  have finer : (10 : ℚ) ^ 48 ≤ 10 ^ (a.scale + b.scale) := pow_le_pow_right₀ (by norm_num) many
  exact (mul_le_mul_of_nonneg_left finer (abs_nonneg _)).trans size

/-- It is too small to be told from zero. -/
theorem rounds_zero_of_short {a b : Decimal} (short : a.isShort = true ∧ b.isShort = true)
    (many : 47 < a.scale + b.scale) : |a.toRat * b.toRat| < limit ∧ Rounds zero (a.toRat * b.toRat) := by
  have tiny := abs_product_le_of_short short many
  constructor
  · rw [limit_eq]
    linarith
  · refine ⟨0, maxScale, ⟨le_rfl, ?_, .inr (.inl rfl)⟩, by simp⟩
    rw [Nat.cast_zero, zero_sub, abs_neg, abs_of_nonneg (by positivity)]
    change |a.toRat * b.toRat| * 10 ^ 28 ≤ 1 / 2
    linarith

/-- The product of the magnitudes, with the sign that the factors give it, is fitted. -/
theorem fit?_product_fits (a b : Decimal) :
    Fits (fit? (a.negative != b.negative) (a.magnitude * b.magnitude) (a.scale + b.scale)) (a.toRat * b.toRat) := by
  refine fit?_fits ?_ negative_bne_of_mul_neg negative_bne_of_mul_pos
  rw [abs_mul, abs_toRat, abs_toRat, pow_add]
  push_cast
  field_simp

theorem product?_fits (a b : Decimal) : Fits (product? a b) (a.toRat * b.toRat) := by
  simp only [product?]
  split
  case isTrue empty =>
    have none : a.toRat * b.toRat = 0 := by
      rcases Bool.or_eq_true_iff.mp empty with left | right
      · rw [isZero_iff.mp left, zero_mul]
      · rw [isZero_iff.mp right, mul_zero]
    rw [none]
    exact .of_eq toRat_zero
  split
  case isTrue short =>
    split
    case isTrue many =>
      exact .inl ⟨zero, rfl, rounds_zero_of_short (Bool.and_eq_true_iff.mp short) many⟩
    case isFalse => exact (fit?_product_fits a b).withoutZeroSign
  case isFalse => exact fit?_product_fits a b

theorem mul_computes (a b : Decimal) :
    Computes (a.mul b) (a.toRat * b.toRat) (.overflow .multiplication) := by
  apply (product?_fits a b).computes
  · intro c made
    rw [mul, made]
  · intro failed
    rw [mul, failed]

end TradeLedger.Decimal
