import TradeLedger.Proofs.Decimal.Arithmetic
import TradeLedger.Proofs.Decimal.Cents
import TradeLedger.Proofs.Fault

/-! Sums of equal numbers. A decimal may be written with more places or fewer, and the places of a sum
depend on those of its operands; its number does not. Even where a sum is rounded, it is rounded at
the same place, so operands of the same numbers have sums of the same number, or none. -/
namespace TradeLedger

theorem roundHalfEven_mul_mul (n d : ℕ) {k : ℕ} (positive : 0 < k) :
    roundHalfEven (n * k) (d * k) = roundHalfEven n d := by
  have up : d * k < 2 * (n % d * k) ↔ d < 2 * (n % d) := by
    rw [← mul_assoc]
    exact Nat.mul_lt_mul_right positive
  have half : 2 * (n % d * k) = d * k ↔ 2 * (n % d) = d := by
    rw [← mul_assoc]
    exact Nat.mul_left_inj positive.ne'
  simp only [roundHalfEven, Nat.mul_div_mul_right _ _ positive, Nat.mul_mod_mul_right, up, half]

namespace Decimal

variable {negative : Bool} {magnitude scale dropped : ℕ}

/-- The number of places to give up is known from what it does: it is enough, and no fewer is. -/
theorem excessPlaces_eq_some (inside : dropped ≤ scale) (few : scale ≤ maxScale + dropped)
    (small : magnitude / 10 ^ dropped < capacity)
    (fewest : ∀ fewer < dropped, scale ≤ maxScale + fewer → capacity ≤ magnitude / 10 ^ fewer) :
    excessPlaces magnitude scale = some dropped := by
  rw [excessPlaces, List.find?_range_eq_some]
  refine ⟨by simp [few, small], by simpa using Nat.lt_succ_of_le inside, ?_⟩
  intro fewer less
  simp only [Bool.not_eq_true', Bool.and_eq_false_iff, decide_eq_false_iff_not, not_le, not_lt]
  rcases Nat.lt_or_ge (maxScale + fewer) scale with many | enough
  · exact .inl many
  · exact .inr (fewest fewer less enough)

/-- A magnitude within the bounds is fitted as it is. -/
theorem fit?_of_lt (small : magnitude < capacity) (few : scale ≤ maxScale) :
    fit? negative magnitude scale = some ⟨negative, magnitude, scale, small, few⟩ := by
  have none : excessPlaces magnitude scale = some 0 :=
    excessPlaces_eq_some (Nat.zero_le _) few (by simpa using small) fun fewer less => absurd less (Nat.not_lt_zero _)
  simp [fit?, none, roundHalfEven_one, ofRounded?, ofParts?_of_lt small few]

theorem div_pow_add (magnitude dropped k : ℕ) :
    magnitude * 10 ^ k / 10 ^ (dropped + k) = magnitude / 10 ^ dropped := by
  rw [pow_add]
  exact Nat.mul_div_mul_right _ _ (by positivity)

/-- A magnitude written with one more zero at its end, and one more place, is fitted to the same
number. -/
theorem fit?_succ (negative : Bool) (magnitude scale : ℕ) :
    (fit? negative (magnitude * 10) (scale + 1)).map toRat = (fit? negative magnitude scale).map toRat := by
  have tenth : ∀ dropped, magnitude * 10 / 10 ^ (dropped + 1) = magnitude / 10 ^ dropped := fun dropped =>
    div_pow_add magnitude dropped 1
  by_cases fits : magnitude * 10 < capacity ∧ scale + 1 ≤ maxScale
  · obtain ⟨small, few⟩ := fits
    rw [fit?_of_lt small few, fit?_of_lt (by omega) (by omega)]
    cases negative <;> simp [toRat, numerator, pow_succ] <;> field_simp
  · -- One of the two bounds is passed, so the added place is given up first.
    rcases excessPlaces_cases magnitude scale with ⟨dropped, inside, found, few, small, fewest⟩ | ⟨found, large⟩
    · have more : excessPlaces (magnitude * 10) (scale + 1) = some (dropped + 1) := by
        refine excessPlaces_eq_some (by omega) (by omega) (by rwa [tenth]) ?_
        intro fewer less enough
        cases fewer with
        | zero =>
          simp only [pow_zero, Nat.div_one]
          omega
        | succ fewer =>
          rw [tenth]
          exact fewest fewer (by omega) (by omega)
      have same : roundHalfEven (magnitude * 10) (10 ^ (dropped + 1)) = roundHalfEven magnitude (10 ^ dropped) := by
        rw [pow_succ]
        exact roundHalfEven_mul_mul _ _ (by decide)
      simp [fit?, found, more, same]
    · rcases excessPlaces_cases (magnitude * 10) (scale + 1) with ⟨dropped, inside, _, _, small, _⟩ | ⟨more, _⟩
      · -- Dropping all places but one of the longer form leaves what was too large before.
        have least : magnitude / 10 ^ scale ≤ magnitude * 10 / 10 ^ dropped := by
          rw [← tenth]
          exact Nat.div_le_div_left (Nat.pow_le_pow_right (by decide) inside) (by positivity)
        omega
      · simp [fit?, found, more]

/-- However many zeros are added. -/
theorem fit?_scaled (negative : Bool) (magnitude scale k : ℕ) :
    (fit? negative (magnitude * 10 ^ k) (scale + k)).map toRat = (fit? negative magnitude scale).map toRat := by
  induction k with
  | zero => simp
  | succ k ih => rw [pow_succ, ← mul_assoc, ← add_assoc, fit?_succ, ih]

theorem scaledTo_add {a : Decimal} {places : ℕ} (enough : a.scale ≤ places) (k : ℕ) :
    a.scaledTo (places + k) = a.scaledTo places * 10 ^ k := by
  rw [scaledTo, scaledTo, mul_assoc, ← pow_add]
  congr 2
  omega

variable {a b a' b' : Decimal}

theorem scaledTo_congr (same : a.toRat = a'.toRat) : a.scaledTo maxScale = a'.scaledTo maxScale := by
  have units : ((a.scaledTo maxScale : ℤ) : ℚ) = (a'.scaledTo maxScale : ℤ) := by
    rw [scaledTo_eq a.scale_le, scaledTo_eq a'.scale_le, same]
  exact_mod_cast units

/-- A sum in the units of the last place that there is. -/
theorem sum?_eq_fit? (left : a.isZero = false) (right : b.isZero = false) :
    (sum? a b).map toRat =
      (fit? (a.scaledTo maxScale + b.scaledTo maxScale < 0)
        (a.scaledTo maxScale + b.scaledTo maxScale).natAbs maxScale).map toRat := by
  have first : a.scale ≤ Nat.max a.scale b.scale := Nat.le_max_left ..
  have second : b.scale ≤ Nat.max a.scale b.scale := Nat.le_max_right ..
  have fits : Nat.max a.scale b.scale ≤ maxScale := Nat.max_le.mpr ⟨a.scale_le, b.scale_le⟩
  rw [sum?, if_neg (by simp [left]), if_neg (by simp [right])]
  generalize Nat.max a.scale b.scale = places at *
  obtain ⟨k, more⟩ := Nat.exists_eq_add_of_le fits
  have power : (0 : ℤ) < 10 ^ k := by positivity
  have total : a.scaledTo maxScale + b.scaledTo maxScale = (a.scaledTo places + b.scaledTo places) * 10 ^ k := by
    rw [more, scaledTo_add first, scaledTo_add second, add_mul]
  have size : (a.scaledTo maxScale + b.scaledTo maxScale).natAbs =
      (a.scaledTo places + b.scaledTo places).natAbs * 10 ^ k := by
    rw [total, Int.natAbs_mul, Int.natAbs_pow]
    rfl
  have sign : a.scaledTo maxScale + b.scaledTo maxScale < 0 ↔ a.scaledTo places + b.scaledTo places < 0 := by
    rw [total, mul_neg_iff, and_iff_left power]
    exact or_iff_right fun both => absurd power both.2.not_gt
  rw [size]
  simp only [sign]
  rw [more]
  exact (fit?_scaled _ _ places k).symm

theorem isZero_congr (same : a.toRat = a'.toRat) : a.isZero = a'.isZero := by
  rw [Bool.eq_iff_iff, isZero_iff, isZero_iff, same]

/-- Operands of the same numbers have sums of the same number, or none. -/
theorem sum?_congr (left : a.toRat = a'.toRat) (right : b.toRat = b'.toRat) :
    (sum? a b).map toRat = (sum? a' b').map toRat := by
  cases first : a.isZero with
  | true => simp [sum?, first, isZero_congr left ▸ first, right]
  | false =>
    cases second : b.isZero with
    | true => simp [sum?, first, second, isZero_congr left ▸ first, isZero_congr right ▸ second, left]
    | false =>
      rw [sum?_eq_fit? first second, sum?_eq_fit? (isZero_congr left ▸ first) (isZero_congr right ▸ second),
        scaledTo_congr left, scaledTo_congr right]

/-- Decimals that write one number. -/
def SameValue (a b : Decimal) : Prop := a.toRat = b.toRat

theorem add_agrees (left : SameValue a a') (right : SameValue b b') : Agree SameValue (a.add b) (a'.add b') := by
  have same := sum?_congr left right
  rw [add, add]
  cases first : sum? a b with
  | none =>
    rw [first, Option.map_none, eq_comm, Option.map_eq_none_iff] at same
    rw [same]
    trivial
  | some total =>
    rw [first, Option.map_some, eq_comm, Option.map_eq_some_iff] at same
    obtain ⟨other, second, equal⟩ := same
    rw [second]
    exact equal.symm

theorem roundCents_same (same : SameValue a b) : SameValue a.roundCents b.roundCents := by
  rw [SameValue, toRat_roundCents, toRat_roundCents, show a.toRat = b.toRat from same]

theorem abs_same (same : SameValue a b) : SameValue a.abs b.abs := by
  rw [SameValue, toRat_abs, toRat_abs, show a.toRat = b.toRat from same]

theorem max_same (left : SameValue a a') (right : SameValue b b') : SameValue (a.max b) (a'.max b') := by
  rw [SameValue, toRat_max, toRat_max, show a.toRat = a'.toRat from left, show b.toRat = b'.toRat from right]

theorem min_same (left : SameValue a a') (right : SameValue b b') : SameValue (a.min b) (a'.min b') := by
  rw [SameValue, toRat_min, toRat_min, show a.toRat = a'.toRat from left, show b.toRat = b'.toRat from right]

/-- Two ways to write one number are fitted to the same number. -/
theorem fit?_congr (negative : Bool) {m n s t : ℕ} (same : m * 10 ^ t = n * 10 ^ s) :
    (fit? negative m s).map toRat = (fit? negative n t).map toRat := by
  wlog fewer : s ≤ t generalizing m n s t
  · exact (this same.symm (Nat.le_of_not_le fewer)).symm
  obtain ⟨k, rfl⟩ := Nat.exists_eq_add_of_le fewer
  have longer : n = m * 10 ^ k := by
    rw [pow_add, mul_comm (10 ^ s), ← mul_assoc] at same
    exact (Nat.eq_of_mul_eq_mul_right (by positivity) same).symm
  rw [longer, fit?_scaled]

/-- A number that is less than half a unit of the last place is rounded to zero. -/
theorem Rounds.eq_zero_of_lt {x : ℚ} (rounded : Rounds a x) (tiny : |x| * 10 ^ maxScale < 1 / 2) : a.toRat = 0 := by
  obtain ⟨digits, places, roundedAt, value⟩ := rounded
  have below : |x| * 10 ^ places < 1 / 2 :=
    (mul_le_mul_of_nonneg_left (pow_le_pow_right₀ (by norm_num) roundedAt.places_le) (abs_nonneg x)).trans_lt tiny
  have less : (digits : ℚ) < (1 : ℕ) := by
    rw [Nat.cast_one]
    linarith [(abs_le.mp roundedAt.near).2]
  have none : digits = 0 := Nat.lt_one_iff.mp (by exact_mod_cast less)
  simp [value, none]

/-- The product of factors that are not zero is fitted, however it is computed. -/
theorem product?_eq_fit? (left : a.isZero = false) (right : b.isZero = false) :
    (product? a b).map toRat =
      (fit? (a.negative != b.negative) (a.magnitude * b.magnitude) (a.scale + b.scale)).map toRat := by
  simp only [product?, left, right, Bool.or_self, Bool.false_eq_true, if_false]
  split
  case isTrue short =>
    split
    case isTrue many =>
      have both := Bool.and_eq_true_iff.mp short
      rcases fit?_product_fits a b with ⟨c, made, _, rounded⟩ | ⟨_, large⟩
      · have size := abs_product_le_of_short both many
        have tiny : |a.toRat * b.toRat| * 10 ^ maxScale < 1 / 2 := by
          change |a.toRat * b.toRat| * 10 ^ 28 < 1 / 2
          linarith
        rw [made, Option.map_some, Option.map_some, toRat_zero, rounded.eq_zero_of_lt tiny]
      · exact absurd (rounds_zero_of_short both many).1 (not_lt.mpr large)
    case isFalse =>
      rw [Option.map_map]
      congr 1
      funext c
      exact toRat_withoutZeroSign c
  case isFalse => rfl

/-- Numbers that are the same and not zero have the same sign. -/
theorem negative_congr (nonzero : a.isZero = false) (same : a.toRat = a'.toRat) : a.negative = a'.negative := by
  rw [isZero_eq_false_iff] at nonzero
  rw [Bool.eq_iff_iff, negative_iff nonzero, negative_iff (same ▸ nonzero), same]

/-- The magnitudes of the same number differ by its places. -/
theorem magnitude_mul_pow (same : a.toRat = a'.toRat) : a.magnitude * 10 ^ a'.scale = a'.magnitude * 10 ^ a.scale := by
  have size : (a.magnitude / 10 ^ a.scale : ℚ) = a'.magnitude / 10 ^ a'.scale := by
    rw [← abs_toRat, ← abs_toRat, same]
  rw [div_eq_div_iff (by positivity) (by positivity)] at size
  exact_mod_cast size

/-- Factors of the same numbers have products of the same number, or none. -/
theorem product?_congr (left : a.toRat = a'.toRat) (right : b.toRat = b'.toRat) :
    (product? a b).map toRat = (product? a' b').map toRat := by
  cases empty : a.isZero || b.isZero with
  | true =>
    have empty' : (a'.isZero || b'.isZero) = true := by rw [← isZero_congr left, ← isZero_congr right, empty]
    simp [product?, empty, empty']
  | false =>
    obtain ⟨first, second⟩ := Bool.or_eq_false_iff.mp empty
    rw [product?_eq_fit? first second, product?_eq_fit? (isZero_congr left ▸ first) (isZero_congr right ▸ second),
      negative_congr first left, negative_congr second right]
    apply fit?_congr
    calc a.magnitude * b.magnitude * 10 ^ (a'.scale + b'.scale)
        = a.magnitude * 10 ^ a'.scale * (b.magnitude * 10 ^ b'.scale) := by ring
      _ = a'.magnitude * 10 ^ a.scale * (b'.magnitude * 10 ^ b.scale) := by
        rw [magnitude_mul_pow left, magnitude_mul_pow right]
      _ = a'.magnitude * b'.magnitude * 10 ^ (a.scale + b.scale) := by ring

theorem mul_agrees (left : SameValue a a') (right : SameValue b b') : Agree SameValue (a.mul b) (a'.mul b') := by
  have same := product?_congr left right
  rw [mul, mul]
  cases first : product? a b with
  | none =>
    rw [first, Option.map_none, eq_comm, Option.map_eq_none_iff] at same
    rw [same]
    trivial
  | some product =>
    rw [first, Option.map_some, eq_comm, Option.map_eq_some_iff] at same
    obtain ⟨other, second, equal⟩ := same
    rw [second]
    exact equal.symm

end Decimal

end TradeLedger
