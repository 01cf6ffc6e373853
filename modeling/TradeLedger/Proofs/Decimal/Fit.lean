import TradeLedger.Decimal.Basic
import TradeLedger.Proofs.Decimal.Rounding

/-! Fitting an exact magnitude into a decimal is one rounding, and it fails exactly where the
magnitude is at the limit or above. -/
namespace TradeLedger.Decimal

theorem ofParts?_of_lt {negative : Bool} {magnitude scale : ℕ} (bound : magnitude < capacity)
    (few : scale ≤ maxScale) :
    ofParts? negative magnitude scale = some ⟨negative, magnitude, scale, bound, few⟩ := by
  rw [ofParts?, dif_pos ⟨bound, few⟩]

theorem ofParts?_of_le {negative : Bool} {magnitude scale : ℕ} (large : capacity ≤ magnitude) :
    ofParts? negative magnitude scale = none := by
  rw [ofParts?, dif_neg fun bounds => absurd bounds.1 (not_lt.mpr large)]

/-- The places given up are the fewest: with any fewer of them the number would have too many
places or too many digits. -/
theorem excessPlaces_cases (magnitude scale : ℕ) :
    (∃ dropped ≤ scale, excessPlaces magnitude scale = some dropped ∧
      scale ≤ maxScale + dropped ∧ magnitude / 10 ^ dropped < capacity ∧
      ∀ fewer < dropped, scale ≤ maxScale + fewer → capacity ≤ magnitude / 10 ^ fewer) ∨
    (excessPlaces magnitude scale = none ∧ capacity ≤ magnitude / 10 ^ scale) := by
  cases found : excessPlaces magnitude scale with
  | none =>
    rw [excessPlaces, List.find?_range_eq_none] at found
    have large := found scale (Nat.lt_succ_self scale)
    simp only [Bool.not_eq_true', Bool.and_eq_false_iff, decide_eq_false_iff_not] at large
    exact .inr ⟨rfl, by omega⟩
  | some dropped =>
    rw [excessPlaces, List.find?_range_eq_some] at found
    simp only [Bool.and_eq_true, decide_eq_true_eq, List.mem_range, Bool.not_eq_true',
      Bool.and_eq_false_iff, decide_eq_false_iff_not] at found
    obtain ⟨fits, inside, first⟩ := found
    refine .inl ⟨dropped, by omega, rfl, fits.1, fits.2, ?_⟩
    intro fewer less allowed
    have large := first fewer less
    omega

theorem roundHalfEven_lt_capacity_iff {n d : ℕ} (positive : 0 < d) :
    roundHalfEven n d < capacity ↔ (n / d : ℚ) < limit := by
  have divisor : (0 : ℚ) < d := by exact_mod_cast positive
  rw [roundHalfEven_lt_iff positive (by decide), limit, div_lt_iff₀ divisor]
  constructor
  · intro below
    have below : (2 * n + d : ℚ) < 2 * capacity * d := by exact_mod_cast below
    linarith
  · intro below
    have below : (2 * n + d : ℚ) < 2 * capacity * d := by linarith
    exact_mod_cast below

/-- What is cut off within the fewest places is rounded, and a carry gives up one place more;
without a place to give up there is no decimal. -/
theorem ofRounded?_cases (negative : Bool) {n d places : ℕ} (positive : 0 < d)
    (small : n / d < capacity) (few : places ≤ maxScale) :
    ((n / d : ℚ) < limit ∧ ∃ a, ofRounded? negative (roundHalfEven n d) places = some a ∧
      a.negative = negative ∧ a.magnitude = roundHalfEven n d ∧ a.scale = places) ∨
    (limit ≤ (n / d : ℚ) ∧ ∃ fewer, places = fewer + 1 ∧
      ∃ a, ofRounded? negative (roundHalfEven n d) places = some a ∧
        a.negative = negative ∧ a.magnitude = roundHalfEven capacity 10 ∧ a.scale = fewer) ∨
    (limit ≤ (n / d : ℚ) ∧ places = 0 ∧ ofRounded? negative (roundHalfEven n d) places = none) := by
  by_cases below : (n / d : ℚ) < limit
  · have bound := (roundHalfEven_lt_capacity_iff positive).mpr below
    refine .inl ⟨below, ⟨negative, roundHalfEven n d, places, bound, few⟩, ?_, rfl, rfl, rfl⟩
    simp [ofRounded?, ofParts?_of_lt bound few]
  · have full : roundHalfEven n d = capacity := by
      have reached := (roundHalfEven_lt_capacity_iff positive).not.mpr below
      have upper := roundHalfEven_le_succ n d
      omega
    rw [full]
    have large := not_lt.mp below
    cases places with
    | zero => exact .inr (.inr ⟨large, rfl, by simp [ofRounded?, ofParts?_of_le]⟩)
    | succ fewer =>
      have bound : roundHalfEven capacity 10 < capacity := by decide
      have fits := Nat.le_of_succ_le few
      refine .inr (.inl ⟨large, fewer, rfl, ⟨negative, _, fewer, bound, fits⟩, ?_, rfl, rfl, rfl⟩)
      simp [ofRounded?, ofParts?_of_le, ofParts?_of_lt bound fits]

/-- A whole quotient from the capacity on. -/
private theorem capacity_le_div {n places : ℕ} (large : capacity ≤ n / 10 ^ places) :
    (capacity : ℚ) ≤ n / 10 ^ places := by
  rw [le_div_iff₀ (by positivity)]
  exact_mod_cast (Nat.le_div_iff_mul_le (by positivity)).mp large

/-- Cut off within the fewest places that must go, a magnitude is rounded once. -/
private theorem roundedAt_of_fewest {magnitude places dropped : ℕ} (few : places ≤ maxScale)
    (fewest : ∀ fewer < dropped, places + dropped ≤ maxScale + fewer → capacity ≤ magnitude / 10 ^ fewer) :
    RoundedAt (magnitude / 10 ^ (places + dropped)) (roundHalfEven magnitude (10 ^ dropped)) places := by
  have cut : (magnitude / 10 ^ (places + dropped) : ℚ) * 10 ^ places = magnitude / (10 ^ dropped : ℕ) := by
    rw [pow_add]
    push_cast
    field_simp
  refine ⟨few, by rw [cut]; exact abs_roundHalfEven_sub_le _ (by positivity), ?_⟩
  cases dropped with
  | zero => exact .inl (by rw [cut]; simp [roundHalfEven_one])
  | succ fewer =>
    by_cases allowed : places + (fewer + 1) ≤ maxScale + fewer
    · have reached := capacity_le_div (fewest fewer (Nat.lt_succ_self fewer) allowed)
      have finer : (magnitude / 10 ^ (places + (fewer + 1)) : ℚ) * 10 ^ (places + 1) = magnitude / 10 ^ fewer := by
        rw [show places + (fewer + 1) = places + 1 + fewer by ring, pow_add _ (places + 1)]
        field_simp
      rw [finer]
      exact .inr (.inr (limit_le_capacity.trans reached))
    · exact .inr (.inl (by omega))

/-- Fitting a magnitude rounds it, and fails exactly from the limit on. -/
theorem fit?_cases (negative : Bool) (magnitude scale : ℕ) :
    (∃ a, fit? negative magnitude scale = some a ∧ a.negative = negative ∧
      (magnitude / 10 ^ scale : ℚ) < limit ∧
      RoundedAt (magnitude / 10 ^ scale) a.magnitude a.scale) ∨
    (fit? negative magnitude scale = none ∧ limit ≤ magnitude / 10 ^ scale) := by
  rcases excessPlaces_cases magnitude scale with ⟨dropped, inside, found, few, small, first⟩ | ⟨found, large⟩
  · obtain ⟨places, rfl⟩ := Nat.exists_eq_add_of_le' inside
    have places_le : places ≤ maxScale := by omega
    have power : 0 < 10 ^ dropped := Nat.pow_pos (by decide)
    have rounded := roundedAt_of_fewest places_le first
    have parts := ofRounded?_cases negative power small places_le
    have same : fit? negative magnitude (places + dropped) =
        ofRounded? negative (roundHalfEven magnitude (10 ^ dropped)) places := by
      rw [fit?, found]
      simp
    have nonneg : (0 : ℚ) ≤ magnitude / 10 ^ (places + dropped) := by positivity
    -- Cut at `places`, the number is `magnitude / 10 ^ dropped` units.
    have cut : (magnitude / (10 ^ dropped : ℕ) : ℚ) = magnitude / 10 ^ (places + dropped) * 10 ^ places := by
      rw [pow_add]
      push_cast
      field_simp
    have bounded : (magnitude / 10 ^ (places + dropped) : ℚ) * 10 ^ places < capacity := by
      rw [← cut, div_lt_iff₀ (by exact_mod_cast power)]
      exact_mod_cast (Nat.div_lt_iff_lt_mul power).mp small
    rw [cut, ← same] at parts
    rcases parts with ⟨below, a, made, sign, digits, scale⟩ | ⟨large, fewer, rfl, a, made, sign, digits, scale⟩ |
      ⟨large, rfl, none⟩
    · have units : (1 : ℚ) ≤ 10 ^ places := one_le_pow₀ (by norm_num)
      refine .inl ⟨a, made, sign, (le_mul_of_one_le_right nonneg units).trans_lt below, ?_⟩
      rw [digits, scale]
      exact rounded
    · refine .inl ⟨a, made, sign, lt_limit_of_place nonneg (Nat.succ_pos fewer) (bounded.trans ?_), ?_⟩
      · rw [capacity_eq]
        norm_num
      · rw [digits, scale]
        exact .carry (by omega) large bounded
    · exact .inr ⟨none, by simpa using large⟩
  · exact .inr ⟨by rw [fit?, found]; rfl, limit_le_capacity.trans (capacity_le_div large)⟩

end TradeLedger.Decimal
