import TradeLedger.Decimal.Quotient
import TradeLedger.Proofs.Decimal.Arithmetic

/-! Long division finds the exact quotient rounded once. The invariant of its blocks is that
`digits + rest / divisor` units of the places found so far are the exact quotient; a block is
never shorter than the bounds force, so the last place is given up only when it must be. -/
namespace TradeLedger.Decimal

/-- The places counted by a filter that keeps an initial segment are that segment. -/
private theorem length_filter_range {fits : ℕ → Bool}
    (initial : ∀ i j, i ≤ j → fits j = true → fits i = true) (n : ℕ) :
    (∀ i < ((List.range n).filter fits).length, fits i = true) ∧
      (((List.range n).filter fits).length < n →
        fits ((List.range n).filter fits).length = false) := by
  induction n with
  | zero => exact ⟨fun i inside => absurd inside (Nat.not_lt_zero i), fun less => absurd less (Nat.lt_irrefl 0)⟩
  | succ n ih =>
    have counted := List.length_filter_le fits (List.range n)
    rw [List.length_range] at counted
    obtain ⟨kept, next⟩ := ih
    rw [List.range_succ, List.filter_append, List.length_append]
    cases last : fits n with
    | true =>
      have all : ((List.range n).filter fits).length = n := by
        by_contra less
        have none := next (Nat.lt_of_le_of_ne counted less)
        rw [initial _ n counted last] at none
        cases none
      rw [all] at kept ⊢
      simp only [List.filter_cons, last, ↓reduceIte, List.filter_nil, List.length_singleton]
      constructor
      · intro i inside
        exact initial i n (Nat.le_of_lt_succ inside) last
      · intro less
        exact absurd less (Nat.lt_irrefl _)
    | false =>
      simp only [List.filter_cons, last, Bool.false_eq_true, ↓reduceIte, List.filter_nil,
        List.length_nil, Nat.add_zero]
      refine ⟨kept, ?_⟩
      intro less
      rcases Nat.lt_or_ge ((List.range n).filter fits).length n with inside | full
      · exact next inside
      · rw [Nat.le_antisymm counted full]
        exact last

variable {digits room : ℕ}

theorem nextBlock_le_blockSize (digits room : ℕ) : nextBlock digits room ≤ blockSize := by
  have counted := List.length_filter_le (fun place => decide (digits * 10 ^ (place + 1) < capacity))
    (List.range (Nat.min blockSize room))
  rw [List.length_range] at counted
  exact counted.trans (Nat.min_le_left ..)

private theorem initial_places (digits : ℕ) : ∀ i j, i ≤ j →
    decide (digits * 10 ^ (j + 1) < capacity) = true → decide (digits * 10 ^ (i + 1) < capacity) = true := by
  intro i j before later
  refine decide_eq_true (lt_of_le_of_lt ?_ (of_decide_eq_true later))
  exact Nat.mul_le_mul_left digits (Nat.pow_le_pow_right (by decide) (by omega))

/-- A block leaves the digits found so far below the capacity. -/
theorem mul_pow_nextBlock_lt (bound : digits < capacity) (room : ℕ) :
    digits * 10 ^ nextBlock digits room < capacity := by
  cases block : nextBlock digits room with
  | zero => simpa using bound
  | succ place =>
    have kept := (length_filter_range (initial_places digits) (Nat.min blockSize room)).1 place
      (by rw [nextBlock] at block; omega)
    exact of_decide_eq_true kept

/-- A block is shorter than it could be only if one place more is past the capacity. -/
theorem capacity_le_of_nextBlock_lt (short : nextBlock digits room < blockSize)
    (left : nextBlock digits room < room) :
    capacity ≤ digits * 10 ^ (nextBlock digits room + 1) := by
  have next := (length_filter_range (initial_places digits) (Nat.min blockSize room)).2
    (Nat.lt_min.mpr ⟨short, left⟩)
  exact not_lt.mp (of_decide_eq_false next)

/-- The parts of a quotient of size `x`: its digits and the room left. They are `x` rounded
once if it is below the limit, and there are none otherwise. -/
def Quotes (parts : Option (ℕ × ℕ)) (x : ℚ) : Prop :=
  (∃ digits room, parts = some (digits, room) ∧ room ≤ maxScale ∧ digits < capacity ∧ x < limit ∧
    RoundedAt x digits (maxScale - room)) ∨ (parts = none ∧ limit ≤ x)

section

variable {x units : ℚ} {divisor rest : ℕ}

/-- With no more than `maxScale` room the quotient has `maxScale - room` places already. -/
private theorem units_of_room (value : x * 10 ^ maxScale = units * 10 ^ room) (few : room ≤ maxScale) :
    x * 10 ^ (maxScale - room) = units := by
  rw [← Nat.sub_add_cancel few, pow_add, ← mul_assoc] at value
  exact mul_right_cancel₀ (by positivity) value

/-- With more, zeros are missing before the point. -/
private theorem eq_of_room (value : x * 10 ^ maxScale = units * 10 ^ room) (many : maxScale ≤ room) :
    x = units * 10 ^ (room - maxScale) := by
  rw [← Nat.sub_add_cancel many, pow_add, ← mul_assoc] at value
  exact mul_right_cancel₀ (by positivity) value

private theorem nonneg_of_room (value : x * 10 ^ maxScale = units * 10 ^ room) (nonneg : 0 ≤ units) : 0 ≤ x := by
  refine nonneg_of_mul_nonneg_left (b := 10 ^ maxScale) ?_ (by positivity)
  rw [value]
  positivity

private theorem fraction_lt_one (inside : rest < divisor) : (rest / divisor : ℚ) < 1 := by
  have positive : (0 : ℚ) < divisor := by exact_mod_cast Nat.zero_lt_of_lt inside
  rw [div_lt_one positive]
  exact_mod_cast inside

/-- Nothing is left to divide. -/
private theorem quotes_exactly (value : x * 10 ^ maxScale = digits * 10 ^ room)
    (bound : digits < capacity) (few : room ≤ maxScale) : Quotes (some (digits, room)) x := by
  have found := units_of_room value few
  have whole : (digits + 1 : ℚ) ≤ capacity := by exact_mod_cast bound
  refine .inl ⟨digits, room, rfl, few, bound, ?_, Nat.sub_le .., ?_, .inl found.symm⟩
  · have units : (1 : ℚ) ≤ 10 ^ (maxScale - room) := one_le_pow₀ (by norm_num)
    have below := le_mul_of_one_le_right (nonneg_of_room value (Nat.cast_nonneg digits)) units
    rw [limit]
    linarith
  · rw [found, sub_self, abs_zero]
    norm_num

/-- The last place is rounded to the capacity: it is given up, or there is no place to give up. -/
private theorem quotes_carried (nonneg : 0 ≤ x) (few : room ≤ maxScale) (low : limit ≤ x * 10 ^ (maxScale - room))
    (high : x * 10 ^ (maxScale - room) < capacity) : Quotes (divideFrom.settle capacity room) x := by
  rw [divideFrom.settle, if_neg (Nat.lt_irrefl capacity)]
  split
  case isTrue spare =>
    have places : maxScale - room = maxScale - (room + 1) + 1 := by omega
    rw [places] at low high
    refine .inl ⟨_, room + 1, rfl, spare, by decide, ?_, .carry (by omega) low high⟩
    refine lt_limit_of_place nonneg (Nat.succ_pos _) (high.trans ?_)
    rw [capacity_eq]
    norm_num
  case isFalse none =>
    have last : room = maxScale := by omega
    rw [last, Nat.sub_self, pow_zero, mul_one] at low
    exact .inr ⟨rfl, low⟩

/-- No further place fits, and the last one is rounded. -/
private theorem quotes_settled (positive : 0 < divisor) (inside : rest < divisor)
    (bound : digits < capacity) (few : room ≤ maxScale)
    (value : x * 10 ^ maxScale = (digits + rest / divisor) * 10 ^ room)
    (full : room = 0 ∨ capacity ≤ digits * 10) :
    Quotes (divideFrom.settle (roundHalfEven (digits * divisor + rest) divisor) room) x := by
  have found := units_of_room value few
  have quotient : ((digits * divisor + rest : ℕ) / divisor : ℚ) = digits + rest / divisor := by
    have nonzero : (divisor : ℚ) ≠ 0 := by exact_mod_cast positive.ne'
    push_cast
    field_simp
  have part : (0 : ℚ) ≤ rest / divisor := by positivity
  have nonneg := nonneg_of_room value (by positivity)
  have near := abs_roundHalfEven_sub_le (digits * divisor + rest) positive
  have threshold := roundHalfEven_lt_capacity_iff (n := digits * divisor + rest) positive
  rw [quotient, ← found] at near threshold
  have needed : maxScale - room = maxScale ∨ limit ≤ x * 10 ^ (maxScale - room + 1) := by
    rcases full with none | large
    · exact .inl (by omega)
    · right
      have large : (capacity : ℚ) ≤ digits * 10 := by exact_mod_cast large
      rw [pow_succ, ← mul_assoc, found]
      linarith [limit_le_capacity]
  by_cases below : x * 10 ^ (maxScale - room) < limit
  · have small := threshold.mpr below
    rw [divideFrom.settle, if_pos small]
    refine .inl ⟨_, room, rfl, few, small, ?_, Nat.sub_le .., near, .inr needed⟩
    have units : (1 : ℚ) ≤ 10 ^ (maxScale - room) := one_le_pow₀ (by norm_num)
    exact (le_mul_of_one_le_right nonneg units).trans_lt below
  · have reached := threshold.not.mpr below
    have carried : roundHalfEven (digits * divisor + rest) divisor = capacity := by
      have upper := roundHalfEven_le_succ (digits * divisor + rest) divisor
      have cut : (digits * divisor + rest) / divisor = digits := by
        rw [mul_comm, Nat.mul_add_div positive, Nat.div_eq_of_lt inside, Nat.add_zero]
      omega
    rw [carried]
    refine quotes_carried nonneg few (not_lt.mp below) ?_
    have whole : (digits + 1 : ℚ) ≤ capacity := by exact_mod_cast bound
    have fraction := fraction_lt_one inside
    rw [found]
    linarith

/-- A block carries the digits past the capacity, and its last place is given up again. -/
private theorem quotes_overrun {longer left : ℕ} (positive : 0 < divisor) (inside : left < divisor)
    (large : capacity ≤ longer) (small : longer < 2 * capacity - 1) (few : room < maxScale)
    (value : x * 10 ^ maxScale = (longer + left / divisor) * 10 ^ room) :
    Quotes (some (roundHalfEven (longer * divisor + left) (10 * divisor), room + 1)) x := by
  have places : maxScale - room = maxScale - (room + 1) + 1 := by omega
  have found := units_of_room value few.le
  rw [places] at found
  have nonzero : (divisor : ℚ) ≠ 0 := by exact_mod_cast positive.ne'
  have part : (0 : ℚ) ≤ left / divisor := by positivity
  have fraction := fraction_lt_one inside
  have low : (capacity : ℚ) ≤ longer := by exact_mod_cast large
  have high : (longer + 1 : ℚ) < 2 * capacity := by
    have sum : longer + 1 < 2 * capacity := by omega
    exact_mod_cast sum
  have quotient : ((longer * divisor + left : ℕ) / (10 * divisor : ℕ) : ℚ) =
      x * 10 ^ (maxScale - (room + 1)) := by
    rw [pow_succ, ← mul_assoc] at found
    have tenth : x * 10 ^ (maxScale - (room + 1)) = (longer + left / divisor) / 10 := by
      rw [← found]
      ring
    rw [tenth]
    push_cast
    field_simp
  have tens : 0 < 10 * divisor := by omega
  have near := abs_roundHalfEven_sub_le (longer * divisor + left) tens
  have threshold := roundHalfEven_lt_capacity_iff (n := longer * divisor + left) tens
  rw [quotient] at near threshold
  have spare : x * 10 ^ (maxScale - (room + 1)) < limit := by
    rw [pow_succ, ← mul_assoc] at found
    rw [limit]
    rw [capacity_eq] at high ⊢
    linarith
  refine .inl ⟨_, room + 1, rfl, few, threshold.mpr spare, ?_, Nat.sub_le .., near, .inr (.inr ?_)⟩
  · refine lt_limit_of_place (nonneg_of_room value (by positivity)) (Nat.succ_pos (maxScale - (room + 1))) ?_
    rw [found]
    linarith
  · rw [found]
    linarith [limit_le_capacity]

/-- One block of long division keeps the exact quotient. -/
private theorem value_of_block (positive : 0 < divisor) {block : ℕ} (fits : block ≤ room)
    (value : x * 10 ^ maxScale = (digits + rest / divisor) * 10 ^ room) :
    x * 10 ^ maxScale = ((digits * 10 ^ block + rest * 10 ^ block / divisor : ℕ) +
      (rest * 10 ^ block % divisor : ℕ) / divisor) * 10 ^ (room - block) := by
  rw [value, ← Nat.sub_add_cancel fits, pow_add, Nat.add_sub_cancel, Nat.cast_add, add_assoc,
    div_add_mod_div _ positive]
  push_cast
  ring

/-- Past the capacity before all missing zeros are written, there is no quotient. -/
private theorem quotes_none {found places : ℕ} (large : capacity ≤ found * 10 ^ places)
    (below : (found : ℚ) ≤ units) (value : x * 10 ^ maxScale = units * 10 ^ room)
    (many : maxScale + places ≤ room) : Quotes none x := by
  refine .inr ⟨rfl, limit_le_capacity.trans ?_⟩
  rw [eq_of_room value (by omega)]
  have finer : (10 : ℚ) ^ places ≤ 10 ^ (room - maxScale) := pow_le_pow_right₀ (by norm_num) (by omega)
  calc (capacity : ℚ) ≤ found * 10 ^ places := by exact_mod_cast large
    _ ≤ units * 10 ^ (room - maxScale) := by
      have nonneg : (0 : ℚ) ≤ found := Nat.cast_nonneg _
      exact mul_le_mul below finer (by positivity) (nonneg.trans below)

/-- Long division rounds the exact quotient once, and fails exactly from the limit on. -/
theorem divideFrom_quotes (positive : 0 < divisor) (digits rest room : ℕ) (inside : rest < divisor)
    (bound : digits < capacity)
    (value : x * 10 ^ maxScale = (digits + rest / divisor) * 10 ^ room) :
    Quotes (divideFrom divisor digits rest room) x := by
  have part : (0 : ℚ) ≤ rest / divisor := by positivity
  induction digits, rest, room using divideFrom.induct divisor with
  | case1 digits room few =>
    rw [divideFrom, if_pos rfl, if_pos few]
    exact quotes_exactly (by simpa using value) bound few
  | case2 digits room many padded fits =>
    rw [divideFrom, if_pos rfl, if_neg many, if_pos fits]
    refine quotes_exactly ?_ fits le_rfl
    rw [eq_of_room value (by omega)]
    simp
  | case3 digits room many padded large =>
    rw [divideFrom, if_pos rfl, if_neg many, if_neg large]
    exact quotes_none (not_lt.mp large) (by linarith) value (by omega)
  | case4 digits rest room more block short =>
    rw [divideFrom, if_neg more]
    dsimp only
    rw [if_pos short]
    exact quotes_none (capacity_le_of_nextBlock_lt short.2 (by omega)) (by linarith) value (by omega)
  | case5 digits rest room more block long none =>
    rw [divideFrom, if_neg more]
    dsimp only
    rw [if_neg long, dif_pos none]
    have few : room ≤ maxScale := by
      have full : blockSize = 9 := rfl
      omega
    refine quotes_settled positive inside bound few value ?_
    by_contra space
    rw [not_or, not_le] at space
    have first : nextBlock digits room = 0 := none
    have next : capacity ≤ digits * 10 ^ (nextBlock digits room + 1) := by
      refine capacity_le_of_nextBlock_lt ?_ (by omega)
      rw [first]
      decide
    rw [first] at next
    exact absurd space.2 (not_lt.mpr next)
  | case6 digits rest room more block long some longer left fits ih =>
    rw [divideFrom, if_neg more]
    dsimp only
    rw [if_neg long, dif_neg some, if_pos fits]
    exact ih (Nat.mod_lt _ positive) fits (value_of_block positive (nextBlock_le digits room) value)
      (by positivity)
  | case7 digits rest room more block long some longer large spare =>
    rw [divideFrom, if_neg more]
    dsimp only
    rw [if_neg long, dif_neg some, if_neg large, if_pos spare]
    refine quotes_overrun positive (Nat.mod_lt _ positive) (not_lt.mp large) ?_ spare
      (value_of_block positive (nextBlock_le digits room) value)
    have kept := mul_pow_nextBlock_lt bound room
    have found : rest * 10 ^ nextBlock digits room / divisor ≤ 10 ^ nextBlock digits room :=
      Nat.div_le_of_le_mul (Nat.mul_le_mul_right _ inside.le)
    have short : 10 ^ nextBlock digits room ≤ 10 ^ blockSize :=
      Nat.pow_le_pow_right (by decide) (nextBlock_le_blockSize digits room)
    have size : 10 ^ blockSize + 1 < capacity := by decide
    omega
  | case8 digits rest room more block long some longer large none =>
    rw [divideFrom, if_neg more]
    dsimp only
    rw [if_neg long, dif_neg some, if_neg large, if_neg none]
    have past : capacity ≤ longer * 10 ^ 0 := by simpa using not_lt.mp large
    refine quotes_none past ?_ (value_of_block positive (nextBlock_le digits room) value) (by omega)
    exact le_add_of_nonneg_right (by positivity)

end

/-- The same number with fewer zeros at its end. -/
def SameNumber (first second : ℕ × ℕ) : Prop :=
  first.1 ≤ second.1 ∧ first.2 ≤ second.2 ∧ (first.1 : ℚ) / 10 ^ first.2 = second.1 / 10 ^ second.2

theorem SameNumber.trans {first second third : ℕ × ℕ} (left : SameNumber first second)
    (right : SameNumber second third) : SameNumber first third :=
  ⟨left.1.trans right.1, left.2.1.trans right.2.1, left.2.2.trans right.2.2⟩

theorem dropZeros_same (zeros : ℕ) (number : ℕ × ℕ) : SameNumber (dropZeros zeros number) number := by
  rw [dropZeros]
  split
  case isTrue drops =>
    refine ⟨Nat.div_le_self .., Nat.sub_le .., ?_⟩
    obtain ⟨digits, whole⟩ := Nat.dvd_of_mod_eq_zero drops.2
    rw [whole, Nat.mul_div_cancel_left _ (by positivity), ← Nat.sub_add_cancel drops.1,
      Nat.add_sub_cancel, pow_add]
    push_cast
    field_simp
  case isFalse => exact ⟨le_rfl, le_rfl, rfl⟩

theorem dropEightZeros_same (number : ℕ × ℕ) : SameNumber (dropEightZeros number) number := by
  rw [dropEightZeros]
  split
  · exact dropZeros_same 8 number
  · exact ⟨le_rfl, le_rfl, rfl⟩

theorem stripZeros_same (number : ℕ × ℕ) : SameNumber (stripZeros number) number := by
  rw [stripZeros]
  refine (dropZeros_same 1 _).trans ((dropZeros_same 2 _).trans ((dropZeros_same 4 _).trans ?_))
  exact (dropEightZeros_same _).trans ((dropEightZeros_same _).trans (dropEightZeros_same _))

/-- The size of a quotient as long division starts with it. -/
private theorem value_of_quotient {a b : Decimal} (nonzero : b.magnitude ≠ 0) :
    |a.toRat / b.toRat| * 10 ^ maxScale = ((a.magnitude / b.magnitude : ℕ) +
      (a.magnitude % b.magnitude : ℕ) / b.magnitude) * 10 ^ (maxScale + b.scale - a.scale) := by
  have divisor : (b.magnitude : ℚ) ≠ 0 := by exact_mod_cast nonzero
  have room : maxScale + b.scale - a.scale + a.scale = maxScale + b.scale := by
    have few := a.scale_le
    omega
  have power : (10 : ℚ) ^ (maxScale + b.scale - a.scale) * 10 ^ a.scale = 10 ^ maxScale * 10 ^ b.scale := by
    rw [← pow_add, room, pow_add]
  rw [div_add_mod_div _ (Nat.pos_of_ne_zero nonzero), abs_div, abs_toRat, abs_toRat]
  field_simp
  linear_combination (-(a.magnitude : ℚ)) * power

/-- The parts of a quotient after long division, as a decimal. -/
private theorem ofParts?_rounds {x : ℚ} {digits places : ℕ} {number : ℕ × ℕ} (negative : Bool)
    (rounded : RoundedAt |x| digits places) (bound : digits < capacity)
    (same : SameNumber number (digits, places)) (below : x < 0 → negative = true)
    (above : 0 < x → negative = false) :
    ∃ a, ofParts? (negative && number.1 != 0) number.1 number.2 = some a ∧ Rounds a x := by
  have magnitude_lt : number.1 < capacity := same.1.trans_lt bound
  have scale_le : number.2 ≤ maxScale := same.2.1.trans rounded.places_le
  refine ⟨_, ofParts?_of_lt magnitude_lt scale_le, digits, places, rounded, ?_⟩
  rw [toRat_of_sign, ← same.2.2]
  by_cases none : number.1 = 0
  · simp [none]
  rcases lt_trichotomy x 0 with less | rfl | more
  · rw [if_pos less]
    simp [below less, none]
  · rw [abs_zero] at rounded
    have empty := rounded.digits_eq_zero
    exact absurd (Nat.le_zero.mp (empty ▸ same.1)) none
  · rw [if_neg (not_lt.mpr more.le)]
    simp [above more]

theorem quotient?_fits (a : Decimal) {b : Decimal} (nonzero : b.isZero = false) :
    Fits (quotient? a b) (a.toRat / b.toRat) := by
  rw [quotient?]
  split
  case isTrue empty =>
    rw [isZero_iff.mp empty, zero_div]
    exact .of_eq toRat_zero
  dsimp only
  have divisor : b.magnitude ≠ 0 := by simpa [isZero] using nonzero
  have positive := Nat.pos_of_ne_zero divisor
  have quotes := divideFrom_quotes positive (a.magnitude / b.magnitude) (a.magnitude % b.magnitude)
    (maxScale + b.scale - a.scale) (Nat.mod_lt _ positive)
    ((Nat.div_le_self ..).trans_lt a.magnitude_lt) (value_of_quotient divisor)
  rcases quotes with ⟨digits, room, found, few, bound, below, rounded⟩ | ⟨failed, large⟩
  · have same : SameNumber (if a.magnitude % b.magnitude = 0 then (digits, maxScale - room)
        else stripZeros (digits, maxScale - room)) (digits, maxScale - room) := by
      split
      · exact ⟨le_rfl, le_rfl, rfl⟩
      · exact stripZeros_same _
    obtain ⟨c, made, rounds⟩ := ofParts?_rounds (a.negative != b.negative) rounded bound same
      (fun less => negative_bne_of_mul_neg (mul_neg_iff.mpr (div_neg_iff.mp less)))
      (fun more => negative_bne_of_mul_pos (mul_pos_iff.mpr (div_pos_iff.mp more)))
    refine .inl ⟨c, ?_, below, rounds⟩
    rw [found]
    exact made
  · exact .inr ⟨by rw [failed]; rfl, large⟩

theorem div_computes (a : Decimal) {b : Decimal} (nonzero : b.isZero = false) :
    Computes (a.div b) (a.toRat / b.toRat) (.overflow .division) := by
  rw [div, if_neg (by simp [nonzero])]
  apply (quotient?_fits a nonzero).computes
  · intro c made
    rw [made]
  · intro failed
    rw [failed]

end TradeLedger.Decimal
