import TradeLedger.Proofs.Decimal.Congruence
import TradeLedger.Proofs.Decimal.Quotient
import TradeLedger.Proofs.Decimal.Totals
import TradeLedger.Tax.Gains

/-! The sums of gains and losses. A closed position adds its profit to the sum of its term and outcome and
to no other. Where no addition rounds, each sum is that of the positions of its term and outcome, and the
net of a term, for which gains and losses are joined, is the sum of all its profits. -/
namespace TradeLedger.Tax

open Decimal

/-- What a position that does not close even ends in. -/
inductive Outcome where
  | gain
  | loss
  deriving DecidableEq

/-- The outcome of a profit; none if it is zero. -/
def Outcome.ofPnl? (pnl : Decimal) : Option Outcome :=
  if Decimal.zero < pnl then some .gain else if pnl < Decimal.zero then some .loss else none

/-- What a number counts for among those of an outcome. -/
def Outcome.part (outcome : Outcome) (x : ℚ) : ℚ :=
  match outcome with
  | .gain => Max.max x 0
  | .loss => Min.min x 0

theorem Outcome.part_eq (outcome : Outcome) (pnl : Decimal) :
    outcome.part pnl.toRat = if Outcome.ofPnl? pnl = some outcome then pnl.toRat else 0 := by
  simp only [ofPnl?, lt_iff, toRat_zero]
  rcases lt_trichotomy pnl.toRat 0 with below | even | above
  · cases outcome <;> simp [part, below, below.le, below.not_gt]
  · cases outcome <;> simp [part, even]
  · cases outcome <;> simp [part, above, above.le]

/-- Its gain and its loss make up a number. -/
theorem Outcome.part_add (x : ℚ) : Outcome.gain.part x + Outcome.loss.part x = x := by
  rw [part, part, max_comm, min_comm]
  exact max_add_min 0 x |>.trans (zero_add x)

namespace Gains

/-- The sum of a term and outcome. -/
def of (gains : Gains) : Term → Outcome → Decimal
  | .short, .gain => gains.shortGains
  | .short, .loss => gains.shortLosses
  | .long, .gain => gains.longGains
  | .long, .loss => gains.longLosses

/-- The sums with that of a term and outcome replaced. -/
def set (gains : Gains) (term : Term) (outcome : Outcome) (sum : Decimal) : Gains :=
  match term, outcome with
  | .short, .gain => { gains with shortGains := sum }
  | .short, .loss => { gains with shortLosses := sum }
  | .long, .gain => { gains with longGains := sum }
  | .long, .loss => { gains with longLosses := sum }

@[simp] theorem of_zero (term : Term) (outcome : Outcome) : zero.of term outcome = .zero := by
  cases term <;> cases outcome <;> rfl

theorem of_set (gains : Gains) (term probe : Term) (outcome other : Outcome) (sum : Decimal) :
    (gains.set term outcome sum).of probe other =
      if probe = term ∧ other = outcome then sum else gains.of probe other := by
  cases term <;> cases outcome <;> cases probe <;> cases other <;> rfl

/-- A profit goes to the sum of its term and outcome. -/
theorem add_eq (gains : Gains) (term : Term) (pnl : Decimal) :
    gains.add term pnl = (Outcome.ofPnl? pnl).elim (.ok gains) fun outcome => do
      let sum ← (gains.of term outcome).add pnl
      return gains.set term outcome sum := by
  unfold add Outcome.ofPnl?
  split
  case isTrue => cases term <;> rfl
  case isFalse =>
    split
    case isTrue => cases term <;> rfl
    case isFalse => rfl

/-- Adding the profit of the position to the sum of its term and outcome is exact. -/
def AddsExactly (rules : Rules) (gains : Gains) (group : TradeGroup) : Prop :=
  ∀ outcome ∈ Outcome.ofPnl? group.pnl, (gains.of (Term.ofGroup rules group) outcome).AddsExactly group.pnl

instance (rules : Rules) (gains : Gains) (group : TradeGroup) : Decidable (gains.AddsExactly rules group) :=
  inferInstanceAs (Decidable (∀ outcome ∈ Outcome.ofPnl? group.pnl, Decimal.AddsExactly ..))

/-- What a position brings to the sum of a term and outcome. -/
def part (rules : Rules) (group : TradeGroup) (term : Term) (outcome : Outcome) : ℚ :=
  if Term.ofGroup rules group = term then outcome.part group.pnl.toRat else 0

theorem add_exact {rules : Rules} {gains : Gains} {group : TradeGroup} (unrounded : gains.AddsExactly rules group) :
    ∃ next, gains.add (Term.ofGroup rules group) group.pnl = .ok next ∧
      ∀ term outcome, (next.of term outcome).toRat = (gains.of term outcome).toRat + part rules group term outcome := by
  cases known : Outcome.ofPnl? group.pnl with
  | none =>
    refine ⟨gains, by rw [add_eq, known]; rfl, fun term outcome => ?_⟩
    simp [part, Outcome.part_eq, known]
  | some outcome =>
    obtain ⟨sum, added, value⟩ := unrounded outcome known
    refine ⟨_, by rw [add_eq, known, Option.elim_some, added]; rfl, fun term other => ?_⟩
    rw [of_set, part, Outcome.part_eq, known]
    by_cases own : Term.ofGroup rules group = term
    · subst own
      by_cases same : other = outcome
      · simp [same, value]
      · simp [same, Ne.symm same]
    · simp [own, Ne.symm own]

/-- No addition of the profits of the positions rounds. -/
def SumsExactly (rules : Rules) (groups : List TradeGroup) : Prop :=
  Along (fun gains group => gains.add (Term.ofGroup rules group) group.pnl) (AddsExactly rules) zero groups

instance (rules : Rules) (groups : List TradeGroup) : Decidable (SumsExactly rules groups) :=
  Along.decidable _ _

theorem ofGroups_exact {rules : Rules} {groups : List TradeGroup} (unrounded : SumsExactly rules groups) :
    ∃ gains, ofGroups rules groups = .ok gains ∧ ∀ term outcome,
      (gains.of term outcome).toRat = (groups.map fun group => part rules group term outcome).sum := by
  obtain ⟨gains, added, sums⟩ := unrounded.exists_foldlM
    (motive := fun before groups after => ∀ term outcome, (after.of term outcome).toRat =
      (before.of term outcome).toRat + (groups.map fun group => part rules group term outcome).sum)
    (fun _ _ _ => by simp)
    (fun before group here => by
      obtain ⟨next, added, sums⟩ := add_exact here
      refine ⟨next, added, fun rest final later term outcome => ?_⟩
      rw [later, sums, List.map_cons, List.sum_cons, add_assoc])
  refine ⟨gains, added, fun term outcome => ?_⟩
  rw [sums, of_zero, toRat_zero, zero_add]

/-- What the positions of a term bring together. -/
def netOf (rules : Rules) (term : Term) (groups : List TradeGroup) : ℚ :=
  ((groups.filter fun group => Term.ofGroup rules group = term).map fun group => group.pnl.toRat).sum

theorem sum_part (rules : Rules) (term : Term) (groups : List TradeGroup) :
    (groups.map fun group => part rules group term .gain).sum +
        (groups.map fun group => part rules group term .loss).sum =
      netOf rules term groups := by
  induction groups with
  | nil => simp [netOf]
  | cons group groups ih =>
    rw [List.map_cons, List.sum_cons, List.map_cons, List.sum_cons, add_add_add_comm, ih, netOf, netOf]
    by_cases own : Term.ofGroup rules group = term <;> simp [part, own, Outcome.part_add]

theorem netOf_add (rules : Rules) (groups : List TradeGroup) :
    netOf rules .short groups + netOf rules .long groups = (groups.map fun group => group.pnl.toRat).sum := by
  induction groups with
  | nil => simp [netOf]
  | cons group groups ih =>
    rw [List.map_cons, List.sum_cons, ← ih, netOf, netOf, netOf, netOf]
    cases own : Term.ofGroup rules group <;> simp [own] <;> ring

/-- Joining gains and losses, and then the two terms, is exact. -/
def NetsExactly (gains : Gains) : Prop :=
  gains.shortGains.AddsExactly gains.shortLosses ∧ gains.longGains.AddsExactly gains.longLosses ∧
    whenever gains.netShort fun short => whenever gains.netLong fun long => short.AddsExactly long

instance (gains : Gains) : Decidable gains.NetsExactly := inferInstanceAs (Decidable (_ ∧ _ ∧ _))

theorem nets_exact {gains : Gains} (unrounded : gains.NetsExactly) :
    ∃ short long net, gains.netShort = .ok short ∧ gains.netLong = .ok long ∧ gains.net = .ok net ∧
      short.toRat = gains.shortGains.toRat + gains.shortLosses.toRat ∧
      long.toRat = gains.longGains.toRat + gains.longLosses.toRat ∧ net.toRat = short.toRat + long.toRat := by
  obtain ⟨⟨short, first, ofShort⟩, ⟨long, second, ofLong⟩, both⟩ := unrounded
  rw [← netShort] at first
  rw [← netLong] at second
  rw [first, second] at both
  obtain ⟨net, third, ofNet⟩ := both
  exact ⟨short, long, net, first, second, by rw [Gains.net, first, ok_bind, second, ok_bind, third],
    ofShort, ofLong, ofNet⟩

/-- Sums of the same numbers. -/
def SameFigures (a b : Gains) : Prop := ∀ term outcome, SameValue (a.of term outcome) (b.of term outcome)

variable {a b : Gains}

theorem netShort_agrees (same : a.SameFigures b) : Agree SameValue a.netShort b.netShort :=
  add_agrees (same .short .gain) (same .short .loss)

theorem netLong_agrees (same : a.SameFigures b) : Agree SameValue a.netLong b.netLong :=
  add_agrees (same .long .gain) (same .long .loss)

theorem net_agrees (same : a.SameFigures b) : Agree SameValue a.net b.net := by
  rw [net, net]
  refine (netShort_agrees same).bind fun _ _ short => ?_
  exact (netLong_agrees same).bind fun _ _ long => add_agrees short long

theorem deduction_agrees (rules : Rules) (same : a.SameFigures b) :
    Agree SameValue (a.deduction rules) (b.deduction rules) := by
  rw [deduction, deduction]
  refine (net_agrees same).bind fun net net' equal => ?_
  have below : net < Decimal.zero ↔ net' < Decimal.zero := by
    rw [lt_iff, lt_iff, show net.toRat = net'.toRat from equal]
  by_cases loss : net < Decimal.zero
  · rw [if_pos loss, if_pos (below.mp loss)]
    exact min_same (abs_same equal) rfl
  · rw [if_neg loss, if_neg (below.not.mp loss)]
    exact (rfl : Decimal.zero.toRat = Decimal.zero.toRat)

end Gains

namespace Estimate

/-- There is an estimate, and adding up its taxes is exact. -/
def TotalsExactly (rules : Rules) (gains : Gains) (dividends : Decimal) : Prop :=
  ∃ estimate, ofGains rules gains dividends = .ok estimate ∧
    estimate.total.toRat = estimate.shortTerm.toRat + estimate.longTerm.toRat + estimate.dividends.toRat

instance (rules : Rules) (gains : Gains) (dividends : Decimal) : Decidable (TotalsExactly rules gains dividends) :=
  match answer : ofGains rules gains dividends with
  | .ok estimate => decidable_of_iff
      (estimate.total.toRat = estimate.shortTerm.toRat + estimate.longTerm.toRat + estimate.dividends.toRat)
      ⟨fun adds => ⟨estimate, answer, adds⟩, fun ⟨_, made, adds⟩ => by cases answer.symm.trans made; exact adds⟩
  | .error _ => .isFalse fun ⟨_, made, _⟩ => by cases answer.symm.trans made

/-- Estimates of the same numbers. -/
structure SameFigures (a b : Estimate) : Prop where
  shortTerm : SameValue a.shortTerm b.shortTerm
  longTerm : SameValue a.longTerm b.longTerm
  dividends : SameValue a.dividends b.dividends
  total : SameValue a.total b.total

theorem ofGains_agrees (rules : Rules) {a b : Gains} {dividends dividends' : Decimal} (gains : a.SameFigures b)
    (paid : SameValue dividends dividends') :
    Agree SameFigures (ofGains rules a dividends) (ofGains rules b dividends') := by
  have again : ∀ answer, Agree SameValue answer answer := Agree.refl fun _ => rfl
  have taxed : ∀ {x y rate rate' : Decimal}, SameValue x y → SameValue rate rate' →
      Agree SameValue ((x.max .zero).mul rate) ((y.max .zero).mul rate') :=
    fun figures rates => mul_agrees (max_same figures rfl) rates
  rw [ofGains, ofGains]
  refine (again _).bind fun _ _ shortRate => ?_
  refine (again _).bind fun _ _ longRate => ?_
  refine (Gains.netShort_agrees gains).bind fun _ _ short => ?_
  refine (taxed short shortRate).bind fun _ _ shortTax => ?_
  refine (Gains.netLong_agrees gains).bind fun _ _ long => ?_
  refine (taxed long longRate).bind fun _ _ longTax => ?_
  refine (taxed paid shortRate).bind fun _ _ dividendTax => ?_
  refine (add_agrees shortTax longTax).bind fun _ _ both => ?_
  exact (add_agrees both dividendTax).bind fun _ _ total => ⟨shortTax, longTax, dividendTax, total⟩

theorem percent_eq (rate : UInt32) : (ofUInt32 rate).toRat / hundred.toRat = rate.toNat / 100 := by
  rw [toRat_ofUInt32, hundred, toRat_ofUInt32]
  rfl

theorem fraction_rounds {rate : UInt32} {fraction : Decimal} (divided : (ofUInt32 rate).div .hundred = .ok fraction) :
    Rounds fraction (rate.toNat / 100) := by
  rw [← percent_eq]
  exact (div_computes (ofUInt32 rate) (b := hundred) (by decide)).rounds divided

/-- The rates of every bracket are fractions that decimals hold. -/
theorem exists_fraction (rate : UInt32) : ∃ fraction, (ofUInt32 rate).div .hundred = .ok fraction := by
  have below : (rate.toNat : ℚ) < 2 ^ 32 := by exact_mod_cast rate.toNat_lt
  have small : |(ofUInt32 rate).toRat / hundred.toRat| < limit := by
    rw [percent_eq, abs_of_nonneg (by positivity), limit_eq]
    linarith
  obtain ⟨fraction, divided, _⟩ := (div_computes (ofUInt32 rate) (b := hundred) (by decide)).exists_ok small
  exact ⟨fraction, divided⟩

/-- They are not negative, -/
theorem fraction_nonneg {rate : UInt32} {fraction : Decimal} (divided : (ofUInt32 rate).div .hundred = .ok fraction) :
    0 ≤ fraction.toRat :=
  (fraction_rounds divided).nonneg (by positivity)

/-- and of at most a hundred percent they are shares. -/
theorem fraction_le_one {rate : UInt32} {fraction : Decimal} (divided : (ofUInt32 rate).div .hundred = .ok fraction)
    (percent : rate ≤ 100) : fraction.toRat ≤ 1 := by
  have whole : (ofUInt32 1).toRat = 1 := by
    rw [toRat_ofUInt32]
    exact Nat.cast_one
  have few : (rate.toNat : ℚ) ≤ 100 := by exact_mod_cast percent
  rw [← whole]
  refine (fraction_rounds divided).le_of_le ?_
  rw [whole]
  linarith

/-- Where there is neither gain nor dividend, there is no tax. -/
theorem ofGains_zero (rules : Rules) : ofGains rules .zero .zero = .ok ⟨.zero, .zero, .zero, .zero⟩ := by
  obtain ⟨short, ofShort⟩ := exists_fraction rules.bracket.rate
  obtain ⟨long, ofLong⟩ := exists_fraction rules.bracket.longTermRate
  rw [ofGains, Bracket.shortTermFraction, ofShort, ok_bind, Bracket.longTermFraction, ofLong, ok_bind]
  rfl

end Estimate

end TradeLedger.Tax
