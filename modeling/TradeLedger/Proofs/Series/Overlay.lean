import TradeLedger.Proofs.Series.Exact
import TradeLedger.Series.Reconstruction

/-! What open positions lay over the end of a curve. Where no addition rounds, the profit of shares and
of options is the exact sum over the positions. Profit that sums to zero leaves the curve of what is
realized as it is. -/
namespace TradeLedger

namespace Unrealized

/-- The profit that a position brings to a source. -/
def profitFor (source : Source) (position : Position) : ℚ :=
  if position.instrument.source = source then position.unrealized.toRat else 0

/-- Adding the position to its source is exact. -/
def AddsExactly (unrealized : Unrealized) (position : Position) : Prop :=
  if position.instrument = .equity then unrealized.equity.AddsExactly position.unrealized
  else if position.instrument.isOption then unrealized.options.AddsExactly position.unrealized
  else True

instance (unrealized : Unrealized) (position : Position) : Decidable (unrealized.AddsExactly position) :=
  inferInstanceAs (Decidable (ite ..))

theorem add_exact {unrealized : Unrealized} {position : Position} (unrounded : unrealized.AddsExactly position) :
    ∃ next, unrealized.add position = .ok next ∧
      next.equity.toRat = unrealized.equity.toRat + profitFor .equity position ∧
      next.options.toRat = unrealized.options.toRat + profitFor .options position := by
  rw [AddsExactly] at unrounded
  rw [add, profitFor, profitFor]
  simp only [Instrument.source_eq_equity, Instrument.source_eq_options]
  split
  case isTrue shares =>
    rw [if_pos shares] at unrounded
    obtain ⟨sum, added, same⟩ := unrounded
    exact ⟨{ unrealized with equity := sum }, by rw [added]; rfl, same, by simp [shares, Instrument.isOption]⟩
  case isFalse other =>
    rw [if_neg other] at unrounded
    split
    case isTrue contract =>
      rw [if_pos contract] at unrounded
      obtain ⟨sum, added, same⟩ := unrounded
      exact ⟨{ unrealized with options := sum }, by rw [added]; rfl, by simp, same⟩
    case isFalse => exact ⟨unrealized, rfl, by simp, by simp⟩

/-- No addition of the profits of positions overflows or rounds. -/
def SplitsExactly (positions : List Position) : Prop := Along add AddsExactly ⟨.zero, .zero⟩ positions

instance (positions : List Position) : Decidable (SplitsExactly positions) := Along.decidable _ _

theorem ofPositions_exact {positions : List Position} (unrounded : SplitsExactly positions) :
    ∃ unrealized, ofPositions positions = .ok unrealized ∧
      unrealized.equity.toRat = (positions.map (profitFor .equity)).sum ∧
      unrealized.options.toRat = (positions.map (profitFor .options)).sum := by
  obtain ⟨unrealized, added, equity, options⟩ := unrounded.exists_foldlM
    (motive := fun before positions after =>
      after.equity.toRat = before.equity.toRat + (positions.map (profitFor .equity)).sum ∧
        after.options.toRat = before.options.toRat + (positions.map (profitFor .options)).sum)
    (fun _ => by simp)
    (fun before position here => by
      obtain ⟨next, added, equity, options⟩ := add_exact here
      refine ⟨next, added, fun positions after ⟨laterEquity, laterOptions⟩ => ⟨?_, ?_⟩⟩
      · rw [laterEquity, equity, List.map_cons, List.sum_cons, add_assoc]
      · rw [laterOptions, options, List.map_cons, List.sum_cons, add_assoc])
  refine ⟨unrealized, added, ?_, ?_⟩
  · rw [equity, Decimal.toRat_zero, zero_add]
  · rw [options, Decimal.toRat_zero, zero_add]

end Unrealized

end TradeLedger

namespace TradeLedger.Curve

variable {curve : Curve} {unrealized : Unrealized}

theorem overlay_idle {sum : Decimal} (summed : unrealized.total = .ok sum) (idle : sum.toRat = 0)
    (curve : Curve) (today : Date) : curve.overlay unrealized today = .ok curve := by
  rw [overlay, summed, ok_bind, if_pos (Decimal.isZero_iff.mpr idle)]
  rfl

/-- Without open positions a curve shows what is realized. -/
theorem reconstruct_nil (policy : ShortSales) (lines : List LedgerLine) (scope : Scope) (today : Date) :
    reconstruct policy lines [] scope today = realized policy lines scope := by
  have nothing : Unrealized.total ⟨.zero, .zero⟩ = .ok .zero := by decide +kernel
  rw [reconstruct]
  cases realized policy lines scope with
  | error fault => rfl
  | ok curve =>
    rw [ok_bind, positionsIn, List.filter_nil, Unrealized.ofPositions, List.foldlM_nil]
    exact overlay_idle nothing Decimal.toRat_zero curve today

end TradeLedger.Curve
