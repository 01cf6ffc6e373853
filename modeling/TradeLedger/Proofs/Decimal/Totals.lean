import Mathlib.Algebra.BigOperators.Group.List.Basic
import TradeLedger.Proofs.Decimal.Arithmetic
import TradeLedger.Proofs.Fold

/-! Sums of many decimals. A fold of additions that do not round adds up exactly what its steps add, and
so the total of a list is the sum of its numbers. -/
namespace TradeLedger

/-- If every good step adds its part to the sums of a state, and its keys to those of the state, then a
fold of good steps adds the parts and the keys of them all. -/
theorem Along.exists_foldlM_adds {σ α ι κ : Type} {step : σ → α → Except Fault σ} {good : σ → α → Prop} {s : σ}
    {xs : List α} {sums : σ → ι → ℚ} {part : α → ι → ℚ} {has : σ → κ → Prop} {opens : α → κ → Prop}
    (along : Along step good s xs)
    (adds : ∀ s x, good s x → ∃ t, step s x = .ok t ∧ (∀ i, sums t i = sums s i + part x i) ∧
      ∀ key, has t key ↔ has s key ∨ opens x key) :
    ∃ t, xs.foldlM step s = .ok t ∧ (∀ i, sums t i = sums s i + (xs.map fun x => part x i).sum) ∧
      ∀ key, has t key ↔ has s key ∨ ∃ x ∈ xs, opens x key := by
  refine along.exists_foldlM (motive := fun s xs t => (∀ i, sums t i = sums s i + (xs.map fun x => part x i).sum) ∧
    ∀ key, has t key ↔ has s key ∨ ∃ x ∈ xs, opens x key) (fun s => ⟨?_, ?_⟩) ?_
  · intro i
    rw [List.map_nil, List.sum_nil, add_zero]
  · intro key
    simp
  · intro s x here
    obtain ⟨t, stepped, grown, keys⟩ := adds s x here
    refine ⟨t, stepped, fun rest final ⟨laterGrown, laterKeys⟩ => ⟨?_, ?_⟩⟩
    · intro i
      rw [laterGrown, grown, List.map_cons, List.sum_cons, add_assoc]
    · intro key
      rw [laterKeys, keys, or_assoc, List.exists_mem_cons_iff]

namespace Decimal

/-- The sum of two decimals is exact. -/
def AddsExactly (a b : Decimal) : Prop := IsExact (a.add b) (a.toRat + b.toRat)

instance (a b : Decimal) : Decidable (a.AddsExactly b) := inferInstanceAs (Decidable (IsExact ..))

/-- An addition fails in one way only, -/
theorem add_fault {a b : Decimal} {fault : Fault} (failed : a.add b = .error fault) :
    fault = .overflow .addition := by
  rw [add] at failed
  split at failed
  · cases failed
  · exact (Except.error.inj failed).symm

/-- and so does a total. -/
theorem total_fault {terms : List Decimal} {fault : Fault} (failed : total terms = .error fault) :
    fault = .overflow .addition := by
  obtain ⟨_, _, _, failed⟩ := exists_of_foldlM_error failed
  exact add_fault failed

/-- No addition of the decimals, first to last, overflows or rounds. -/
def TotalsExactly (terms : List Decimal) : Prop := Along add AddsExactly zero terms

instance (terms : List Decimal) : Decidable (TotalsExactly terms) := Along.decidable _ _

theorem total_exact {terms : List Decimal} (unrounded : TotalsExactly terms) :
    IsExact (total terms) (terms.map toRat).sum := by
  obtain ⟨sum, added, value⟩ := unrounded.exists_foldlM
    (motive := fun before terms after => after.toRat = before.toRat + (terms.map toRat).sum)
    (fun _ => by simp)
    (fun before term here => by
      obtain ⟨next, added, value⟩ := here
      refine ⟨next, added, fun rest final later => ?_⟩
      rw [later, value, List.map_cons, List.sum_cons, add_assoc])
  exact ⟨sum, added, by rw [value, toRat_zero, zero_add]⟩

end Decimal

end TradeLedger
