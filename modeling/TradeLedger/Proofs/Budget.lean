import TradeLedger.Proofs.Decimal.Arithmetic
import TradeLedger.Proofs.Fault
import TradeLedger.Proofs.Ordered.Map

/-! Sums that stay within a budget. A sum is rounded once for each addition, so it is no larger than all its terms
and one for each of them. While these stay below the limit of decimals no addition overflows, whatever the places
of the terms. -/
namespace TradeLedger

open Decimal

/-- Two figures whose sizes leave room for one more have a sum. -/
theorem Decimal.add_exists {a b : Decimal} (small : |a.toRat| + |b.toRat| ≤ 10 ^ 28 - 1) :
    ∃ c, a.add b = .ok c ∧ |c.toRat| ≤ |a.toRat| + |b.toRat| + 1 := by
  have triangle := abs_add_le a.toRat b.toRat
  obtain ⟨c, added, rounded⟩ := (add_computes a b).exists_ok (by
    rw [limit_eq]
    linarith)
  have moved := rounded.abs_sub_le
  rw [le_div_iff₀ (by positivity)] at moved
  have size := abs_add_le (c.toRat - (a.toRat + b.toRat)) (a.toRat + b.toRat)
  rw [sub_add_cancel] at size
  exact ⟨c, added, by linarith⟩

/-- A share of a figure is no larger than the figure. -/
theorem Decimal.mul_exists {a share : Decimal} (part : |share.toRat| ≤ 1) :
    ∃ c, a.mul share = .ok c ∧ |c.toRat| ≤ |a.toRat| := by
  have size : |a.toRat * share.toRat| ≤ |a.toRat| := by
    rw [abs_mul]
    exact mul_le_of_le_one_right (abs_nonneg _) part
  obtain ⟨c, multiplied, rounded⟩ := (mul_computes a share).exists_ok (size.trans_lt a.abs_toRat_lt_limit)
  refine ⟨c, multiplied, abs_le.mpr ⟨?_, ?_⟩⟩
  · have reached := rounded.ge_of_ge (c := a.abs.neg) (by
      rw [toRat_neg, toRat_abs]
      exact (abs_le.mp size).1)
    rwa [toRat_neg, toRat_abs] at reached
  · have reached := rounded.le_of_le (c := a.abs) (by
      rw [toRat_abs]
      exact (abs_le.mp size).2)
    rwa [toRat_abs] at reached

/-- A charge for each of the figures of a sum. -/
theorem sum_map_charged {α : Type} (f : α → ℚ) (charge : ℚ) (xs : List α) :
    (xs.map fun x => f x + charge).sum = (xs.map f).sum + charge * xs.length := by
  rw [List.sum_map_add, List.map_const', List.sum_replicate, nsmul_eq_mul, mul_comm]

/-- Bounded figures have a sum that is bounded by how many there are. -/
theorem sum_map_le {α : Type} {f : α → ℚ} {bound : ℚ} {xs : List α} (each : ∀ x ∈ xs, f x ≤ bound) :
    (xs.map f).sum ≤ bound * xs.length := by
  have sums := List.sum_le_card_nsmul (xs.map f) bound (by simpa using each)
  rwa [List.length_map, nsmul_eq_mul, mul_comm] at sums

/-- A fold whose steps have answers while the size leaves room has one itself. -/
theorem foldlM_grows {σ α : Type} {step : σ → α → Except Fault σ} (size : σ → ℚ) (cost : α → ℚ) {room : ℚ}
    (nonneg : ∀ x, 0 ≤ cost x)
    (steps : ∀ s x, size s + cost x ≤ room → ∃ t, step s x = .ok t ∧ size t ≤ size s + cost x)
    (xs : List α) (s : σ) (small : size s + (xs.map cost).sum ≤ room) :
    ∃ t, xs.foldlM step s = .ok t ∧ size t ≤ size s + (xs.map cost).sum := by
  induction xs generalizing s with
  | nil => exact ⟨s, rfl, by simp⟩
  | cons x xs ih =>
    rw [List.map_cons, List.sum_cons] at small ⊢
    have later : 0 ≤ (xs.map cost).sum := List.sum_nonneg fun y member => by
      obtain ⟨z, _, rfl⟩ := List.mem_map.mp member
      exact nonneg z
    obtain ⟨next, stepped, grown⟩ := steps s x (by linarith)
    obtain ⟨final, folded, size'⟩ := ih next (by linarith)
    refine ⟨final, ?_, by linarith⟩
    rw [List.foldlM_cons, stepped, ok_bind, folded]

/-- At most a million millions of elements, none of them larger than imported numbers can be. -/
structure Affordable {α : Type} (size : α → ℚ) (xs : List α) : Prop where
  few : xs.length ≤ 10 ^ 12
  each : ∀ x ∈ xs, size x ≤ 10 ^ 15

namespace Affordable

variable {α : Type} {size : α → ℚ} {xs ys : List α}

theorem of_perm_filter (all : Affordable size xs) {keep : α → Bool} (kept : ys.Perm (xs.filter keep)) :
    Affordable size ys :=
  ⟨kept.length_eq.trans_le ((List.length_filter_le _ _).trans all.few),
    fun y member => all.each y (List.mem_of_mem_filter (kept.mem_iff.mp member))⟩

theorem filter (all : Affordable size xs) (keep : α → Bool) : Affordable size (xs.filter keep) :=
  all.of_perm_filter (.refl _)

/-- A fold whose steps grow by no more than a figure and one stays small. -/
theorem exists_foldlM {σ : Type} {step : σ → α → Except Fault σ} {weight : σ → ℚ} {s : σ} (all : Affordable size xs)
    (nonneg : ∀ x, 0 ≤ size x) (empty : weight s = 0)
    (steps : ∀ s x, weight s + (size x + 1) ≤ 10 ^ 28 - 1 →
      ∃ t, step s x = .ok t ∧ weight t ≤ weight s + (size x + 1)) :
    ∃ t, xs.foldlM step s = .ok t ∧ weight t ≤ 10 ^ 27 + 10 ^ 12 := by
  have count : (xs.length : ℚ) ≤ 10 ^ 12 := by exact_mod_cast all.few
  have sums := sum_map_le all.each
  have charged : (xs.map fun x => size x + 1).sum ≤ 10 ^ 27 + 10 ^ 12 := by
    rw [sum_map_charged]
    linarith
  obtain ⟨t, folded, grown⟩ := foldlM_grows weight (fun x => size x + 1) (fun x => add_nonneg (nonneg x) zero_le_one)
    steps xs s (by linarith)
  exact ⟨t, folded, by linarith⟩

end Affordable

/-- Affordable figures have a total. -/
theorem Decimal.total_exists {α : Type} {figure : α → Decimal} {xs : List α}
    (all : Affordable (fun x => |(figure x).toRat|) xs) :
    ∃ sum, total (xs.map figure) = .ok sum ∧ |sum.toRat| ≤ 10 ^ 27 + 10 ^ 12 := by
  rw [total, List.foldlM_map]
  refine all.exists_foldlM (fun x => abs_nonneg _) (by simp) ?_
  intro sum x small
  obtain ⟨next, added, grown⟩ := add_exists (a := sum) (b := figure x) (by linarith)
  exact ⟨next, added, grown.trans_eq (add_assoc ..)⟩

namespace OrderedMap

variable {κ α : Type} [Ord κ] [Std.TransOrd κ] [Std.LawfulEqOrd κ]

omit [Std.TransOrd κ] [Std.LawfulEqOrd κ] in
private theorem length_insertEntry_le (key : κ) (value : α) (entries : List (κ × α)) :
    (insertEntry key value entries).length ≤ entries.length + 1 := by
  induction entries with
  | nil => exact le_rfl
  | cons entry entries ih =>
    rw [insertEntry]
    split
    · exact le_rfl
    · exact Nat.le_succ _
    · exact Nat.succ_le_succ ih

/-- Setting a key adds to a total at most what its value grows by. -/
theorem total_insert_le (f : α → ℚ) {x : ℚ} {fallback : α} (nothing : f fallback = 0) {map : OrderedMap κ α}
    {key : κ} {value : α} (grows : f value ≤ f (map.getD key fallback) + x) :
    (map.insert key value).total f ≤ map.total f + x := by
  rw [total_insert f nothing]
  linarith

/-- Changing the value under a key where the total leaves room. -/
theorem exists_change (size : α → ℚ) (change : α → Except Fault α) {x room : ℚ} {fallback : α}
    (nonneg : ∀ value, 0 ≤ size value) (nothing : size fallback = 0)
    (changes : ∀ value, size value + x ≤ room → ∃ next, change value = .ok next ∧ size next ≤ size value + x)
    {map : OrderedMap κ α} {key : κ} (small : map.total size + x ≤ room) :
    ∃ next, (do return map.insert key (← change (map.getD key fallback))) = Except.ok (ε := Fault) next ∧
      next.total size ≤ map.total size + x := by
  have one : size (map.getD key fallback) ≤ map.total size := le_total size nonneg nothing
  obtain ⟨value, changed, grown⟩ := changes (map.getD key fallback) (by linarith)
  exact ⟨map.insert key value, by rw [changed]; rfl, total_insert_le size nothing grown⟩

/-- A figure summed over the values, and a charge for each entry. -/
def charged (f : α → ℚ) (charge : ℚ) (map : OrderedMap κ α) : ℚ := map.total f + charge * map.entries.length

/-- Setting a key adds at most what its value grows by and one charge. -/
theorem charged_insert_le (f : α → ℚ) (charge : ℚ) {x : ℚ} {fallback : α} (nothing : f fallback = 0)
    (nonneg : 0 ≤ charge) {map : OrderedMap κ α} {key : κ} {value : α}
    (grows : f value ≤ f (map.getD key fallback) + x) :
    (map.insert key value).charged f charge ≤ map.charged f charge + (x + charge) := by
  have entries : ((map.insert key value).entries.length : ℚ) ≤ map.entries.length + 1 := by
    exact_mod_cast length_insertEntry_le key value map.entries
  have scaled := mul_le_mul_of_nonneg_left entries nonneg
  have sums := total_insert_le f nothing grows
  rw [charged, charged]
  linarith

omit [Std.TransOrd κ] [Std.LawfulEqOrd κ] in
theorem sum_entries (f : α → ℚ) (charge : ℚ) (map : OrderedMap κ α) :
    (map.entries.map fun entry => f entry.2 + charge).sum = map.charged f charge := by
  rw [charged, total, values, List.map_map]
  exact sum_map_charged (fun entry : κ × α => f entry.2) charge map.entries

end OrderedMap

end TradeLedger
