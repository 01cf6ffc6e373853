import Mathlib.Algebra.BigOperators.Group.Finset.Piecewise
import Mathlib.Algebra.GroupWithZero.Nat

/-! Lists divided by a key. Each element is in the part of its key and in no other, so a sum over a list
is the sum over its parts. -/
namespace TradeLedger

variable {α κ M : Type} [DecidableEq κ] [AddCommMonoid M]

theorem sum_parts (key : α → κ) (f : α → M) {xs : List α} {keys : Finset κ} (covers : ∀ x ∈ xs, key x ∈ keys) :
    ∑ k ∈ keys, ((xs.filter fun x => key x = k).map f).sum = (xs.map f).sum := by
  induction xs with
  | nil => exact Finset.sum_const_zero
  | cons x xs ih =>
    have split : ∀ k, (((x :: xs).filter fun x => key x = k).map f).sum =
        (if key x = k then f x else 0) + ((xs.filter fun x => key x = k).map f).sum := by
      intro k
      by_cases own : key x = k <;> simp [own]
    simp only [split]
    rw [Finset.sum_add_distrib, Finset.sum_ite_eq, if_pos (covers x List.mem_cons_self),
      ih fun other member => covers other (List.mem_cons_of_mem x member), List.map_cons, List.sum_cons]

/-- The keys may also be listed, as long as none is listed twice. -/
theorem sum_parts_of_nodup (key : α → κ) (f : α → M) {xs : List α} {keys : List κ} (once : keys.Nodup)
    (covers : ∀ x ∈ xs, key x ∈ keys) :
    (keys.map fun k => ((xs.filter fun x => key x = k).map f).sum).sum = (xs.map f).sum := by
  rw [← List.sum_toFinset _ once]
  exact sum_parts key f fun x member => List.mem_toFinset.mpr (covers x member)

/-- A count is a sum of ones. -/
theorem countP_eq_sum (p : α → Bool) (xs : List α) : xs.countP p = (xs.map fun x => if p x then 1 else 0).sum := by
  induction xs with
  | nil => rfl
  | cons x xs ih => rw [List.countP_cons, List.map_cons, List.sum_cons, ih, add_comm]

omit [DecidableEq κ] in
/-- What is summed over some elements is summed over those of them that are kept and those that are not. -/
theorem sum_filter_split (chosen keep : α → Bool) (f : α → M) (xs : List α) :
    ((xs.filter chosen).map f).sum =
      ((xs.filter fun x => chosen x && keep x).map f).sum + ((xs.filter fun x => chosen x && !keep x).map f).sum := by
  induction xs with
  | nil => simp
  | cons x xs ih =>
    cases own : chosen x <;> cases kept : keep x <;> simp [own, kept, ih, add_assoc, add_left_comm]

omit [DecidableEq κ] in
/-- Elements listed with the keys that they have are those with such a key. -/
theorem map_snd_keyed (keyOf : α → Option κ) (keep : κ → Bool) (xs : List α) :
    (xs.filterMap fun x => ((keyOf x).filter keep).map fun key => (key, x)).map Prod.snd =
      xs.filter fun x => (keyOf x).any keep := by
  rw [List.map_filterMap, ← List.filterMap_eq_filter]
  apply List.filterMap_congr
  intro x _
  cases known : keyOf x with
  | none => simp [known, Option.guard]
  | some key => cases own : keep key <;> simp [known, own, Option.filter, Option.guard]

/-- Of elements listed with their keys those of one key are listed. -/
theorem filter_keyed (keyOf : α → Option κ) (k : κ) (xs : List α) :
    (xs.filterMap fun x => (keyOf x).map fun key => (key, x)).filter (fun pair => pair.1 = k) =
      (xs.filter fun x => keyOf x = some k).map fun x => (k, x) := by
  induction xs with
  | nil => rfl
  | cons x xs ih =>
    cases known : keyOf x with
    | none => rw [List.filterMap_cons_none (by simp [known]), List.filter_cons_of_neg (by simp [known]), ih]
    | some key =>
      rw [List.filterMap_cons_some (by simp [known]; rfl)]
      by_cases own : key = k
      · rw [List.filter_cons_of_pos (by simpa using own), List.filter_cons_of_pos (by simp [known, own]), ih,
          List.map_cons, own]
      · rw [List.filter_cons_of_neg (by simpa using own), List.filter_cons_of_neg (by simp [known, own]), ih]

/-- An element occurs in a part of the list as often as in the list, or not at all. -/
theorem count_filter_of [DecidableEq α] {keep : α → Bool} (x : α) (xs : List α) :
    (xs.filter keep).count x = if keep x then xs.count x else 0 := by
  cases kept : keep x with
  | true => rw [List.count_filter kept, if_pos rfl]
  | false =>
    rw [if_neg Bool.false_ne_true, List.count_eq_zero]
    intro member
    rw [(List.mem_filter.mp member).2] at kept
    cases kept

end TradeLedger
