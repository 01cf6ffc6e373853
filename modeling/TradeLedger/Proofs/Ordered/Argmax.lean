import Mathlib.Data.List.MinMax
import Mathlib.Data.Prod.Lex
import TradeLedger.Proofs.Ordered.Sort

/-! The first elements of the highest rank. A fold that replaces what it holds only by elements of a higher rank
finds the first of the highest. Out of a sorted list it finds the one that comes first in the order of the list,
so the order decides between elements of one rank and their places in the unsorted list only between those that
are alike in both. -/
namespace TradeLedger.Ordered

variable {α ι κ : Type} [LinearOrder ι] [LinearOrder κ] {rank : α → ι} {xs ys : List α}

/-- A fold whose steps prefer a higher rank, and otherwise what they hold. -/
theorem foldl_eq_argmax {prefer : Option α → α → Option α} (first : ∀ x, prefer none x = some x)
    (next : ∀ held x, prefer (some held) x = if rank held < rank x then some x else some held) :
    xs.foldl prefer none = xs.argmax rank := by
  have same : prefer = List.argAux fun x held => rank held < rank x := by
    funext held x
    cases held with
    | none => exact first x
    | some held => exact next held x
  rw [same]
  rfl

/-- An element before others comes first unless one of them has a higher rank. -/
theorem argmax_cons (x : α) (xs : List α) :
    (x :: xs).argmax rank = some ((xs.argmax rank).elim x fun y => if rank x < rank y then y else x) := by
  rw [List.argmax_cons]
  cases xs.argmax rank with
  | none => rfl
  | some y => exact (apply_ite some _ _ _).symm

/-- Of the elements of the highest rank the first is found. -/
theorem eq_or_precedes_of_argmax {precedes : α → α → Prop} (ordered : xs.Pairwise precedes) {x y : α}
    (found : x ∈ xs.argmax rank) (member : y ∈ xs) (same : rank y = rank x) : y = x ∨ precedes x y := by
  induction xs with
  | nil => cases member
  | cons z xs ih =>
    obtain ⟨after, rest⟩ := List.pairwise_cons.mp ordered
    rw [argmax_cons, Option.mem_some_iff] at found
    cases best : xs.argmax rank with
    | none =>
      obtain rfl := List.argmax_eq_none.mp best
      rw [best, Option.elim_none] at found
      exact .inl (found ▸ List.mem_singleton.mp member)
    | some w =>
      rw [best, Option.elim_some] at found
      split at found
      case isTrue higher =>
        subst found
        rcases List.mem_cons.mp member with rfl | later
        · exact absurd same higher.ne
        · exact ih rest best later
      case isFalse =>
        subst found
        rcases List.mem_cons.mp member with rfl | later
        · exact .inl rfl
        · exact .inr (after y later)

/-- If with an element all of higher ranks are kept, the first of the highest rank is kept or nothing is. -/
theorem argmax_filter {keep : α → Bool} (above : ∀ x y, keep x = true → rank x ≤ rank y → keep y = true)
    (xs : List α) : (xs.filter keep).argmax rank = (xs.argmax rank).filter keep := by
  induction xs with
  | nil => rfl
  | cons x xs ih =>
    rw [argmax_cons]
    cases kept : keep x with
    | true =>
      rw [List.filter_cons_of_pos kept, argmax_cons, ih]
      cases xs.argmax rank with
      | none => simp [Option.filter, kept]
      | some y =>
        by_cases higher : rank x < rank y
        · simp [Option.filter, higher, above x y kept higher.le]
        · cases own : keep y <;> simp [Option.filter, higher, kept, own]
    | false =>
      rw [List.filter_cons_of_neg (by simp [kept]), ih]
      cases xs.argmax rank with
      | none => simp [Option.filter, kept]
      | some y =>
        by_cases higher : rank x < rank y
        · simp [higher]
        · have dropped : keep y = false := Bool.eq_false_iff.mpr fun own => by
            rw [above y x own (not_lt.mp higher)] at kept
            cases kept
          simp [Option.filter, higher, kept, dropped]

variable (late : α → κ)

/-- Elements precede those that are as late or earlier. -/
def latestFirst (x y : α) : Bool := late y ≤ late x

/-- An element placed into a list with the latest first comes first unless another has a higher rank or is the
later one of the same rank. -/
theorem argmax_insertBy (x : α) (sorted : ys.Pairwise fun y z => late z ≤ late y) :
    (insertBy (latestFirst late) x ys).argmax rank = some ((ys.argmax rank).elim x fun y =>
      if toLex (rank x, late x) < toLex (rank y, late y) then y else x) := by
  induction ys with
  | nil => rfl
  | cons y ys ih =>
    obtain ⟨earlier, rest⟩ := List.pairwise_cons.mp sorted
    by_cases here : late y ≤ late x
    · -- All that follow are not later, so only a higher rank counts.
      rw [insertBy, latestFirst, if_pos (decide_eq_true here), argmax_cons]
      cases found : (y :: ys).argmax rank with
      | none => rfl
      | some z =>
        have notLater : late z ≤ late x := by
          rcases List.mem_cons.mp (List.argmax_mem found) with rfl | member
          · exact here
          · exact (earlier z member).trans here
        simp [Prod.Lex.toLex_lt_toLex, notLater.not_gt]
    · -- `y` stays in front, and it is the later one.
      rw [insertBy, latestFirst, if_neg (by simpa using here), argmax_cons, argmax_cons, ih rest]
      have later : late x < late y := not_le.mp here
      cases found : ys.argmax rank with
      | none =>
        simp only [Option.elim_some, Option.elim_none, Prod.Lex.toLex_lt_toLex]
        grind
      | some z =>
        have notLater : late z ≤ late y := earlier z (List.argmax_mem found)
        simp only [Option.elim_some, Prod.Lex.toLex_lt_toLex]
        grind

/-- Of the elements of the highest rank that which comes first out of a list sorted by lateness is the latest,
and of several that are equally late the one that is listed first. -/
theorem argmax_sortBy (xs : List α) :
    (sortBy (latestFirst late) xs).argmax rank = xs.argmax fun x => toLex (rank x, late x) := by
  induction xs with
  | nil => rfl
  | cons x xs ih =>
    have sorted : (sortBy (latestFirst late) xs).Pairwise fun y z => late z ≤ late y :=
      pairwise_sortBy (OrderDual.toDual ∘ late) xs
    change (insertBy (latestFirst late) x (sortBy (latestFirst late) xs)).argmax rank = _
    rw [argmax_insertBy late x sorted, ih, argmax_cons]

/-- The highest rank is the same in any order. -/
theorem map_argmax_perm (same : xs.Perm ys) : (xs.argmax rank).map rank = (ys.argmax rank).map rank := by
  have top : ∀ {xs ys : List α}, xs.Perm ys → ∀ x ∈ xs.argmax rank, ∀ y ∈ ys.argmax rank, rank x ≤ rank y :=
    fun same x first y other => List.le_of_mem_argmax (same.mem_iff.mp (List.argmax_mem first)) other
  cases found : xs.argmax rank with
  | none =>
    obtain rfl := List.argmax_eq_none.mp found
    rw [← same.nil_eq]
    rfl
  | some x =>
    cases other : ys.argmax rank with
    | none =>
      obtain rfl := List.argmax_eq_none.mp other
      rw [same.eq_nil] at found
      cases found
    | some y => exact congrArg some (le_antisymm (top same x found y other) (top same.symm y other x found))

end TradeLedger.Ordered
