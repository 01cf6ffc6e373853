import Mathlib.Data.List.Sort
import TradeLedger.Ordered

/-! Stable sorting. The sorted list ascends, what is filtered out of it is the sorted list of
what is filtered, and elements of one rank keep their order. Lists of which one precedes the other
are sorted each by itself. An ascending list is known from the elements of each rank alone, so
reordering a list across ranks does not show once it is sorted. -/
namespace TradeLedger.Ordered

/-- Elements are sorted like their images. -/
theorem sortBy_map {α β : Type} (precedes : β → β → Bool) (f : α → β) (xs : List α) :
    sortBy precedes (xs.map f) = (sortBy (fun x y => precedes (f x) (f y)) xs).map f := by
  have insert : ∀ x ys, insertBy precedes (f x) (ys.map f) =
      (insertBy (fun x y => precedes (f x) (f y)) x ys).map f := by
    intro x ys
    induction ys with
    | nil => rfl
    | cons y ys ih => by_cases before : precedes (f x) (f y) <;> simp [insertBy, before, ih]
  induction xs with
  | nil => rfl
  | cons x xs ih =>
    change insertBy precedes (f x) (sortBy precedes (xs.map f)) = _
    rw [ih, insert]
    rfl

/-- Sorting compares an element with those after it only. -/
theorem sortBy_congr {α : Type} {precedes precedes' : α → α → Bool} {xs : List α}
    (same : xs.Pairwise fun x y => precedes x y = precedes' x y) : sortBy precedes xs = sortBy precedes' xs := by
  have insert : ∀ x ys, (∀ y ∈ ys, precedes x y = precedes' x y) →
      insertBy precedes x ys = insertBy precedes' x ys := by
    intro x ys alike
    induction ys with
    | nil => rfl
    | cons y ys ih =>
      obtain ⟨first, rest⟩ := List.forall_mem_cons.mp alike
      simp only [insertBy, first, ih rest]
  induction xs with
  | nil => rfl
  | cons x xs ih =>
    obtain ⟨first, rest⟩ := List.pairwise_cons.mp same
    change insertBy precedes x (sortBy precedes xs) = insertBy precedes' x (sortBy precedes' xs)
    rw [ih rest]
    exact insert x _ fun y member => first y (mem_sortBy.mp member)

/-- Elements that may all precede one another keep their order. -/
theorem filter_sortBy_of_level {α : Type} {precedes : α → α → Bool} {keep : α → Bool}
    (level : ∀ x y, keep x = true → keep y = true → precedes x y = true) (xs : List α) :
    (sortBy precedes xs).filter keep = xs.filter keep := by
  have insert : ∀ x ys, (insertBy precedes x ys).filter keep = (x :: ys).filter keep := by
    intro x ys
    induction ys with
    | nil => rfl
    | cons y ys ih =>
      by_cases before : precedes x y = true
      · rw [insertBy, if_pos before]
      · -- Of `x` and `y` only one can be kept, so it does not show which comes first.
        rw [insertBy, if_neg before]
        cases kept : keep x with
        | false => cases own : keep y <;> simp [kept, own, ih]
        | true =>
          have dropped : keep y = false := Bool.eq_false_iff.mpr fun own => before (level x y kept own)
          simp [kept, dropped, ih]
  induction xs with
  | nil => rfl
  | cons x xs ih =>
    change (insertBy precedes x (sortBy precedes xs)).filter keep = _
    rw [insert, List.filter_cons, List.filter_cons, ih]

/-- An element that precedes all of a list is placed in front of it. -/
theorem insertBy_of_first {α : Type} {precedes : α → α → Bool} {x : α} {ys : List α}
    (first : ∀ y ∈ ys, precedes x y = true) : insertBy precedes x ys = x :: ys := by
  cases ys with
  | nil => rfl
  | cons y ys => rw [insertBy, if_pos (first y List.mem_cons_self)]

/-- One that precedes all of a second list is placed in the first. -/
theorem insertBy_append {α : Type} {precedes : α → α → Bool} {x : α} {ys : List α}
    (first : ∀ y ∈ ys, precedes x y = true) (xs : List α) :
    insertBy precedes x (xs ++ ys) = insertBy precedes x xs ++ ys := by
  induction xs with
  | nil => exact insertBy_of_first first
  | cons z xs ih => by_cases before : precedes x z <;> simp [insertBy, before, ih]

/-- If a list precedes another, both are sorted each by itself. -/
theorem sortBy_append {α : Type} {precedes : α → α → Bool} {xs ys : List α}
    (seam : ∀ x ∈ xs, ∀ y ∈ ys, precedes x y = true) :
    sortBy precedes (xs ++ ys) = sortBy precedes xs ++ sortBy precedes ys := by
  induction xs with
  | nil => rfl
  | cons x xs ih =>
    obtain ⟨first, rest⟩ := List.forall_mem_cons.mp seam
    calc sortBy precedes (x :: xs ++ ys)
        = insertBy precedes x (sortBy precedes (xs ++ ys)) := rfl
      _ = insertBy precedes x (sortBy precedes xs ++ sortBy precedes ys) := by rw [ih rest]
      _ = sortBy precedes (x :: xs) ++ sortBy precedes ys :=
          insertBy_append (fun y member => first y (mem_sortBy.mp member)) _

/-- A comparison that orders any two elements, and consistently. -/
structure Orders {α : Type} (precedes : α → α → Bool) : Prop where
  total : ∀ a b, precedes a b = true ∨ precedes b a = true
  trans : ∀ a b c, precedes a b = true → precedes b c = true → precedes a c = true

namespace Orders

variable {α : Type} {precedes : α → α → Bool}

theorem pairwise_insertBy (orders : Orders precedes) (x : α) {ys : List α}
    (ascending : ys.Pairwise fun a b => precedes a b = true) :
    (insertBy precedes x ys).Pairwise fun a b => precedes a b = true := by
  induction ys with
  | nil => exact List.pairwise_singleton ..
  | cons y ys ih =>
    obtain ⟨above, rest⟩ := List.pairwise_cons.mp ascending
    by_cases before : precedes x y = true
    · rw [insertBy, if_pos before]
      refine List.pairwise_cons.mpr ⟨List.forall_mem_cons.mpr ⟨before, fun z later => ?_⟩, ascending⟩
      exact orders.trans x y z before (above z later)
    · rw [insertBy, if_neg before]
      refine List.pairwise_cons.mpr ⟨fun z member => ?_, ih rest⟩
      rcases List.mem_cons.mp ((insertBy_perm precedes x ys).mem_iff.mp member) with rfl | later
      · exact (orders.total y z).resolve_right before
      · exact above z later

theorem pairwise_sortBy (orders : Orders precedes) (xs : List α) :
    (sortBy precedes xs).Pairwise fun a b => precedes a b = true := by
  induction xs with
  | nil => exact .nil
  | cons x xs ih => exact orders.pairwise_insertBy x ih

theorem filter_insertBy (orders : Orders precedes) (keep : α → Bool) (x : α) {ys : List α}
    (ascending : ys.Pairwise fun a b => precedes a b = true) :
    (insertBy precedes x ys).filter keep =
      if keep x then insertBy precedes x (ys.filter keep) else ys.filter keep := by
  induction ys with
  | nil => cases kept : keep x <;> simp [insertBy, kept]
  | cons y ys ih =>
    obtain ⟨above, rest⟩ := List.pairwise_cons.mp ascending
    by_cases before : precedes x y = true
    · -- `x` comes first, and first it stays among the elements that are kept.
      have first : ∀ z ∈ (y :: ys).filter keep, precedes x z = true := by
        intro z member
        rcases List.mem_cons.mp (List.mem_of_mem_filter member) with rfl | later
        · exact before
        · exact orders.trans x y z before (above z later)
      rw [insertBy_of_first first]
      cases kept : keep x <;> simp [insertBy, before, kept]
    · cases kept : keep y <;> cases own : keep x <;> simp [insertBy, before, kept, own, ih rest]

/-- Filtering commutes with sorting. -/
theorem filter_sortBy (orders : Orders precedes) (keep : α → Bool) (xs : List α) :
    (sortBy precedes xs).filter keep = sortBy precedes (xs.filter keep) := by
  induction xs with
  | nil => rfl
  | cons x xs ih =>
    have step := orders.filter_insertBy keep x (orders.pairwise_sortBy xs)
    rw [ih] at step
    cases kept : keep x with
    | true =>
      rw [kept, if_pos rfl] at step
      rw [List.filter_cons_of_pos kept]
      exact step
    | false =>
      rw [kept, if_neg Bool.false_ne_true] at step
      rw [List.filter_cons_of_neg (by simp [kept])]
      exact step

theorem insertBy_append_cons (orders : Orders precedes) (y : α) {x : α} {before behind : List α}
    (ascending : (before ++ x :: behind).Pairwise fun a b => precedes a b = true) :
    ∃ before' behind', insertBy precedes y (before ++ behind) = before' ++ behind' ∧
      insertBy precedes y (before ++ x :: behind) = before' ++ x :: behind' := by
  induction before with
  | nil =>
    obtain ⟨above, _⟩ := List.pairwise_cons.mp ascending
    by_cases first : precedes y x = true
    · have lowest : ∀ z ∈ behind, precedes y z = true := fun z later => orders.trans y x z first (above z later)
      exact ⟨[y], behind, insertBy_of_first lowest, if_pos first⟩
    · exact ⟨[], insertBy precedes y behind, rfl, if_neg first⟩
  | cons b before ih =>
    by_cases first : precedes y b = true
    · exact ⟨y :: b :: before, behind, if_pos first, if_pos first⟩
    · obtain ⟨before', behind', short, long⟩ := ih (List.pairwise_cons.mp ascending).2
      refine ⟨b :: before', behind', ?_, ?_⟩
      · rw [List.cons_append, insertBy, if_neg first, short, List.cons_append]
      · rw [List.cons_append, insertBy, if_neg first, long, List.cons_append]

/-- One more element takes a place among the others and leaves their order as it is. -/
theorem sortBy_concat (orders : Orders precedes) (xs : List α) (x : α) :
    ∃ before behind, sortBy precedes xs = before ++ behind ∧ sortBy precedes (xs ++ [x]) = before ++ x :: behind := by
  induction xs with
  | nil => exact ⟨[], [], rfl, rfl⟩
  | cons y xs ih =>
    obtain ⟨before, behind, short, long⟩ := ih
    have ascending := orders.pairwise_sortBy (xs ++ [x])
    rw [long] at ascending
    obtain ⟨before', behind', short', long'⟩ := orders.insertBy_append_cons y ascending
    refine ⟨before', behind', ?_, ?_⟩
    · rw [← short', ← short]
      rfl
    · rw [← long', ← long]
      rfl

theorem of_compare (order : α → α → Ordering) [Std.TransCmp order] : Orders fun a b => (order a b).isLE where
  total a b := by
    cases compared : order a b with
    | lt => exact .inl rfl
    | eq => exact .inl rfl
    | gt => exact .inr (by rw [Std.OrientedCmp.lt_of_gt compared]; rfl)
  trans a b c := Std.TransCmp.isLE_trans

end Orders

variable {α ι : Type} [LinearOrder ι] (rank : α → ι)

/-- Elements precede those of the same or a higher rank. -/
def byRank (a b : α) : Bool := rank a ≤ rank b

theorem orders_byRank : Orders (byRank rank) where
  total a b := by
    simp only [byRank, decide_eq_true_eq]
    exact le_total ..
  trans a b c := by
    simp only [byRank, decide_eq_true_eq]
    exact le_trans

theorem sortBy_eq_insertionSort (xs : List α) :
    sortBy (byRank rank) xs = xs.insertionSort fun a b => rank a ≤ rank b := by
  have same : ∀ x ys, insertBy (byRank rank) x ys = ys.orderedInsert (fun a b => rank a ≤ rank b) x := by
    intro x ys
    induction ys with
    | nil => rfl
    | cons y ys ih => simp [insertBy, byRank, List.orderedInsert_cons, ih]
  induction xs with
  | nil => rfl
  | cons x xs ih =>
    rw [List.insertionSort_cons, ← ih, ← same]
    rfl

theorem pairwise_sortBy (xs : List α) : (sortBy (byRank rank) xs).Pairwise fun a b => rank a ≤ rank b :=
  ((orders_byRank rank).pairwise_sortBy xs).imp of_decide_eq_true

/-- Sorting by a rank keeps any order that a list has for the elements of one rank. -/
theorem pairwise_sortBy_of_pairwise {before : α → α → Prop} {xs : List α} (ordered : xs.Pairwise before) :
    (sortBy (byRank rank) xs).Pairwise fun a b => rank a < rank b ∨ rank a = rank b ∧ before a b := by
  induction xs with
  | nil => exact .nil
  | cons x xs ih =>
    obtain ⟨first, rest⟩ := List.pairwise_cons.mp ordered
    have insert : ∀ ys : List α, (∀ y ∈ ys, before x y) →
        ys.Pairwise (fun a b => rank a < rank b ∨ rank a = rank b ∧ before a b) →
        (insertBy (byRank rank) x ys).Pairwise fun a b => rank a < rank b ∨ rank a = rank b ∧ before a b := by
      intro ys after sorted
      induction ys with
      | nil => exact List.pairwise_singleton _ x
      | cons y ys ih =>
        obtain ⟨above, sorted'⟩ := List.pairwise_cons.mp sorted
        by_cases here : rank x ≤ rank y
        · rw [insertBy, byRank, if_pos (decide_eq_true here)]
          refine List.pairwise_cons.mpr ⟨fun z member => ?_, sorted⟩
          have ahead : rank x ≤ rank z := by
            rcases List.mem_cons.mp member with rfl | later
            · exact here
            · exact here.trans ((above z later).elim le_of_lt fun both => both.1.le)
          exact ahead.lt_or_eq.imp_right fun level => ⟨level, after z member⟩
        · rw [insertBy, byRank, if_neg (by simpa using here)]
          have rest := ih (fun z later => after z (List.mem_cons_of_mem y later)) sorted'
          refine List.pairwise_cons.mpr ⟨fun z member => ?_, rest⟩
          rcases List.mem_cons.mp ((insertBy_perm _ x ys).mem_iff.mp member) with rfl | later
          · exact .inl (not_le.mp here)
          · exact above z later
    exact insert _ (fun y member => first y (mem_sortBy.mp member)) (ih rest)

/-- Sorting is stable: elements of one rank keep the order that they are given in. -/
theorem filter_rank_sortBy (i : ι) (xs : List α) :
    (sortBy (byRank rank) xs).filter (fun x => rank x = i) = xs.filter fun x => rank x = i := by
  apply filter_sortBy_of_level
  intro x y own other
  rw [decide_eq_true_eq] at own other
  rw [byRank, own, other, decide_eq_true_eq]

variable {xs ys : List α}

theorem mem_iff_of_filter_rank
    (same : ∀ x, xs.filter (fun y => rank y = rank x) = ys.filter fun y => rank y = rank x) (x : α) :
    x ∈ xs ↔ x ∈ ys := by
  have both : x ∈ xs.filter (fun y => rank y = rank x) ↔ x ∈ ys.filter fun y => rank y = rank x := by rw [same]
  simpa using both

/-- Two ascending lists that agree on the elements of each rank are the same. -/
theorem eq_of_filter_rank (left : xs.Pairwise fun a b => rank a ≤ rank b)
    (right : ys.Pairwise fun a b => rank a ≤ rank b)
    (same : ∀ x, xs.filter (fun y => rank y = rank x) = ys.filter fun y => rank y = rank x) : xs = ys := by
  have mem_iff := mem_iff_of_filter_rank rank same
  induction xs generalizing ys with
  | nil =>
    cases ys with
    | nil => rfl
    | cons y ys => exact absurd ((mem_iff y).mpr List.mem_cons_self) List.not_mem_nil
  | cons x xs ih =>
    cases ys with
    | nil => exact absurd ((mem_iff x).mp List.mem_cons_self) List.not_mem_nil
    | cons y ys =>
      obtain ⟨leftBelow, leftRest⟩ := List.pairwise_cons.mp left
      obtain ⟨rightBelow, rightRest⟩ := List.pairwise_cons.mp right
      -- Each first element is among those of the other list, so both have the lowest rank.
      have le : rank x ≤ rank y := by
        rcases List.mem_cons.mp ((mem_iff y).mpr List.mem_cons_self) with own | later
        · exact own ▸ le_rfl
        · exact leftBelow y later
      have ge : rank y ≤ rank x := by
        rcases List.mem_cons.mp ((mem_iff x).mp List.mem_cons_self) with own | later
        · exact own ▸ le_rfl
        · exact rightBelow x later
      have level : rank y = rank x := le_antisymm ge le
      obtain rfl : x = y := by
        have heads := same x
        rw [List.filter_cons_of_pos (by simp), List.filter_cons_of_pos (by simpa using level)] at heads
        exact (List.cons.inj heads).1
      have tails : ∀ z, xs.filter (fun y => rank y = rank z) = ys.filter fun y => rank y = rank z := by
        intro z
        have whole := same z
        by_cases own : rank x = rank z
        · rw [List.filter_cons_of_pos (by simpa using own), List.filter_cons_of_pos (by simpa using own)] at whole
          exact (List.cons.inj whole).2
        · rwa [List.filter_cons_of_neg (by simpa using own), List.filter_cons_of_neg (by simpa using own)] at whole
      rw [ih leftRest rightRest tails (mem_iff_of_filter_rank rank tails)]

/-- An ascending list begins with its elements up to some rank, and those above it follow. -/
theorem filter_le_append_filter_lt (ascending : xs.Pairwise fun a b => rank a ≤ rank b) (i : ι) :
    xs.filter (fun x => rank x ≤ i) ++ xs.filter (fun x => i < rank x) = xs := by
  induction xs with
  | nil => rfl
  | cons x xs ih =>
    obtain ⟨above, rest⟩ := List.pairwise_cons.mp ascending
    by_cases low : rank x ≤ i
    · rw [List.filter_cons_of_pos (by simpa using low), List.filter_cons_of_neg (by simpa using low),
        List.cons_append, ih rest]
    · have high : ∀ y ∈ x :: xs, i < rank y := by
        intro y member
        rcases List.mem_cons.mp member with rfl | later
        · exact not_le.mp low
        · exact (not_le.mp low).trans_le (above y later)
      rw [List.filter_eq_nil_iff.mpr fun y member => by simpa using high y member, List.nil_append,
        List.filter_eq_self.mpr fun y member => by simpa using high y member]

end TradeLedger.Ordered
