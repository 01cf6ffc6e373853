/-! Lists in order: stable sorting, and maps kept as lists of entries in ascending order of
their keys. -/
namespace TradeLedger.Ordered

/-! ## Sorting

`sortBy` puts every element before the first one that it may precede, so elements that may
precede each other keep their order. -/

variable {α : Type}

/-- The list with `x` placed before the first element that it may precede. -/
def insertBy (precedes : α → α → Bool) (x : α) : List α → List α
  | [] => [x]
  | y :: ys => if precedes x y then x :: y :: ys else y :: insertBy precedes x ys

/-- The list sorted by `precedes`, ties in their given order. -/
def sortBy (precedes : α → α → Bool) (xs : List α) : List α :=
  xs.foldr (insertBy precedes) []

theorem insertBy_perm (precedes : α → α → Bool) (x : α) (xs : List α) :
    (insertBy precedes x xs).Perm (x :: xs) := by
  induction xs with
  | nil => exact .refl _
  | cons y ys ih =>
    simp only [insertBy]
    split
    · exact .refl _
    · exact (ih.cons y).trans (.swap x y ys)

/-- Sorting keeps every element as often as it occurs. -/
theorem sortBy_perm (precedes : α → α → Bool) (xs : List α) :
    (sortBy precedes xs).Perm xs := by
  induction xs with
  | nil => exact .refl _
  | cons x xs ih => exact (insertBy_perm precedes x _).trans (ih.cons x)

theorem mem_sortBy {precedes : α → α → Bool} {x : α} {xs : List α} :
    x ∈ sortBy precedes xs ↔ x ∈ xs :=
  (sortBy_perm precedes xs).mem_iff

end TradeLedger.Ordered

namespace TradeLedger

/-! ## Maps

Two maps with the same look-ups are the same list, so the order in which entries were made never
shows. -/

/-- A finite map with ascending keys. -/
structure OrderedMap (κ : Type) (α : Type) [Ord κ] where
  entries : List (κ × α)
  ascending : entries.Pairwise fun a b => compare a.1 b.1 = .lt

namespace OrderedMap

variable {κ α β : Type} [Ord κ]

/-- The map without entries. -/
def empty : OrderedMap κ α := ⟨[], .nil⟩

instance : EmptyCollection (OrderedMap κ α) := ⟨empty⟩

/-- The value under a key. -/
def get? (map : OrderedMap κ α) (key : κ) : Option α :=
  (map.entries.find? fun entry => compare key entry.1 == .eq).map (·.2)

/-- The value under a key, or `fallback` if there is none. -/
def getD (map : OrderedMap κ α) (key : κ) (fallback : α) : α :=
  (map.get? key).getD fallback

/-- The keys, ascending. -/
def keys (map : OrderedMap κ α) : List κ := map.entries.map (·.1)

/-- The values in the order of their keys. -/
def values (map : OrderedMap κ α) : List α := map.entries.map (·.2)

/-- The entries with the value under `key` set. -/
def insertEntry (key : κ) (value : α) : List (κ × α) → List (κ × α)
  | [] => [(key, value)]
  | entry :: entries =>
    match compare key entry.1 with
    | .lt => (key, value) :: entry :: entries
    | .eq => (key, value) :: entries
    | .gt => entry :: insertEntry key value entries

theorem mem_insertEntry {key : κ} {value : α} {entry : κ × α} {entries : List (κ × α)}
    (member : entry ∈ insertEntry key value entries) :
    entry = (key, value) ∨ entry ∈ entries := by
  induction entries with
  | nil => simp_all [insertEntry]
  | cons first entries ih =>
    simp only [insertEntry] at member
    split at member <;> simp_all <;> grind

theorem ascending_insertEntry [Std.TransOrd κ] (key : κ) (value : α)
    {entries : List (κ × α)}
    (ascending : entries.Pairwise fun a b => compare a.1 b.1 = .lt) :
    (insertEntry key value entries).Pairwise fun a b => compare a.1 b.1 = .lt := by
  induction entries with
  | nil => simp [insertEntry]
  | cons first entries ih =>
    have ⟨below, rest⟩ := List.pairwise_cons.mp ascending
    simp only [insertEntry]
    split
    case h_1 less =>
      refine List.pairwise_cons.mpr ⟨fun entry member => ?_, ascending⟩
      rcases List.mem_cons.mp member with rfl | later
      · exact less
      · exact Std.TransCmp.lt_trans less (below entry later)
    case h_2 same =>
      refine List.pairwise_cons.mpr ⟨fun entry member => ?_, rest⟩
      exact Std.TransCmp.lt_of_eq_of_lt same (below entry member)
    case h_3 greater =>
      refine List.pairwise_cons.mpr ⟨fun entry member => ?_, ih rest⟩
      rcases mem_insertEntry member with rfl | old
      · exact Std.OrientedCmp.lt_of_gt greater
      · exact below entry old

/-- The map with the value under `key` set. -/
def insert [Std.TransOrd κ] (map : OrderedMap κ α) (key : κ) (value : α) :
    OrderedMap κ α :=
  ⟨insertEntry key value map.entries, ascending_insertEntry key value map.ascending⟩

/-- The map whose value under each key is the last one listed for it. -/
def ofList [Std.TransOrd κ] (entries : List (κ × α)) : OrderedMap κ α :=
  entries.foldl (fun map entry => map.insert entry.1 entry.2) empty

end OrderedMap

/-- The distinct elements of a list, ascending. -/
def ascendingDistinct {κ : Type} [Ord κ] [Std.TransOrd κ] (xs : List κ) : List κ :=
  (OrderedMap.ofList (xs.map fun x => (x, ()))).keys

end TradeLedger
