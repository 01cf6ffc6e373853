import Mathlib.Algebra.Order.BigOperators.Group.List
import Mathlib.Algebra.Order.Field.Rat
import Mathlib.Data.List.Sort
import Mathlib.Tactic.Ring
import TradeLedger.Ordered

/-! Look-ups, keys and sums of ordered maps after an entry is set. Setting a key replaces what
it held, so a sum over the map changes by the difference of the two values. A map is known from its
look-ups. -/
namespace TradeLedger.OrderedMap

variable {κ α : Type} [Ord κ] [Std.TransOrd κ] [Std.LawfulEqOrd κ]

omit [Std.TransOrd κ] in
private theorem find?_insertEntry [DecidableEq κ] (key probe : κ) (value : α) (entries : List (κ × α)) :
    (insertEntry key value entries).find? (fun entry => compare probe entry.1 == .eq) =
      if probe = key then some (key, value) else
        entries.find? fun entry => compare probe entry.1 == .eq := by
  have own : (compare probe key == .eq) = decide (probe = key) := by
    rw [Bool.eq_iff_iff, decide_eq_true_eq, beq_iff_eq, Std.LawfulEqOrd.compare_eq_iff_eq]
  induction entries with
  | nil => by_cases same : probe = key <;> simp [insertEntry, own, same]
  | cons entry entries ih =>
    rw [insertEntry]
    split
    case h_1 =>
      rw [List.find?_cons, own]
      by_cases same : probe = key <;> simp [same]
    case h_2 replaced =>
      rw [Std.LawfulEqOrd.compare_eq_iff_eq] at replaced
      by_cases same : probe = key
      · simp [same]
      · have other : (compare probe entry.1 == .eq) = false := by rw [← replaced, own, decide_eq_false same]
        simp [own, same, other]
    case h_3 later =>
      rw [List.find?_cons, List.find?_cons, ih]
      by_cases same : probe = key
      · have skipped : (compare probe entry.1 == .eq) = false := by rw [same, later]; rfl
        simp only [skipped, if_pos same]
      · rw [if_neg same, if_neg same]

theorem get?_insert [DecidableEq κ] (map : OrderedMap κ α) (key probe : κ) (value : α) :
    (map.insert key value).get? probe = if probe = key then some value else map.get? probe := by
  simp only [get?, insert, find?_insertEntry]
  split <;> rfl

theorem getD_insert [DecidableEq κ] (map : OrderedMap κ α) (key probe : κ) (value fallback : α) :
    (map.insert key value).getD probe fallback = if probe = key then value else map.getD probe fallback := by
  rw [getD, get?_insert]
  split <;> rfl

omit [Std.TransOrd κ] in
theorem mem_entries_of_get? {map : OrderedMap κ α} {key : κ} {value : α} (found : map.get? key = some value) :
    (key, value) ∈ map.entries := by
  rw [get?, Option.map_eq_some_iff] at found
  obtain ⟨entry, located, rfl⟩ := found
  have same : key = entry.1 :=
    Std.LawfulEqOrd.compare_eq_iff_eq.mp (by simpa using List.find?_some located)
  rw [same]
  exact List.mem_of_find?_eq_some located

/-- The first entry under a key is the only one. -/
theorem get?_of_mem_entries {map : OrderedMap κ α} {entry : κ × α} (member : entry ∈ map.entries) :
    map.get? entry.1 = some entry.2 := by
  obtain ⟨entries, ascending⟩ := map
  rw [get?]
  induction entries with
  | nil => cases member
  | cons first entries ih =>
    obtain ⟨below, rest⟩ := List.pairwise_cons.mp ascending
    rcases List.mem_cons.mp member with rfl | later
    · simp
    · have skipped : (compare entry.1 first.1 == .eq) = false := by
        rw [Std.OrientedCmp.gt_of_lt (below entry later)]
        rfl
      rw [List.find?_cons, skipped]
      exact ih rest later

/-- The entries of a map are its look-ups. -/
theorem mem_entries_iff {map : OrderedMap κ α} {entry : κ × α} :
    entry ∈ map.entries ↔ map.get? entry.1 = some entry.2 :=
  ⟨get?_of_mem_entries, mem_entries_of_get?⟩

omit [Std.LawfulEqOrd κ] in
/-- Lists that ascend by a key are known from their members. -/
theorem eq_of_ascending {β : Type} (key : β → κ) {xs ys : List β}
    (left : xs.Pairwise fun x y => compare (key x) (key y) = .lt)
    (right : ys.Pairwise fun x y => compare (key x) (key y) = .lt) (same : ∀ x, x ∈ xs ↔ x ∈ ys) : xs = ys := by
  let below (x y : β) : Prop := compare (key x) (key y) = .lt
  have : Std.Irrefl below := ⟨fun x less => by
    have self : compare (key x) (key x) = .eq := Std.ReflCmp.compare_self
    rw [show compare (key x) (key x) = .lt from less] at self
    cases self⟩
  have : Std.Antisymm below := ⟨fun x y less more => by
    have back := Std.OrientedCmp.gt_of_lt more
    rw [show compare (key x) (key y) = .lt from less] at back
    cases back⟩
  exact List.Pairwise.eq_of_mem_iff (r := below) left right fun {x} => same x

/-- Maps with the same look-ups are the same. -/
theorem ext_get? {a b : OrderedMap κ α} (same : ∀ key, a.get? key = b.get? key) : a = b := by
  have entries : a.entries = b.entries :=
    eq_of_ascending Prod.fst a.ascending b.ascending fun entry => by rw [mem_entries_iff, mem_entries_iff, same]
  cases a
  cases b
  cases entries
  rfl

/-- Of two values set under a key the second counts. -/
@[simp] theorem insert_insert_self [DecidableEq κ] (map : OrderedMap κ α) (key : κ) (a b : α) :
    (map.insert key a).insert key b = map.insert key b := by
  apply ext_get?
  intro probe
  by_cases own : probe = key <;> simp [get?_insert, own]

omit [Std.LawfulEqOrd κ] in
/-- Maps with the same keys list them alike. -/
theorem keys_congr {β : Type} {a : OrderedMap κ α} {b : OrderedMap κ β}
    (same : ∀ key, key ∈ a.keys ↔ key ∈ b.keys) : a.keys = b.keys :=
  eq_of_ascending id (List.pairwise_map.mpr a.ascending) (List.pairwise_map.mpr b.ascending) same

theorem mem_keys_iff {map : OrderedMap κ α} {key : κ} : key ∈ map.keys ↔ (map.get? key).isSome := by
  rw [keys, List.mem_map, Option.isSome_iff_exists]
  constructor
  · rintro ⟨entry, member, rfl⟩
    exact ⟨entry.2, get?_of_mem_entries member⟩
  · rintro ⟨value, found⟩
    exact ⟨_, mem_entries_of_get? found, rfl⟩

/-- The entries of a map whose keys are kept. -/
def restrict (keep : κ → Bool) (map : OrderedMap κ α) : OrderedMap κ α :=
  ⟨map.entries.filter fun entry => keep entry.1, map.ascending.filter _⟩

theorem get?_restrict (keep : κ → Bool) (map : OrderedMap κ α) (key : κ) :
    (map.restrict keep).get? key = if keep key then map.get? key else none := by
  apply Option.ext
  intro value
  have entry : (map.restrict keep).get? key = some value ↔ keep key = true ∧ map.get? key = some value := by
    have member : (key, value) ∈ (map.restrict keep).entries ↔ (key, value) ∈ map.entries ∧ keep key = true :=
      List.mem_filter
    rwa [mem_entries_iff, mem_entries_iff, and_comm] at member
  cases kept : keep key <;> simp [entry, kept]

/-- A key that is kept is set in what is kept, and setting any other leaves that as it is. -/
theorem restrict_insert [DecidableEq κ] (keep : κ → Bool) (map : OrderedMap κ α) (key : κ) (value : α) :
    (map.insert key value).restrict keep =
      if keep key then (map.restrict keep).insert key value else map.restrict keep := by
  apply ext_get?
  intro probe
  rw [get?_restrict, get?_insert]
  by_cases own : probe = key
  · subst own
    cases kept : keep probe <;> simp [get?_insert, get?_restrict, kept]
  · cases kept : keep key <;> simp [get?_insert, get?_restrict, own]

theorem mem_keys_insert [DecidableEq κ] {map : OrderedMap κ α} {key probe : κ} {value : α} :
    probe ∈ (map.insert key value).keys ↔ probe = key ∨ probe ∈ map.keys := by
  rw [mem_keys_iff, mem_keys_iff, get?_insert]
  by_cases same : probe = key <;> simp [same]

omit [Std.LawfulEqOrd κ] in
theorem nodup_keys (map : OrderedMap κ α) : map.keys.Nodup := by
  refine List.pairwise_map.mpr (map.ascending.imp fun {a b} less same => ?_)
  have self : compare b.1 b.1 = .eq := Std.ReflCmp.compare_self
  rw [same, self] at less
  cases less

/-- The value under a key is the last one listed for it. -/
theorem get?_ofList [DecidableEq κ] (entries : List (κ × α)) (key : κ) :
    (ofList entries).get? key = ((entries.filter fun entry => entry.1 = key).getLast?).map (·.2) := by
  have folded : ∀ (map : OrderedMap κ α),
      (entries.foldl (fun map entry => map.insert entry.1 entry.2) map).get? key =
        (((entries.filter fun entry => entry.1 = key).getLast?).map (·.2)).or (map.get? key) := by
    induction entries with
    | nil => exact fun map => rfl
    | cons entry entries ih =>
      intro map
      rw [List.foldl_cons, ih, get?_insert]
      by_cases own : entry.1 = key
      · rw [List.filter_cons_of_pos (by simpa using own), if_pos own.symm, List.getLast?_cons]
        cases (entries.filter fun entry => entry.1 = key).getLast? <;> rfl
      · rw [List.filter_cons_of_neg (by simpa using own), if_neg (Ne.symm own)]
  rw [ofList, folded]
  exact Option.or_none

theorem mem_keys_ofList [DecidableEq κ] {entries : List (κ × α)} {key : κ} :
    key ∈ (ofList entries).keys ↔ key ∈ entries.map Prod.fst := by
  have listed : (entries.filter fun entry => entry.1 = key) ≠ [] ↔ key ∈ entries.map Prod.fst := by
    simp [List.filter_eq_nil_iff]
  rw [mem_keys_iff, get?_ofList, Option.isSome_map, ← listed, Option.isSome_iff_ne_none, ne_eq, List.getLast?_eq_none_iff]

section Related

variable {β : Type} {related : α → β → Prop} {a : OrderedMap κ α} {b : OrderedMap κ β} {x : α} {y : β}

/-- The maps have the same keys, and what they hold under each is related. -/
def Related (related : α → β → Prop) (a : OrderedMap κ α) (b : OrderedMap κ β) : Prop :=
  List.Forall₂ (fun x y => x.1 = y.1 ∧ related x.2 y.2) a.entries b.entries

omit [Std.TransOrd κ] [Std.LawfulEqOrd κ] in
theorem Related.empty : Related related (∅ : OrderedMap κ α) (∅ : OrderedMap κ β) := .nil

omit [Std.LawfulEqOrd κ] in
/-- They stay related when related values are set under one key. -/
theorem Related.insert (maps : Related related a b) (key : κ) (values : related x y) :
    Related related (a.insert key x) (b.insert key y) := by
  change List.Forall₂ _ (insertEntry key x a.entries) (insertEntry key y b.entries)
  change List.Forall₂ _ a.entries b.entries at maps
  generalize a.entries = entries, b.entries = others at maps
  induction maps with
  | nil => exact .cons ⟨rfl, values⟩ .nil
  | @cons first second entries others both rest ih =>
    rw [insertEntry, insertEntry, both.1]
    split
    case h_1 => exact .cons ⟨rfl, values⟩ (.cons both rest)
    case h_2 => exact .cons ⟨rfl, values⟩ rest
    case h_3 => exact .cons both ih

omit [Std.TransOrd κ] [Std.LawfulEqOrd κ] in
theorem Related.getD (maps : Related related a b) (key : κ) (fallbacks : related x y) :
    related (a.getD key x) (b.getD key y) := by
  change List.Forall₂ _ a.entries b.entries at maps
  rw [OrderedMap.getD, OrderedMap.getD, get?, get?]
  generalize a.entries = entries, b.entries = others at maps
  induction maps with
  | nil => exact fallbacks
  | @cons first second entries others both rest ih =>
    rw [List.find?_cons, List.find?_cons, both.1]
    split
    case h_1 => exact both.2
    case h_2 => exact ih

end Related

section Sums

/-- The sum of a figure over all entries. -/
def weigh (f : κ → α → ℚ) (map : OrderedMap κ α) : ℚ := (map.entries.map fun entry => f entry.1 entry.2).sum

/-- The sum of a figure over all values. -/
def total (f : α → ℚ) (map : OrderedMap κ α) : ℚ := (map.values.map f).sum

omit [Std.TransOrd κ] [Std.LawfulEqOrd κ] in
theorem total_eq_weigh (f : α → ℚ) (map : OrderedMap κ α) : map.total f = map.weigh fun _ => f := by
  rw [total, values, List.map_map]
  rfl

omit [Std.TransOrd κ] [Std.LawfulEqOrd κ] in
@[simp] theorem total_empty (f : α → ℚ) : (∅ : OrderedMap κ α).total f = 0 := rfl

private theorem sum_insertEntry (f : κ → α → ℚ) (key : κ) (value : α) {fallback : α}
    (nothing : f key fallback = 0) {entries : List (κ × α)}
    (ascending : entries.Pairwise fun a b => compare a.1 b.1 = .lt) :
    ((insertEntry key value entries).map fun entry => f entry.1 entry.2).sum =
      (entries.map fun entry => f entry.1 entry.2).sum -
        f key (((entries.find? fun entry => compare key entry.1 == .eq).map (·.2)).getD fallback) +
        f key value := by
  induction entries with
  | nil => simp [insertEntry, nothing]
  | cons first entries ih =>
    obtain ⟨below, rest⟩ := List.pairwise_cons.mp ascending
    rw [insertEntry]
    split
    case h_1 less =>
      have absent : (first :: entries).find? (fun entry => compare key entry.1 == .eq) = none := by
        rw [List.find?_eq_none]
        intro entry member
        rcases List.mem_cons.mp member with rfl | later
        · rw [less]
          decide
        · rw [Std.TransCmp.lt_trans less (below entry later)]
          decide
      rw [absent, List.map_cons, List.sum_cons]
      simp only [Option.map_none, Option.getD_none, nothing]
      ring
    case h_2 same =>
      have own : f key first.2 = f first.1 first.2 := by rw [Std.LawfulEqOrd.compare_eq_iff_eq.mp same]
      simp only [List.find?_cons, same, List.map_cons, List.sum_cons, beq_self_eq_true, Option.map_some,
        Option.getD_some, own]
      ring
    case h_3 greater =>
      have skipped : (compare key first.1 == .eq) = false := by rw [greater]; rfl
      rw [List.map_cons, List.sum_cons, ih rest, List.find?_cons, List.map_cons, List.sum_cons, skipped]
      ring

/-- Setting a key changes a sum by the difference of its values. -/
theorem weigh_insert (f : κ → α → ℚ) {map : OrderedMap κ α} {key : κ} {value fallback : α}
    (nothing : f key fallback = 0) :
    (map.insert key value).weigh f = map.weigh f - f key (map.getD key fallback) + f key value :=
  sum_insertEntry f key value nothing map.ascending

theorem total_insert (f : α → ℚ) {map : OrderedMap κ α} {key : κ} {value fallback : α}
    (nothing : f fallback = 0) :
    (map.insert key value).total f = map.total f - f (map.getD key fallback) + f value := by
  rw [total_eq_weigh, total_eq_weigh]
  exact weigh_insert (fun _ => f) nothing

omit [Std.TransOrd κ] in
theorem le_total (f : α → ℚ) (nonneg : ∀ value, 0 ≤ f value) {map : OrderedMap κ α} {key : κ} {fallback : α}
    (nothing : f fallback = 0) : f (map.getD key fallback) ≤ map.total f := by
  have summands : ∀ x ∈ map.values.map f, 0 ≤ x := by
    intro x member
    obtain ⟨value, _, rfl⟩ := List.mem_map.mp member
    exact nonneg value
  rw [getD]
  cases found : map.get? key with
  | none =>
    rw [Option.getD_none, nothing]
    exact List.sum_nonneg summands
  | some value =>
    have member : value ∈ map.values := List.mem_map_of_mem (mem_entries_of_get? found)
    exact List.single_le_sum summands _ (List.mem_map_of_mem member)

end Sums

end TradeLedger.OrderedMap

namespace TradeLedger

variable {κ : Type} [Ord κ] [Std.TransOrd κ] [Std.LawfulEqOrd κ] [DecidableEq κ]

theorem mem_ascendingDistinct {xs : List κ} {x : κ} : x ∈ ascendingDistinct xs ↔ x ∈ xs := by
  rw [ascendingDistinct, OrderedMap.mem_keys_ofList, List.map_map]
  simp

/-- The distinct elements are known from the elements in any order. -/
theorem ascendingDistinct_congr {xs ys : List κ} (same : ∀ x, x ∈ xs ↔ x ∈ ys) :
    ascendingDistinct xs = ascendingDistinct ys :=
  OrderedMap.keys_congr fun x => mem_ascendingDistinct.trans ((same x).trans mem_ascendingDistinct.symm)

omit [Std.LawfulEqOrd κ] [DecidableEq κ] in
theorem pairwise_ascendingDistinct (xs : List κ) :
    (ascendingDistinct xs).Pairwise fun x y => compare x y = .lt :=
  List.pairwise_map.mpr (OrderedMap.ascending _)

omit [Std.LawfulEqOrd κ] [DecidableEq κ] in
theorem nodup_ascendingDistinct (xs : List κ) : (ascendingDistinct xs).Nodup := OrderedMap.nodup_keys _

end TradeLedger
