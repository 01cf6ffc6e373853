import TradeLedger.Proofs.Fault
import TradeLedger.Proofs.Ordered.Map

/-! Values collected by key. A fold that adds each element to the value of its key runs, for each key, the fold over
the elements with that key, and it fails only if one of these does. -/
namespace TradeLedger.OrderedMap

variable {κ α σ : Type} [Ord κ] [Std.TransOrd κ] [Std.LawfulEqOrd κ] [DecidableEq κ] {key : α → κ} {start : σ}
  {add : σ → α → Except Fault σ} {map filled : OrderedMap κ σ} {xs : List α}

/-- The values with an element added to that of its key. -/
def addByKey (key : α → κ) (start : σ) (add : σ → α → Except Fault σ) (map : OrderedMap κ σ) (x : α) :
    Except Fault (OrderedMap κ σ) := do
  let value ← add (map.getD (key x) start) x
  return map.insert (key x) value

/-- The elements with one key. -/
def ofKey (key : α → κ) (xs : List α) (k : κ) : List α := xs.filter fun x => key x = k

/-- The fold over the elements of one key, one element further. -/
theorem foldlM_ofKey_cons {x : α} {value : σ} (added : add (map.getD (key x) start) x = .ok value) (k : κ) :
    (ofKey key (x :: xs) k).foldlM add (map.getD k start) =
      (ofKey key xs k).foldlM add ((map.insert (key x) value).getD k start) := by
  rw [getD_insert, ofKey, ofKey]
  by_cases own : key x = k
  · subst own
    rw [List.filter_cons_of_pos (by simp), if_pos rfl, List.foldlM_cons, added, ok_bind]
  · rw [List.filter_cons_of_neg (by simpa using own), if_neg (Ne.symm own)]

theorem getD_of_foldlM (folded : xs.foldlM (addByKey key start add) map = .ok filled) (k : κ) :
    (ofKey key xs k).foldlM add (map.getD k start) = .ok (filled.getD k start) := by
  induction xs generalizing map with
  | nil =>
    cases folded
    rfl
  | cons x xs ih =>
    obtain ⟨next, stepped, folded⟩ := bind_eq_ok.mp folded
    obtain ⟨value, added, stepped⟩ := bind_eq_ok.mp stepped
    cases stepped
    rw [foldlM_ofKey_cons added, ih folded]

theorem mem_keys_of_foldlM (folded : xs.foldlM (addByKey key start add) map = .ok filled) (k : κ) :
    k ∈ filled.keys ↔ k ∈ map.keys ∨ k ∈ xs.map key := by
  induction xs generalizing map with
  | nil =>
    cases folded
    simp
  | cons x xs ih =>
    obtain ⟨next, stepped, folded⟩ := bind_eq_ok.mp folded
    obtain ⟨value, added, stepped⟩ := bind_eq_ok.mp stepped
    cases stepped
    rw [ih folded, mem_keys_insert, List.map_cons, List.mem_cons, or_left_comm, or_assoc]

theorem exists_foldlM_addByKey
    (parts : ∀ x ∈ xs, ∃ value, (ofKey key xs (key x)).foldlM add (map.getD (key x) start) = .ok value) :
    ∃ filled, xs.foldlM (addByKey key start add) map = .ok filled := by
  induction xs generalizing map with
  | nil => exact ⟨map, rfl⟩
  | cons x xs ih =>
    obtain ⟨_, own⟩ := parts x List.mem_cons_self
    rw [ofKey, List.filter_cons_of_pos (by simp), List.foldlM_cons] at own
    obtain ⟨value, added, _⟩ := bind_eq_ok.mp own
    have others : ∀ y ∈ xs, ∃ next,
        (ofKey key xs (key y)).foldlM add ((map.insert (key x) value).getD (key y) start) = .ok next := by
      intro y member
      rw [← foldlM_ofKey_cons added]
      exact parts y (List.mem_cons_of_mem x member)
    obtain ⟨filled, folded⟩ := ih others
    refine ⟨filled, ?_⟩
    rw [List.foldlM_cons, addByKey, added]
    exact folded

end TradeLedger.OrderedMap
