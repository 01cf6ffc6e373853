import Mathlib.Data.List.Forall2
import TradeLedger.Proofs.Fault

/-! Folds whose steps may fault. `Along step good` says of a fold that every step is good at the
state that it comes to. What the good steps of a fold keep or add up, the fold keeps or adds up. -/
namespace TradeLedger

variable {σ α : Type}

/-- What holds of an answer, if there is one. -/
def whenever {α : Type} (answer : Except Fault α) (holds : α → Prop) : Prop :=
  match answer with
  | .ok a => holds a
  | .error _ => True

instance {α : Type} (answer : Except Fault α) (holds : α → Prop) [∀ a, Decidable (holds a)] :
    Decidable (whenever answer holds) :=
  match answer with
  | .ok a => inferInstanceAs (Decidable (holds a))
  | .error _ => .isTrue trivial

/-- Every step of a fold is good. -/
def Along (step : σ → α → Except Fault σ) (good : σ → α → Prop) : σ → List α → Prop
  | _, [] => True
  | s, x :: xs => good s x ∧ whenever (step s x) fun t => Along step good t xs

namespace Along

variable {step : σ → α → Except Fault σ} {good : σ → α → Prop} {s : σ} {xs ys : List α}

instance decidable [∀ s x, Decidable (good s x)] : ∀ s xs, Decidable (Along step good s xs)
  | _, [] => .isTrue trivial
  | s, x :: xs =>
    have (t : σ) : Decidable (Along step good t xs) := decidable t xs
    inferInstanceAs (Decidable (good s x ∧ whenever (step s x) fun t => Along step good t xs))

theorem head {x : α} (along : Along step good s (x :: xs)) : good s x := along.1

theorem tail {x : α} {t : σ} (along : Along step good s (x :: xs)) (stepped : step s x = .ok t) :
    Along step good t xs := by
  obtain ⟨_, others⟩ := along
  rw [stepped] at others
  exact others

theorem always (step : σ → α → Except Fault σ) (s : σ) (xs : List α) : Along step (fun _ _ => True) s xs := by
  induction xs generalizing s with
  | nil => trivial
  | cons x xs ih =>
    refine ⟨trivial, ?_⟩
    cases step s x with
    | error fault => trivial
    | ok t => exact ih t

theorem of_prefix (first : ys <+: xs) (along : Along step good s xs) : Along step good s ys := by
  induction ys generalizing s xs with
  | nil => trivial
  | cons y ys ih =>
    obtain ⟨later, rfl⟩ := first
    refine ⟨along.head, ?_⟩
    cases stepped : step s y with
    | error fault => trivial
    | ok t => exact ih (List.prefix_append ys later) (along.tail stepped)

/-- If every good step has an answer, a fold of good steps has one, and it is related to the start
as its steps are. -/
theorem exists_foldlM {motive : σ → List α → σ → Prop} (along : Along step good s xs)
    (nil : ∀ s, motive s [] s)
    (cons : ∀ s x, good s x → ∃ t, step s x = .ok t ∧ ∀ xs u, motive t xs u → motive s (x :: xs) u) :
    ∃ t, xs.foldlM step s = .ok t ∧ motive s xs t := by
  induction xs generalizing s with
  | nil => exact ⟨s, rfl, nil s⟩
  | cons x xs ih =>
    obtain ⟨next, stepped, related⟩ := cons s x along.head
    obtain ⟨final, folded, rest⟩ := ih (along.tail stepped)
    exact ⟨final, by rw [List.foldlM_cons, stepped, ok_bind, folded], related xs final rest⟩

end Along

/-- Seen through a view that some steps do not change, a fold is that of the other steps. -/
theorem foldlM_filter {step : σ → α → Except Fault σ} {view : σ → σ} {seen : α → Bool} {s t : σ} {xs : List α}
    (own : ∀ s x t, seen x = true → step s x = .ok t → step (view s) x = .ok (view t))
    (other : ∀ s x t, seen x = false → step s x = .ok t → view t = view s) (folded : xs.foldlM step s = .ok t) :
    (xs.filter seen).foldlM step (view s) = .ok (view t) := by
  induction xs generalizing s with
  | nil =>
    cases folded
    rfl
  | cons x xs ih =>
    rw [List.foldlM_cons] at folded
    obtain ⟨next, stepped, folded⟩ := bind_eq_ok.mp folded
    cases kept : seen x with
    | true => rw [List.filter_cons_of_pos kept, List.foldlM_cons, own s x next kept stepped, ok_bind, ih folded]
    | false => rw [List.filter_cons_of_neg (by simp [kept]), ← other s x next kept stepped, ih folded]

section Classes

variable {κ : Type} {step : σ → α → Except Fault σ} {kind : α → κ} {xs ys : List α}

/-- A step may be taken before those of other kinds. -/
theorem foldlM_move {front : List α} {x : α} (swap : ∀ s x y, kind x ≠ kind y →
      (step s x >>= fun t => step t y) = (step s y >>= fun t => step t x))
    (apart : ∀ y ∈ front, kind y ≠ kind x) (back : List α) (s : σ) :
    (front ++ x :: back).foldlM step s = (x :: (front ++ back)).foldlM step s := by
  induction front generalizing s with
  | nil => rfl
  | cons y front ih =>
    have rest := ih fun z later => apart z (List.mem_cons_of_mem y later)
    calc (y :: (front ++ x :: back)).foldlM step s
        = step s y >>= fun t => (x :: (front ++ back)).foldlM step t := by
          rw [List.foldlM_cons]
          exact bind_congr rest
      _ = (step s y >>= fun t => step t x) >>= fun t => (front ++ back).foldlM step t := by
          simp only [List.foldlM_cons, bind_assoc]
      _ = (x :: (y :: front ++ back)).foldlM step s := by
          rw [swap s y x (apart y List.mem_cons_self), bind_assoc]
          simp only [List.foldlM_cons, List.cons_append]

/-- If steps of different kinds may change places, a fold depends on the steps of each kind alone. -/
theorem foldlM_eq_of_filter [DecidableEq κ] (swap : ∀ s x y, kind x ≠ kind y →
      (step s x >>= fun t => step t y) = (step s y >>= fun t => step t x))
    (same : ∀ k, xs.filter (fun x => kind x = k) = ys.filter fun x => kind x = k) (s : σ) :
    xs.foldlM step s = ys.foldlM step s := by
  induction xs generalizing ys s with
  | nil =>
    cases ys with
    | nil => rfl
    | cons y ys =>
      have own := same (kind y)
      rw [List.filter_cons_of_pos (by simp)] at own
      cases own
  | cons x xs ih =>
    -- The first step of this kind on the other side comes after steps of other kinds only.
    have own := same (kind x)
    rw [List.filter_cons_of_pos (by simp), eq_comm, List.filter_eq_cons_iff] at own
    obtain ⟨front, back, rfl, apart, -, -⟩ := own
    have others : ∀ y ∈ front, kind y ≠ kind x := by simpa using apart
    have tails : ∀ k, xs.filter (fun x => kind x = k) = (front ++ back).filter fun x => kind x = k := by
      intro k
      have whole := same k
      rw [List.filter_append] at whole ⊢
      by_cases level : kind x = k
      · have none : front.filter (fun y => kind y = k) = [] := by
          rw [List.filter_eq_nil_iff]
          intro y member
          simpa [← level] using others y member
        rw [none, List.nil_append] at whole ⊢
        rw [List.filter_cons_of_pos (by simpa using level), List.filter_cons_of_pos (by simpa using level)] at whole
        exact (List.cons.inj whole).2
      · rwa [List.filter_cons_of_neg (by simpa using level), List.filter_cons_of_neg (by simpa using level)] at whole
    rw [foldlM_move swap others, List.foldlM_cons, List.foldlM_cons]
    exact bind_congr fun t => ih tails t

end Classes

/-- Folds over related steps from related states agree where each step does. -/
theorem foldlM_agrees {τ β : Type} {related : σ → τ → Prop} {matched : α → β → Prop} {step : σ → α → Except Fault σ}
    {step' : τ → β → Except Fault τ} {s : σ} {t : τ} {xs : List α} {ys : List β}
    (steps : ∀ s t x y, related s t → matched x y → Agree related (step s x) (step' t y))
    (lists : List.Forall₂ matched xs ys) (start : related s t) :
    Agree related (xs.foldlM step s) (ys.foldlM step' t) := by
  induction lists generalizing s t with
  | nil => exact start
  | cons first _ ih =>
    rw [List.foldlM_cons, List.foldlM_cons]
    exact (steps _ _ _ _ start first).bind fun _ _ => ih

/-- Folds that have answers keep a relation that each two steps with answers keep. -/
theorem foldlM_related {τ β : Type} {related : σ → τ → Prop} {matched : α → β → Prop} {step : σ → α → Except Fault σ}
    {step' : τ → β → Except Fault τ} {s s' : σ} {t t' : τ} {xs : List α} {ys : List β}
    (steps : ∀ s t x y s' t', related s t → matched x y → step s x = .ok s' → step' t y = .ok t' → related s' t')
    (lists : List.Forall₂ matched xs ys) (start : related s t) (folded : xs.foldlM step s = .ok s')
    (folded' : ys.foldlM step' t = .ok t') : related s' t' := by
  induction lists generalizing s t with
  | nil =>
    cases folded
    cases folded'
    exact start
  | cons first _ ih =>
    obtain ⟨next, stepped, folded⟩ := bind_eq_ok.mp folded
    obtain ⟨next', stepped', folded'⟩ := bind_eq_ok.mp folded'
    exact ih (steps _ _ _ _ _ _ start first stepped stepped') folded folded'

end TradeLedger
