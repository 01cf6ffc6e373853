import Mathlib.Data.List.Forall2
import TradeLedger.Fault

/-! Computations that may fault, taken apart step by step. -/
namespace TradeLedger

variable {ε α β : Type}

theorem ok_bind (a : α) (next : α → Except ε β) : (Except.ok a >>= next) = next a := rfl

theorem error_bind (fault : Fault) (next : α → Except Fault β) :
    (Except.error fault >>= next) = .error fault := rfl

/-- A computation has an answer when each of its steps has one. -/
theorem bind_eq_ok {first : Except ε α} {next : α → Except ε β} {b : β} :
    (first >>= next) = .ok b ↔ ∃ a, first = .ok a ∧ next a = .ok b := by
  cases first with
  | error cause =>
    constructor
    · intro answer
      cases answer
    · rintro ⟨a, answer, _⟩
      cases answer
  | ok a =>
    constructor
    · intro answer
      exact ⟨a, rfl, answer⟩
    · rintro ⟨_, same, answer⟩
      cases same
      exact answer

/-- It fails where one of its steps does. -/
theorem bind_eq_error {first : Except ε α} {next : α → Except ε β} {cause : ε} :
    (first >>= next) = .error cause ↔ first = .error cause ∨ ∃ a, first = .ok a ∧ next a = .error cause := by
  cases first with
  | error other =>
    constructor
    · intro failed
      cases failed
      exact .inl rfl
    · rintro (failed | ⟨_, answer, _⟩)
      · cases failed
        rfl
      · cases answer
  | ok a =>
    constructor
    · intro failed
      exact .inr ⟨a, rfl, failed⟩
    · rintro (failed | ⟨_, same, failed⟩)
      · cases failed
      · cases same
        exact failed

theorem exists_of_isOk {answer : Except ε α} (answered : answer.isOk = true) : ∃ a, answer = .ok a := by
  cases answer with
  | error cause => cases answered
  | ok a => exact ⟨a, rfl⟩

/-- Rewording an error changes no answer. -/
theorem mapError_eq_ok {ε' : Type} {f : ε → ε'} {answer : Except ε α} {a : α} :
    answer.mapError f = .ok a ↔ answer = .ok a := by
  cases answer with
  | error cause =>
    constructor
    · intro answered
      cases answered
    · intro answered
      cases answered
  | ok b =>
    constructor
    · intro answered
      cases answered
      rfl
    · intro answered
      cases answered
      rfl

/-- A changed answer is the change of an answer. -/
theorem map_eq_ok {f : α → β} {answer : Except ε α} {b : β} :
    answer.map f = .ok b ↔ ∃ a, answer = .ok a ∧ f a = b := by
  cases answer with
  | error cause =>
    constructor
    · intro changed
      cases changed
    · rintro ⟨a, answered, _⟩
      cases answered
  | ok a =>
    constructor
    · intro changed
      exact ⟨a, rfl, Except.ok.inj changed⟩
    · rintro ⟨_, same, rfl⟩
      cases same
      rfl

/-- What is computed of an answer is what its computation shows. -/
theorem eq_of_map_eq_ok {f : α → β} {answer : Except ε α} {a : α} {b : β} (answered : answer = .ok a)
    (shown : answer.map f = .ok b) : f a = b := by
  rw [answered] at shown
  exact Except.ok.inj shown

/-- A computation faults where it has no answer. -/
theorem error_iff_not_ok {answer : Except Fault α} :
    (∃ fault, answer = .error fault) ↔ ¬∃ a, answer = .ok a := by
  cases answer with
  | error fault => simp
  | ok a => simp

theorem mapM_congr {f g : α → Except ε β} {xs : List α} (same : ∀ x ∈ xs, f x = g x) : xs.mapM f = xs.mapM g := by
  induction xs with
  | nil => rfl
  | cons x xs ih =>
    rw [List.mapM_cons, List.mapM_cons, same x List.mem_cons_self,
      ih fun y member => same y (List.mem_cons_of_mem x member)]

/-- If every element has an answer, all of them together have. -/
theorem mapM_eq_ok {f : α → Except ε β} {g : α → β} {xs : List α} (answers : ∀ x ∈ xs, f x = .ok (g x)) :
    xs.mapM f = .ok (xs.map g) := by
  rw [mapM_congr answers]
  exact List.mapM_pure

theorem exists_mapM {f : α → Except ε β} {xs : List α} (answers : ∀ x ∈ xs, ∃ y, f x = .ok y) :
    ∃ ys, xs.mapM f = .ok ys := by
  induction xs with
  | nil => exact ⟨[], rfl⟩
  | cons x xs ih =>
    obtain ⟨y, first⟩ := answers x List.mem_cons_self
    obtain ⟨ys, rest⟩ := ih fun z member => answers z (List.mem_cons_of_mem x member)
    exact ⟨y :: ys, by rw [List.mapM_cons, first, ok_bind, rest]; rfl⟩

/-- If all of them together have one, every element has. -/
theorem exists_of_mapM {f : α → Except ε β} {xs : List α} {ys : List β} (answered : xs.mapM f = .ok ys) :
    ∀ x ∈ xs, ∃ y, f x = .ok y := by
  induction xs generalizing ys with
  | nil => simp
  | cons x xs ih =>
    rw [List.mapM_cons] at answered
    obtain ⟨y, first, answered⟩ := bind_eq_ok.mp answered
    obtain ⟨later, rest, _⟩ := bind_eq_ok.mp answered
    exact List.forall_mem_cons.mpr ⟨⟨y, first⟩, ih rest⟩

/-- The answers of all together are those of the elements. -/
theorem mapM_eq_ok_iff {f : α → Except ε β} {xs : List α} {ys : List β} :
    xs.mapM f = .ok ys ↔ List.Forall₂ (fun x y => f x = .ok y) xs ys := by
  induction xs generalizing ys with
  | nil =>
    rw [List.forall₂_nil_left_iff]
    exact ⟨fun answered => (Except.ok.inj answered).symm, fun none => none ▸ rfl⟩
  | cons x xs ih =>
    rw [List.mapM_cons, List.forall₂_cons_left_iff]
    constructor
    · intro answered
      obtain ⟨y, first, answered⟩ := bind_eq_ok.mp answered
      obtain ⟨later, rest, answered⟩ := bind_eq_ok.mp answered
      cases answered
      exact ⟨y, later, first, ih.mp rest, rfl⟩
    · rintro ⟨y, later, first, rest, rfl⟩
      rw [first, ok_bind, ih.mpr rest]
      rfl

/-- Every answer is that of an element. -/
theorem exists_of_mem_mapM {f : α → Except ε β} {xs : List α} {ys : List β} (answered : xs.mapM f = .ok ys) :
    ∀ y ∈ ys, ∃ x ∈ xs, f x = .ok y := by
  induction mapM_eq_ok_iff.mp answered with
  | nil => simp
  | @cons x y xs ys first rest ih =>
    refine List.forall_mem_cons.mpr ⟨⟨x, List.mem_cons_self, first⟩, fun other member => ?_⟩
    obtain ⟨source, listed, same⟩ := ih (mapM_eq_ok_iff.mpr rest) other member
    exact ⟨source, List.mem_cons_of_mem x listed, same⟩

/-- They fail like one of the elements. -/
theorem exists_of_mapM_error {f : α → Except ε β} {xs : List α} {cause : ε} (failed : xs.mapM f = .error cause) :
    ∃ x ∈ xs, f x = .error cause := by
  induction xs with
  | nil => cases failed
  | cons x xs ih =>
    rw [List.mapM_cons] at failed
    rcases bind_eq_error.mp failed with first | ⟨y, _, failed⟩
    · exact ⟨x, List.mem_cons_self, first⟩
    · rcases bind_eq_error.mp failed with rest | ⟨later, _, done⟩
      · obtain ⟨other, member, same⟩ := ih rest
        exact ⟨other, List.mem_cons_of_mem x member, same⟩
      · cases done

theorem mapM_fails_iff {f : α → Except ε β} {xs : List α} :
    (∃ cause, xs.mapM f = .error cause) ↔ ∃ x ∈ xs, ∃ cause, f x = .error cause := by
  constructor
  · rintro ⟨cause, failed⟩
    obtain ⟨x, member, failed⟩ := exists_of_mapM_error failed
    exact ⟨x, member, cause, failed⟩
  · rintro ⟨x, member, cause, failed⟩
    cases answer : xs.mapM f with
    | error cause => exact ⟨cause, rfl⟩
    | ok ys =>
      obtain ⟨y, answered⟩ := exists_of_mapM answer x member
      cases failed.symm.trans answered

/-- Of some of the elements the answers are those that are kept alike. -/
theorem mapM_filter {f : α → Except ε β} {keep : α → Bool} {keep' : β → Bool} {xs : List α} {ys : List β}
    (alike : ∀ x y, f x = .ok y → (keep x = true ↔ keep' y = true)) (answered : xs.mapM f = .ok ys) :
    (xs.filter keep).mapM f = .ok (ys.filter keep') :=
  mapM_eq_ok_iff.mpr (List.rel_filter alike (mapM_eq_ok_iff.mp answered))

/-- A fold fails like one of its steps. -/
theorem exists_of_foldlM_error {step : β → α → Except ε β} {b : β} {xs : List α} {cause : ε}
    (failed : xs.foldlM step b = .error cause) : ∃ c, ∃ x ∈ xs, step c x = .error cause := by
  induction xs generalizing b with
  | nil => cases failed
  | cons x xs ih =>
    rw [List.foldlM_cons] at failed
    rcases bind_eq_error.mp failed with first | ⟨c, _, rest⟩
    · exact ⟨b, x, List.mem_cons_self, first⟩
    · obtain ⟨d, y, member, later⟩ := ih rest
      exact ⟨d, y, List.mem_cons_of_mem x member, later⟩

/-- Two computations agree where both have answers that are related, or neither has one. -/
def Agree {α β : Type} (related : α → β → Prop) : Except Fault α → Except Fault β → Prop
  | .ok a, .ok b => related a b
  | .error _, .error _ => True
  | .ok _, .error _ => False
  | .error _, .ok _ => False

namespace Agree

variable {γ δ : Type} {related : α → β → Prop} {first : Except Fault α} {second : Except Fault β}

/-- The two ways to agree. -/
theorem ok_or_error (agree : Agree related first second) :
    (∃ a b, first = .ok a ∧ second = .ok b ∧ related a b) ∨
      ∃ fault other, first = .error fault ∧ second = .error other := by
  cases first with
  | error fault =>
    cases second with
    | error other => exact .inr ⟨fault, other, rfl, rfl⟩
    | ok b => cases agree
  | ok a =>
    cases second with
    | error fault => cases agree
    | ok b => exact .inl ⟨a, b, rfl, rfl, agree⟩

theorem refl {related : α → α → Prop} (same : ∀ a, related a a) (answer : Except Fault α) :
    Agree related answer answer := by
  cases answer with
  | error fault => trivial
  | ok a => exact same a

/-- Answers of computations that agree are related. -/
theorem answers {a : α} {b : β} (agree : Agree related first second) (left : first = .ok a)
    (right : second = .ok b) : related a b := by
  rw [left, right] at agree
  exact agree

/-- Steps that agree on related answers agree after computations that do. -/
theorem bind {further : γ → δ → Prop} {next : α → Except Fault γ} {next' : β → Except Fault δ}
    (agree : Agree related first second) (steps : ∀ a b, related a b → Agree further (next a) (next' b)) :
    Agree further (first >>= next) (second >>= next') := by
  rcases agree.ok_or_error with ⟨a, b, rfl, rfl, answers⟩ | ⟨_, _, rfl, rfl⟩
  · exact steps a b answers
  · trivial

theorem imp {weaker : α → β → Prop} (agree : Agree related first second)
    (weaken : ∀ a b, related a b → weaker a b) : Agree weaker first second := by
  rcases agree.ok_or_error with ⟨a, b, rfl, rfl, answers⟩ | ⟨_, _, rfl, rfl⟩
  · exact weaken a b answers
  · trivial

/-- Computations without answers agree. -/
theorem of_not_ok (left : ¬∃ a, first = .ok a) (right : ¬∃ b, second = .ok b) : Agree related first second := by
  obtain ⟨_, rfl⟩ := error_iff_not_ok.mpr left
  obtain ⟨_, rfl⟩ := error_iff_not_ok.mpr right
  trivial

end Agree

end TradeLedger
