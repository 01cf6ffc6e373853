import TradeLedger.Proofs.Inventory.Growth
import TradeLedger.Proofs.Inventory.Strain

/-! The runs that overflow. A run over fewer than a million millions of lines from imported rows
is carried through to its end unless it comes to a strained line, and it stops there. -/
namespace TradeLedger.Book

open Decimal

variable {policy : ShortSales} {book : Book} {dated : DatedLine} {lines : List DatedLine} {b e : ℚ}

/-- No line of a run is strained at the holding that it comes to. -/
def Unstrained (policy : ShortSales) (book : Book) (lines : List DatedLine) : Prop :=
  Throughout policy (fun book dated => ¬(book.holding (keyOf dated)).Strained policy dated.line) book lines

instance (policy : ShortSales) (book : Book) (lines : List DatedLine) : Decidable (Unstrained policy book lines) :=
  inferInstanceAs (Decidable (Throughout ..))

theorem post_exists (calm : Calm e (book.holding (keyOf dated)) dated.line.quantity dated.line.amount)
    (free : ¬(book.holding (keyOf dated)).Strained policy dated.line) :
    ∃ next realized, book.post policy dated = .ok (next, realized) := by
  obtain ⟨⟨after, pnl⟩, applied⟩ := Holding.apply_exists calm free
  refine ⟨book.insert (keyOf dated) after, pnl.map fun one => ⟨dated.date, one⟩, ?_⟩
  rw [keyOf] at applied
  simp only [post, applied, ok_bind]
  rfl

theorem post_overflows (calm : Calm e (book.holding (keyOf dated)) dated.line.quantity dated.line.amount)
    (strained : (book.holding (keyOf dated)).Strained policy dated.line) :
    ∃ fault : Fault, fault.ofScaling ∧ book.post policy dated = .error fault := by
  obtain ⟨fault, scaling, applied⟩ := Holding.apply_overflows calm strained
  rw [keyOf] at applied
  exact ⟨fault, scaling, by simp only [post, applied, error_bind]⟩

/-- Every line realizes at most one profit. -/
theorem length_realized_le {final : Book} {realized : List Realized}
    (ran : postAll policy book lines = .ok (final, realized)) : realized.length ≤ lines.length := by
  induction lines generalizing book realized with
  | nil =>
    cases ran
    exact le_rfl
  | cons dated rest ih =>
    obtain ⟨next, first, later, _, followed, rfl⟩ := postAll_cons.mp ran
    have others := ih followed
    have one : first.toList.length ≤ 1 := Option.length_toList_le
    rw [List.length_append, List.length_cons]
    omega

/-- A run has an answer if it is not strained, and then what it realizes is bounded by the number
of its lines; otherwise a quotient or a product overflows. -/
theorem postAll_answers {k : ℕ} (within : Within (2 * 10 ^ 15 * k) book) (few : k + lines.length ≤ 10 ^ 12)
    (moderate : ∀ dated ∈ lines, dated.line.Moderate (1 / 10 ^ 28)) :
    (Unstrained policy book lines ∧ ∃ final realized, postAll policy book lines = .ok (final, realized) ∧
      gains realized + final.costs ≤ book.costs + 2 * 10 ^ 15 * lines.length) ∨
    (¬Unstrained policy book lines ∧ ∃ fault : Fault, fault.ofScaling ∧ postAll policy book lines = .error fault) := by
  induction lines generalizing k book with
  | nil => exact .inl ⟨trivial, book, [], rfl, by simp [gains]⟩
  | cons dated rest ih =>
    rw [List.length_cons] at few
    have bound : (k : ℚ) ≤ 10 ^ 12 := by exact_mod_cast (show k ≤ 10 ^ 12 by omega)
    have calm := within.calm (moderate dated List.mem_cons_self) (by positivity) (e := 3) le_rfl
      (by norm_num; linarith)
    by_cases strained : (book.holding (keyOf dated)).Strained policy dated.line
    · obtain ⟨fault, scaling, overflows⟩ := post_overflows calm strained
      refine .inr ⟨fun free => free.1 strained, fault, scaling, ?_⟩
      rw [postAll, overflows, error_bind]
    · obtain ⟨next, first, posted⟩ := post_exists calm strained
      have grown := (post_grows within (moderate dated List.mem_cons_self) calm posted).2
      have kept := (within.post (moderate dated List.mem_cons_self) calm posted).succ
      have free : Unstrained policy book (dated :: rest) ↔ Unstrained policy next rest := by
        rw [Unstrained, Throughout.cons_iff posted]
        exact and_iff_right strained
      rw [free]
      rcases ih kept (by omega) (fun other member => moderate other (List.mem_cons_of_mem _ member)) with
        ⟨later, final, realized, ran, sums⟩ | ⟨later, fault, scaling, overflows⟩
      · refine .inl ⟨later, final, first.toList ++ realized, postAll_cons.mpr ⟨_, _, _, posted, ran, rfl⟩, ?_⟩
        rw [gains_append, List.length_cons]
        push_cast
        linarith
      · refine .inr ⟨later, fault, scaling, ?_⟩
        rw [postAll, posted, ok_bind]
        dsimp only
        rw [overflows, error_bind]

end TradeLedger.Book
