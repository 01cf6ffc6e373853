import TradeLedger.Proofs.Inventory.Policies
import TradeLedger.Proofs.Series.Symbols

/-! Curves under the two policies on short sales. A curve reads a policy through the run over its lines
only, so curves under both are the same where the runs are. That is so where no sale is of more shares
than are held: among the lines of the curve's scope, or among all lines if the scope does not tear
holdings apart. -/
namespace TradeLedger

open Text Decimal

/-- Lines of one holding are all in the scope, or none of them is. -/
def Scope.KeepsHoldings (scope : Scope) (lines : List LedgerLine) : Prop :=
  ∀ line ∈ lines, ∀ other ∈ lines, HoldingKey.ofLine line = .ofLine other →
    scope.contains line.account line.symbol = scope.contains other.account other.symbol

/-- A scope could only tear the lines of a holding apart where a symbol does not agree with its upper case. -/
theorem Scope.keepsHoldings_of_cased {lines : List LedgerLine} (cased : ∀ line ∈ lines, Cased line.symbol)
    (scope : Scope) : scope.KeepsHoldings lines := by
  intro line member other member' same
  obtain ⟨accounts, symbols⟩ := HoldingKey.mk.inj same
  cases scope with
  | all => rfl
  | account name => rw [contains, contains, accounts]
  | symbol name ticker =>
    -- Both symbols agree with the upper case that they share, so they agree with each other.
    have first := beq_iff_eq.mp (cased line member)
    have second := beq_iff_eq.mp (cased other member')
    rw [contains, contains, accounts, sameIgnoringAsciiCase, sameIgnoringAsciiCase, ← first, ← second, symbols]

namespace Curve

variable {lines : List LedgerLine} {scope : Scope}

/-- The lines in a scope that keeps holdings are those of some holdings. -/
theorem linesIn_of_keepsHoldings (keeps : scope.KeepsHoldings lines) :
    ∃ chosen : HoldingKey → Bool, linesIn scope lines = lines.filter fun line => chosen (.ofLine line) := by
  refine ⟨fun key => lines.any fun line => HoldingKey.ofLine line = key && scope.contains line.account line.symbol,
    List.filter_congr fun line member => ?_⟩
  rw [Bool.eq_iff_iff, List.any_eq_true]
  simp only [Bool.and_eq_true, decide_eq_true_eq]
  constructor
  · intro own
    exact ⟨line, member, rfl, own⟩
  · rintro ⟨other, listed, same, own⟩
    rwa [keeps line member other listed same.symm]

/-- Where the run over the lines of its scope is the same, a curve is. -/
theorem reconstruct_of_run_eq
    (same : Book.run .trackInventory ∅ (linesIn scope lines) = Book.run .proceedsAsPnl ∅ (linesIn scope lines))
    (positions : List Position) (today : Date) :
    reconstruct .trackInventory lines positions scope today = reconstruct .proceedsAsPnl lines positions scope today := by
  simp only [reconstruct, realized, DailyFlows.ofLines, realizedByDate, same]

/-- Tracking short positions changes nothing where none arise. From any book without negative shares, a
ledger is run to the same book and the same profits, or to the same fault, as long as the run without short
positions comes to no sale of more shares than are held. So the curve of a scope is the same if that holds
of the lines in the scope; and if it holds of a whole ledger that has a run, the curves of all scopes are
the same that do not tear holdings apart. -/
theorem policies_agree_where_covered :
    (∀ (book : Book) lines, (∀ key, 0 ≤ (book.holding key).shares.toRat) → book.CoversSales (equityByDate lines) →
      book.run .trackInventory lines = book.run .proceedsAsPnl lines) ∧
    (∀ lines positions scope today, Book.CoversSales ∅ (equityByDate (linesIn scope lines)) →
      reconstruct .trackInventory lines positions scope today =
        reconstruct .proceedsAsPnl lines positions scope today) ∧
    ∀ lines positions scope today, Book.CoversSales ∅ (equityByDate lines) →
      (∃ ran, Book.run .proceedsAsPnl ∅ lines = .ok ran) → scope.KeepsHoldings lines →
      reconstruct .trackInventory lines positions scope today =
        reconstruct .proceedsAsPnl lines positions scope today := by
  have nothing : ∀ key, 0 ≤ (Book.holding ∅ key).shares.toRat := fun key => toRat_zero.ge
  refine ⟨fun book lines => Book.postAll_policies, ?_, ?_⟩
  · intro lines positions scope today covered
    exact reconstruct_of_run_eq (Book.postAll_policies nothing covered) positions today
  · rintro lines positions scope today covered ⟨⟨final, gained⟩, ran⟩ keeps
    obtain ⟨chosen, within⟩ := linesIn_of_keepsHoldings keeps
    refine reconstruct_of_run_eq (Book.postAll_policies nothing ?_) positions today
    rw [within, equityByDate_filter]
    exact covered.filter ran fun _ _ => rfl

/-- Shares sold to the last one and bought again, a sale without a quantity and a dividend in shares
among it. -/
def coveredLines : List LedgerLine :=
  [⟨"A", "X", "X", .equity, Date.ofDayNumber? 1, .buy, .ofUInt32 4, .ofUInt32 10⟩,
    ⟨"A", "X", "X", .equity, Date.ofDayNumber? 2, .sell, .zero, .ofUInt32 1⟩,
    ⟨"A", "X", "X", .equity, Date.ofDayNumber? 2, .dividend, .ofUInt32 9, .ofUInt32 3⟩,
    ⟨"A", "x", "X", .equity, Date.ofDayNumber? 3, .sell, .ofUInt32 4, .ofUInt32 15⟩,
    ⟨"A", "X", "X", .equity, Date.ofDayNumber? 4, .buy, .ofUInt32 2, .ofUInt32 6⟩,
    ⟨"A", "X", "X", .equity, Date.ofDayNumber? 5, .sellShort, .ofUInt32 1, .ofUInt32 4⟩]

/-- Shares of another account that no line has bought. -/
def soldUnbought : LedgerLine :=
  ⟨"B", "Y", "Y", .equity, Date.ofDayNumber? 3, .sell, .ofUInt32 5, .ofUInt32 8⟩

/-- A book that has them. -/
def boughtBefore : Book := (∅ : Book).insert ⟨"B", "Y"⟩ ⟨.ofUInt32 5, .ofUInt32 6⟩

theorem covered_lines_agree :
    (∃ final gained, gained ≠ [] ∧
      boughtBefore.run .trackInventory (soldUnbought :: coveredLines) = .ok (final, gained) ∧
      boughtBefore.run .proceedsAsPnl (soldUnbought :: coveredLines) = .ok (final, gained)) ∧
    (∃ curve, curve ≠ [] ∧
      reconstruct .trackInventory (soldUnbought :: coveredLines) [] (.account "A") ⟨9, by decide, by decide⟩ =
        .ok curve ∧
      reconstruct .proceedsAsPnl (soldUnbought :: coveredLines) [] (.account "A") ⟨9, by decide, by decide⟩ =
        .ok curve) ∧
    ∃ curve, curve ≠ [] ∧
      reconstruct .trackInventory coveredLines [] (.symbol "A" "x") ⟨9, by decide, by decide⟩ = .ok curve ∧
      reconstruct .proceedsAsPnl coveredLines [] (.symbol "A" "x") ⟨9, by decide, by decide⟩ = .ok curve := by
  obtain ⟨runs, partly, whole⟩ := policies_agree_where_covered
  have held : ∀ key, 0 ≤ (boughtBefore.holding key).shares.toRat := by
    intro key
    rw [boughtBefore, Book.holding_insert]
    split
    · decide +kernel
    · exact toRat_zero.ge
  have cased : ∀ line ∈ coveredLines, Cased line.symbol := by decide +kernel
  have run := runs boughtBefore (soldUnbought :: coveredLines) held (by decide +kernel)
  have ofAccount := partly (soldUnbought :: coveredLines) [] (.account "A") ⟨9, by decide, by decide⟩
    (by decide +kernel)
  have ofSymbol := whole coveredLines [] (.symbol "A" "x") ⟨9, by decide, by decide⟩ (by decide +kernel)
    (exists_of_isOk (by decide +kernel)) (Scope.keepsHoldings_of_cased cased _)
  rw [run, ofAccount, ofSymbol]
  refine ⟨?_, ?_, ?_⟩
  · obtain ⟨⟨final, gained⟩, ran⟩ := exists_of_isOk
      (show (boughtBefore.run .proceedsAsPnl (soldUnbought :: coveredLines)).isOk by decide +kernel)
    have realizes : (boughtBefore.run .proceedsAsPnl (soldUnbought :: coveredLines)).map (·.2.isEmpty) = .ok false := by
      decide +kernel
    refine ⟨final, gained, ?_, ran, ran⟩
    rintro rfl
    rw [ran] at realizes
    cases realizes
  · obtain ⟨curve, drawn⟩ := exists_of_isOk (show (reconstruct .proceedsAsPnl (soldUnbought :: coveredLines) []
      (.account "A") ⟨9, by decide, by decide⟩).isOk by decide +kernel)
    refine ⟨curve, ?_, drawn, drawn⟩
    rintro rfl
    exact absurd drawn (by decide +kernel)
  · obtain ⟨curve, drawn⟩ := exists_of_isOk (show (reconstruct .proceedsAsPnl coveredLines []
      (.symbol "A" "x") ⟨9, by decide, by decide⟩).isOk by decide +kernel)
    refine ⟨curve, ?_, drawn, drawn⟩
    rintro rfl
    exact absurd drawn (by decide +kernel)

end Curve

end TradeLedger
