import TradeLedger.Proofs.Inventory.Overflow
import TradeLedger.Proofs.Series.Budget
import TradeLedger.Proofs.Series.Overlay

/-! The reconstructions that overflow. The limit on imported numbers is enough for every sum of a
curve, but not for every quotient and product of the holdings behind it: a few thin shares may have
a cost per share that no decimal holds. Curves of fewer than a million millions of imported rows
exist exactly where no line is strained at its holding. -/
namespace TradeLedger

open Decimal

theorem ImportedRow.toLine_moderate (row : ImportedRow) : row.toLine.Moderate (1 / 10 ^ 28) :=
  ⟨abs_ofImported_le row.amount, abs_ofImported_le row.quantity, eq_zero_or_le_abs row.toLine.quantity⟩

namespace DailyFlows

variable {policy : ShortSales} {lines : List LedgerLine}

/-- The cash of the lines is within the budget. -/
theorem addLines_exists (few : lines.length ≤ 10 ^ 12) (amounts : ∀ line ∈ lines, |line.amount.toRat| ≤ 10 ^ 15) :
    ∃ days, lines.foldlM addLine ∅ = .ok days ∧ days.size ≤ 10 ^ 27 + 6 * 10 ^ 12 := by
  have count : (lines.length : ℚ) ≤ 10 ^ 12 := by exact_mod_cast few
  have empty : size ∅ = 0 := by
    rw [size, OrderedMap.charged, OrderedMap.total_empty, zero_add]
    exact mul_zero _
  have cash : (lines.map fun line => |line.amount.toRat|).sum ≤ 10 ^ 15 * lines.length := sum_map_le amounts
  obtain ⟨days, filled, grown⟩ := foldlM_grows size (fun line : LedgerLine => |line.amount.toRat| + 6)
    (fun line => by positivity) (fun _ _ small => addLine_exists small) lines ∅
    (by rw [empty, sum_map_charged]; linarith)
  rw [empty, sum_map_charged] at grown
  exact ⟨days, filled, by linarith⟩

/-- So is what they realize, if the run that posts them has an answer. -/
theorem ofLines_exists {book : Book} {gained : List Realized} (few : lines.length ≤ 10 ^ 12)
    (amounts : ∀ line ∈ lines, |line.amount.toRat| ≤ 10 ^ 15) (ran : Book.run policy ∅ lines = .ok (book, gained))
    (fewer : gained.length ≤ lines.length) (gains : Book.gains gained ≤ 2 * 10 ^ 15 * lines.length) :
    ∃ days, ofLines policy lines = .ok days ∧ days.size ≤ 4 * 10 ^ 27 := by
  have count : (lines.length : ℚ) ≤ 10 ^ 12 := by exact_mod_cast few
  have count' : (gained.length : ℚ) ≤ lines.length := by exact_mod_cast fewer
  have empty : realizedSize ∅ = 0 := by
    rw [realizedSize, OrderedMap.charged, OrderedMap.total_empty, zero_add]
    exact mul_zero _
  have profits : (gained.map fun one => |one.pnl.toRat| + 7).sum ≤ 2 * 10 ^ 27 + 7 * 10 ^ 12 := by
    rw [sum_map_charged]
    rw [Book.gains] at gains
    linarith
  obtain ⟨days, filled, daysSize⟩ := addLines_exists few amounts
  obtain ⟨sums, added, sumsSize⟩ := foldlM_grows realizedSize (fun one : Realized => |one.pnl.toRat| + 7)
    (fun one => by positivity) (fun _ _ small => addRealized_exists small) gained ∅ (by rw [empty]; linarith)
  have entries : (sums.entries.map fun entry => |entry.2.toRat| + 6).sum = realizedSize sums :=
    OrderedMap.sum_entries (fun pnl : Decimal => |pnl.toRat|) 6 sums
  obtain ⟨final, joined, finalSize⟩ := foldlM_grows size
    (fun entry : Date × Decimal => |entry.2.toRat| + 6) (fun entry => by positivity)
    (fun _ _ small => addEquity_exists small) sums.entries days (by rw [entries]; linarith)
  refine ⟨final, ?_, by linarith⟩
  rw [ofLines, filled, ok_bind, realizedByDate, ran, ok_bind]
  dsimp only
  rw [added, ok_bind, joined]

end DailyFlows

namespace Curve

variable {policy : ShortSales} {lines : List LedgerLine} {scope : Scope}

/-- Lines from imported rows have a curve, or they are strained and a quotient or product
overflows. -/
theorem realized_answers (few : lines.length < 10 ^ 12) (moderate : ∀ line ∈ lines, line.Moderate (1 / 10 ^ 28)) :
    (Book.Unstrained policy ∅ (equityByDate (linesIn scope lines)) ∧
      ∃ curve, realized policy lines scope = .ok curve) ∨
    (¬Book.Unstrained policy ∅ (equityByDate (linesIn scope lines)) ∧
      ∃ fault : Fault, fault.ofScaling ∧ realized policy lines scope = .error fault) := by
  have inside : ∀ line ∈ linesIn scope lines, line.Moderate (1 / 10 ^ 28) := fun line member =>
    moderate line (List.mem_of_mem_filter member)
  have fewer : (linesIn scope lines).length ≤ 10 ^ 12 := (List.length_filter_le ..).trans few.le
  rw [realized]
  generalize linesIn scope lines = chosen at *
  have shorter := length_equityByDate_le chosen
  have dated : ∀ dated ∈ equityByDate chosen, dated.line.Moderate (1 / 10 ^ 28) := fun dated member =>
    inside dated.line (line_of_mem_equityByDate member)
  rcases Book.postAll_answers (k := 0) (Book.within_empty (by norm_num)) (by omega) dated with
    ⟨free, book, gained, ran, sums⟩ | ⟨strained, fault, scaling, overflows⟩
  · have costs : 0 ≤ book.costs := (abs_nonneg _).trans (book.abs_cost_le ⟨"", ""⟩)
    have short : ((equityByDate chosen).length : ℚ) ≤ chosen.length := by exact_mod_cast shorter
    have start : Book.costs ∅ = 0 := rfl
    obtain ⟨days, filled, size⟩ := DailyFlows.ofLines_exists fewer (fun line member => (inside line member).amount) ran
      ((Book.length_realized_le ran).trans shorter) (by rw [start] at sums; linarith)
    obtain ⟨curve, drawn⟩ := accumulate_exists .zero days.entries (by
      rw [OrderedMap.sum_entries, Flows.weight_zero]
      rw [DailyFlows.size] at size
      linarith)
    exact .inl ⟨free, curve, by rw [filled, ok_bind, drawn]⟩
  · obtain ⟨days, filled, _⟩ := DailyFlows.addLines_exists fewer fun line member => (inside line member).amount
    refine .inr ⟨strained, fault, scaling, ?_⟩
    rw [DailyFlows.ofLines, filled, ok_bind, realizedByDate, Book.run, overflows]
    rfl

/-- Fewer than a million millions of imported rows have a curve exactly where no line is strained at
the holding that it comes to. Where they have none a quotient or a product is too large; no sum or
difference ever is. -/
theorem reconstruct_exists_iff (policy : ShortSales) {rows : List ImportedRow} (few : rows.length < 10 ^ 12)
    (scope : Scope) (today : Date) :
    ((∃ curve, reconstruct policy (rows.map ImportedRow.toLine) [] scope today = .ok curve) ↔
      Book.Unstrained policy ∅ (equityByDate (linesIn scope (rows.map ImportedRow.toLine)))) ∧
    ∀ fault, reconstruct policy (rows.map ImportedRow.toLine) [] scope today = .error fault → fault.ofScaling := by
  have moderate : ∀ line ∈ rows.map ImportedRow.toLine, line.Moderate (1 / 10 ^ 28) := by
    intro line member
    obtain ⟨row, _, rfl⟩ := List.mem_map.mp member
    exact row.toLine_moderate
  rw [reconstruct_nil]
  rcases realized_answers (by rwa [List.length_map]) moderate with
    ⟨free, curve, drawn⟩ | ⟨strained, fault, scaling, overflows⟩
  · refine ⟨⟨fun _ => free, fun _ => ⟨curve, drawn⟩⟩, ?_⟩
    intro fault failed
    rw [drawn] at failed
    cases failed
  · refine ⟨⟨?_, fun free => absurd free strained⟩, ?_⟩
    · rintro ⟨curve, drawn⟩
      rw [overflows] at drawn
      cases drawn
    · intro other failed
      rw [overflows] at failed
      cases failed
      exact scaling

/-- A row about shares of one account and symbol. -/
def importedShares (date action : String) (quantity amount : Binary64) : ImportedRow where
  account := some "A"
  symbol := some "X"
  contract := none
  instrument := some "equity"
  date := some date
  action := some action
  quantity := some quantity
  amount := some amount

/-- A hundred million millionth of a share bought for the largest amount, and a sale the day after.
Both rows are within the limit of the ledger, but the cost per share is not within that of decimals. -/
def thinRows : List ImportedRow :=
  [importedShares "2024-01-02" "buy" (.ofRatio false 1 (10 ^ 14)) (.ofRatio true (10 ^ 15) 1),
    importedShares "2024-01-03" "sell" (.ofRatio false 1 1) (.ofRatio false 1 1)]

theorem thin_rows_abort : reconstruct .proceedsAsPnl (thinRows.map ImportedRow.toLine) [] .all
    ⟨739066, by decide, by decide⟩ = .error (.overflow .division) := by
  decide +kernel

theorem thin_rows_have_no_curve : thinRows.length < 10 ^ 12 ∧ ¬∃ curve,
    reconstruct .trackInventory (thinRows.map ImportedRow.toLine) [] .all ⟨739066, by decide, by decide⟩ =
      .ok curve := by
  have few : thinRows.length < 10 ^ 12 := by decide
  refine ⟨few, ?_⟩
  intro drawn
  have free := (reconstruct_exists_iff .trackInventory few .all ⟨739066, by decide, by decide⟩).1.mp drawn
  exact absurd free (by decide +kernel)

end Curve

end TradeLedger
