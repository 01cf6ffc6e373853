import TradeLedger.Proofs.Inventory.Separation

/-! Runs taken up again. If no line of a ledger is to be posted before one of the ledger in front of it,
both are posted one after the other, so the book that the first leaves is all that has to be kept to go
on with the second: nothing is posted twice, and nothing is realized otherwise. -/
namespace TradeLedger

/-- No dated equity line of the first ledger is later than one of the second. -/
def EquityPrecedes (earlier later : List LedgerLine) : Prop :=
  ∀ first ∈ earlier, ∀ second ∈ later, first.instrument = .equity → second.instrument = .equity →
    ∀ date ∈ first.date, ∀ date' ∈ second.date, date ≤ date'

instance (earlier later : List LedgerLine) : Decidable (EquityPrecedes earlier later) :=
  inferInstanceAs (Decidable (∀ first ∈ earlier, ∀ second ∈ later, _ → _ → ∀ date ∈ first.date,
    ∀ date' ∈ second.date, date ≤ date'))

/-- Ledgers that follow each other are posted one after the other; lines of the day on which they meet
stay in the order of the ledgers. -/
theorem equityByDate_append {earlier later : List LedgerLine} (seam : EquityPrecedes earlier later) :
    equityByDate (earlier ++ later) = equityByDate earlier ++ equityByDate later := by
  have ordered : ∀ first ∈ earlier.filterMap DatedLine.ofEquity?, ∀ second ∈ later.filterMap DatedLine.ofEquity?,
      decide (first.date ≤ second.date) = true := by
    intro first listed second listed'
    obtain ⟨line, member, equity⟩ := List.mem_filterMap.mp listed
    obtain ⟨next, member', equity'⟩ := List.mem_filterMap.mp listed'
    exact decide_eq_true (seam line member next member' (DatedLine.instrument_of_equity equity)
      (DatedLine.instrument_of_equity equity') _ (DatedLine.date_of_equity equity) _ (DatedLine.date_of_equity equity'))
  rw [equityByDate, List.filterMap_append, Ordered.sortBy_append ordered]
  rfl

namespace Book

/-- A run can be taken up again. From any book and with both policies, a ledger and one that follows it
fault together exactly where the first faults or the second does from the book that the first leaves,
and with the same fault; otherwise they leave the book that the second leaves, and realize what the
first realizes and then what the second does. -/
theorem run_resumes (policy : ShortSales) (book : Book) {earlier later : List LedgerLine}
    (seam : EquityPrecedes earlier later) :
    (∀ fault, run policy book (earlier ++ later) = .error fault ↔
      run policy book earlier = .error fault ∨
        ∃ between early, run policy book earlier = .ok (between, early) ∧ run policy between later = .error fault) ∧
    ∀ final realized, run policy book (earlier ++ later) = .ok (final, realized) ↔
      ∃ between early late, run policy book earlier = .ok (between, early) ∧
        run policy between later = .ok (final, late) ∧ realized = early ++ late := by
  -- Sorted by date the ledgers stay one behind the other, and posting goes through the first of them.
  have posted : run policy book (earlier ++ later) =
      postAll policy book (equityByDate earlier ++ equityByDate later) := by
    rw [run, equityByDate_append seam]
  rw [posted]
  exact ⟨fun fault => postAll_append_eq_error, fun final realized => postAll_append_eq_ok⟩

/-- Shares sold and bought, listed against the order of their days, and a sale without a date. -/
def openingLines : List LedgerLine :=
  [⟨"A", "X", "X", .equity, Date.ofDayNumber? 3, .sell, .ofUInt32 4, .ofUInt32 40⟩,
    ⟨"A", "X", "X", .equity, Date.ofDayNumber? 1, .buy, .ofUInt32 3, .ofUInt32 24⟩,
    ⟨"A", "X", "X", .equity, none, .sell, .ofUInt32 9, .ofUInt32 90⟩]

/-- More of them on the last of these days, after a dividend of an earlier one. -/
def followingLines : List LedgerLine :=
  [⟨"A", "X", "X", .dividend, Date.ofDayNumber? 2, .dividend, .zero, .ofUInt32 1⟩,
    ⟨"A", "x", "X", .equity, Date.ofDayNumber? 5, .sell, .ofUInt32 1, .ofUInt32 12⟩,
    ⟨"A", "X", "X", .equity, Date.ofDayNumber? 3, .buy, .ofUInt32 4, .ofUInt32 30⟩]

/-- A share of account A is owed. -/
def oneShareOwed : Book := OrderedMap.insert ∅ ⟨"A", "X"⟩ ⟨(Decimal.ofUInt32 1).neg, .ofUInt32 9⟩

theorem following_lines_resume : EquityPrecedes openingLines followingLines ∧
    ∃ between early final late, early.length = 2 ∧ late.length = 2 ∧
      run .trackInventory oneShareOwed openingLines = .ok (between, early) ∧
      run .trackInventory between followingLines = .ok (final, late) ∧
      run .trackInventory oneShareOwed (openingLines ++ followingLines) = .ok (final, early ++ late) := by
  have seam : EquityPrecedes openingLines followingLines := by decide +kernel
  obtain ⟨_, resumes⟩ := run_resumes .trackInventory oneShareOwed seam
  obtain ⟨⟨final, realized⟩, ran⟩ := exists_of_isOk
    (show (run .trackInventory oneShareOwed (openingLines ++ followingLines)).isOk by decide +kernel)
  obtain ⟨between, early, late, begun, ended, rfl⟩ := (resumes final realized).mp ran
  have opened : (run .trackInventory oneShareOwed openingLines).map (·.2.length) = .ok 2 := by decide +kernel
  have all : (run .trackInventory oneShareOwed (openingLines ++ followingLines)).map (·.2.length) = .ok 4 := by
    decide +kernel
  rw [begun] at opened
  rw [ran] at all
  have two : early.length = 2 := Except.ok.inj opened
  have four : (early ++ late).length = 4 := Except.ok.inj all
  rw [List.length_append, two] at four
  exact ⟨seam, between, early, final, late, two, by omega, begun, ended, ran⟩

end Book

end TradeLedger
