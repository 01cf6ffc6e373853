import TradeLedger.Proofs.Series.ZeroSigns
import TradeLedger.Proofs.Store.Insertion
import TradeLedger.Proofs.Store.Lines

/-! Lines stored and read back. A line takes its place among the lines that are there, which are read as before. A
line that was made from an imported row is read as it was in every field, whatever the texts of the row, so that rows
are brought into their normal form once, and storing them changes nothing more. -/
namespace TradeLedger

open Decimal

/-- Two lines agree in every field, where amounts agree if they write one number. -/
structure LedgerLine.SameFigures (line other : LedgerLine) : Prop where
  account : line.account = other.account
  symbol : line.symbol = other.symbol
  contract : line.contract = other.contract
  instrument : line.instrument = other.instrument
  date : line.date = other.date
  action : line.action = other.action
  quantity : SameValue line.quantity other.quantity
  amount : SameValue line.amount other.amount

theorem LedgerLine.withoutZeroSigns_sameFigures (line : LedgerLine) : line.withoutZeroSigns.SameFigures line where
  account := rfl
  symbol := rfl
  contract := rfl
  instrument := rfl
  date := rfl
  action := rfl
  quantity := withoutZeroSign_same line.quantity
  amount := withoutZeroSign_same line.amount

namespace Store.Database

variable {database : Database} {lines : List LedgerLine}

/-- A stored line that can be read is read in its place among the others, which stay as they are. -/
theorem tradeLines_insertLine {line back : LedgerLine} (room : database.lines.lastId < Table.greatestId)
    (listed : database.tradeLines .all = .ok lines) (read : (LineRow.ofLine line).read = .ok back) :
    ∃ after before behind, database.insertLine line = .ok (after, database.lines.lastId + 1) ∧
      lines = before ++ behind ∧ after.tradeLines .all = .ok (before ++ back :: behind) := by
  obtain ⟨after, stored, rows, _⟩ := insertLine_appends line room
  obtain ⟨front, rest, short, long⟩ :=
    (Ordered.Orders.of_compare (compareOn LineRow.date)).sortBy_concat database.lines.rows (.ofLine line)
  rw [tradeLines_all, orderBy, short, List.mapM_append] at listed
  obtain ⟨before, readFront, listed⟩ := bind_eq_ok.mp listed
  obtain ⟨behind, readRest, whole⟩ := bind_eq_ok.mp listed
  cases whole
  refine ⟨after, before, behind, stored, rfl, ?_⟩
  rw [tradeLines_all, orderBy, rows, long, List.mapM_append, List.mapM_cons, readFront, read, readRest]
  rfl

/-- The line of an imported row is read back as it was in every field, beside the lines that were there, whatever is
written in the row. Where no zero has a sign, which no cell keeps, it is the same to the last place. An action is the
one that its label stands for. -/
theorem normal_line_stored (row : ImportedRow) (room : database.lines.lastId < Table.greatestId)
    (listed : database.tradeLines .all = .ok lines) (quantity : row.toLine.quantity.Survives)
    (amount : row.toLine.amount.Survives) :
    (∃ after back before behind, database.insertLine row.toLine = .ok (after, database.lines.lastId + 1) ∧
      lines = before ++ behind ∧ after.tradeLines .all = .ok (before ++ back :: behind) ∧
      back.SameFigures row.toLine ∧ (row.toLine.withoutZeroSigns = row.toLine → back = row.toLine)) ∧
    ∀ label, Action.ofLabel (Action.ofLabel label).label = Action.ofLabel label := by
  refine ⟨?_, Action.ofLabel_label_ofLabel⟩
  have read := LineRow.read_ofLine row quantity amount
  obtain ⟨after, before, behind, stored, divided, listed⟩ := tradeLines_insertLine room listed read
  exact ⟨after, _, before, behind, stored, divided, listed, row.toLine.withoutZeroSigns_sameFigures, id⟩

/-- A row with blanks around every text, a symbol that grows in upper case, a blank contract, an unknown instrument,
an action of several words and a year of five digits. -/
def untidyRow (amount : Binary64) : ImportedRow :=
  ⟨some " A ", some "\t straße\u00A0", some "\u3000", some " Warrant ", some " +10000-1-2 ", some " Reverse  Split\t2 ",
    some (.ofRatio true 3 10), some amount⟩

/-- The row goes into an empty database with the amount -0, and then again with the amount 7. It is read as it was, in
the one case but for the sign. -/
theorem untidy_row_stored :
    ∃ once twice back, insertLine ∅ (untidyRow (.ofWord true 0)).toLine = .ok (once, 1) ∧
      once.tradeLines .all = .ok [back] ∧ back.SameFigures (untidyRow (.ofWord true 0)).toLine ∧
      once.insertLine (untidyRow (.ofInt 7)).toLine = .ok (twice, 2) ∧
      (twice.tradeLines .all = .ok [back, (untidyRow (.ofInt 7)).toLine] ∨
        twice.tradeLines .all = .ok [(untidyRow (.ofInt 7)).toLine, back]) ∧
      (untidyRow (.ofInt 7)).toLine = ⟨" A ", "STRASSE", "STRASSE", .other, Date.ofText? "+10000-01-02",
        .other "reverse__split\t2", ⟨true, 3, 1, by decide, by decide⟩, .ofCount 7⟩ := by
  obtain ⟨⟨once, back, before, behind, stored, divided, listed, same, _⟩, _⟩ :=
    @normal_line_stored ∅ [] (untidyRow (.ofWord true 0)) (by decide) rfl (by decide +kernel) (by decide +kernel)
  obtain ⟨rfl, rfl⟩ := List.nil_eq_append_iff.mp divided
  have second : once.lines.lastId = 1 := by
    obtain ⟨after, inserted, _, last⟩ := insertLine_appends (untidyRow (.ofWord true 0)).toLine
      (show (∅ : Database).lines.lastId < Table.greatestId by decide)
    cases stored.symm.trans inserted
    exact last
  obtain ⟨⟨twice, again, before, behind, stored', divided, listed', _, unsigned⟩, _⟩ :=
    @normal_line_stored once [back] (untidyRow (.ofInt 7)) (by rw [second]; decide) listed (by decide +kernel)
      (by decide +kernel)
  rw [second] at stored'
  rw [unsigned (by decide +kernel)] at listed'
  refine ⟨once, twice, back, stored, listed, same, stored', ?_, by decide +kernel⟩
  rcases List.singleton_eq_append_iff.mp divided with ⟨rfl, rfl⟩ | ⟨rfl, rfl⟩
  · exact .inr listed'
  · exact .inl listed'

end Store.Database

end TradeLedger
