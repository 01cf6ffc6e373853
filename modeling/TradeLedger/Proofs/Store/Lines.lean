import TradeLedger.Proofs.Calendar.Text
import TradeLedger.Proofs.Fault
import TradeLedger.Proofs.Ledger.Normal
import TradeLedger.Store.Rows

/-! Stored lines read back. Each column of a line that was made from an imported row is written in a form
that is read as what it was. A cell keeps no sign on a zero, and of the other amounts those come back that
the binary number near them is read as. -/
namespace TradeLedger

/-- The binary number near the decimal is read as the decimal again, but for the sign of a zero. -/
def Decimal.Survives (a : Decimal) : Prop := ofImported (some a.toBinary64.withoutZeroSign) = a.withoutZeroSign

instance (a : Decimal) : Decidable a.Survives := inferInstanceAs (Decidable (_ = _))

namespace Store

theorem ofWord_ne_nan (negative : Bool) (word : ℕ) : Binary64.ofWord negative word ≠ .nan := by
  unfold Binary64.ofWord
  split <;> exact Binary64.noConfusion

theorem read_amountCell (amount : Decimal) (column : String) :
    (amountCell amount).read column = .ok (some amount.toBinary64.withoutZeroSign) := by
  have number : amount.toBinary64 ≠ .nan := ofWord_ne_nan _ _
  unfold amountCell
  cases stored : amount.toBinary64 with
  | nan => exact absurd stored number
  | infinite negative => rfl
  | finite negative word => rfl

theorem readDate_dateCell (date : Option Date) : readDate (dateCell date) = date := by
  cases date with
  | none => rfl
  | some date => simp only [readDate, dateCell, Option.map_some, Option.bind_some, Date.ofText?_toText]

/-- The stored line of an imported row is read as the line again, but for the signs of zeros. -/
theorem LineRow.read_ofLine (row : ImportedRow) (quantity : row.toLine.quantity.Survives)
    (amount : row.toLine.amount.Survives) : (ofLine row.toLine).read = .ok row.toLine.withoutZeroSigns := by
  have symbol := ImportedRow.normalizeSymbol_normalizeSymbol row.symbol
  have contract := ImportedRow.contractOr_contractOr (ImportedRow.trimmed_normalizeSymbol row.symbol) row.contract
  have instrument := ImportedRow.instrumentOf_name (ImportedRow.instrumentOf row.instrument)
  have date : (dateCell (row.date.bind Date.ofText?)).bind Date.ofText? = row.date.bind Date.ofText? :=
    readDate_dateCell _
  have action := Action.ofLabel_label_ofLabel (row.action.getD "")
  simp only [Decimal.Survives, ImportedRow.toLine] at quantity amount
  simp only [read, ofLine, read_amountCell, ok_bind, ImportedRow.toLine, LedgerLine.withoutZeroSigns, Option.getD_some,
    symbol, contract, instrument, date, action, quantity, amount]
  rfl

end Store

end TradeLedger
