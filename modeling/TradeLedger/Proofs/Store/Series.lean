import TradeLedger.Proofs.Series.Days
import TradeLedger.Proofs.Series.ZeroSigns
import TradeLedger.Proofs.Store.Insertion
import TradeLedger.Proofs.Store.Lines

/-! Curves of a stored ledger. The store lists the lines by the text of their dates, which is not the order
of the days before the year 0 or after the year 9999, and puts those without a date first. Yet the lines of a
day are stored under one text and come back in their order, and the curves depend on nothing else, so they
are those of the lines that went in. -/
namespace TradeLedger.Store

/-- Lines of one day are stored under one text. -/
theorem LineRow.isLE_of_level {line other : LedgerLine} (level : line.date = other.date) :
    (compareOn LineRow.date (ofLine line) (ofLine other)).isLE := by
  have same : (ofLine line).date = (ofLine other).date := congrArg dateCell level
  rw [compareOn, same]
  exact Ordering.isLE_of_eq_eq Std.ReflCmp.compare_self

namespace Database

/-- Lines that were made from imported rows go into an empty database, if there are numbers for them, and
come out again with the lines of each day in their order. -/
theorem tradeLines_insertLines {rows : List ImportedRow} (room : (rows.length : ℤ) ≤ Table.greatestId)
    (survive : ∀ row ∈ rows, row.toLine.quantity.Survives ∧ row.toLine.amount.Survives) :
    ∃ database stored, insertLines ∅ (rows.map ImportedRow.toLine) = .ok database ∧
      database.tradeLines .all = .ok stored ∧
      SameOnEachDay stored ((rows.map ImportedRow.toLine).map LedgerLine.withoutZeroSigns) := by
  have space : (∅ : Database).lines.lastId + (rows.map ImportedRow.toLine).length ≤ Table.greatestId := by
    have fresh : (∅ : Database).lines.lastId = 0 := rfl
    rwa [fresh, zero_add, List.length_map]
  obtain ⟨database, inserted, behind⟩ := insertLines_appends space
  let byText (row other : ImportedRow) : Bool :=
    (compareOn LineRow.date (LineRow.ofLine row.toLine) (LineRow.ofLine other.toLine)).isLE
  let back (row : ImportedRow) : LedgerLine := row.toLine.withoutZeroSigns
  have ordered : orderBy (compareOn LineRow.date) database.lines.rows =
      (Ordered.sortBy byText rows).map fun row => LineRow.ofLine row.toLine := by
    have stored : database.lines.rows = rows.map fun row => LineRow.ofLine row.toLine := by
      rw [behind, List.map_map]
      rfl
    rw [stored, orderBy, Ordered.sortBy_map]
  have read : database.tradeLines .all = .ok ((Ordered.sortBy byText rows).map back) := by
    rw [tradeLines_all, ordered, List.mapM_map]
    refine mapM_eq_ok fun row member => ?_
    obtain ⟨quantity, amount⟩ := survive row (Ordered.mem_sortBy.mp member)
    rw [Function.comp_apply]
    exact LineRow.read_ofLine row quantity amount
  refine ⟨database, _, inserted, read, fun date => ?_⟩
  -- Rows of one date may all precede one another, so sorting leaves their order.
  have level : ∀ row other : ImportedRow, decide ((back row).date = date) = true →
      decide ((back other).date = date) = true → byText row other = true := by
    intro row other own same
    rw [decide_eq_true_eq] at own same
    exact LineRow.isLE_of_level (own.trans same.symm)
  have kept := congrArg (List.map back) (Ordered.filter_sortBy_of_level level rows)
  rw [List.map_map, List.filter_map, List.filter_map]
  exact kept

/-- The curves of a stored ledger are those of the ledger. Where no amount is a zero with a sign, which no
cell keeps, they are the same to the last place, or the same fault; otherwise they show the same figures, or
neither ledger has a curve. -/
theorem reconstruct_stored (rows : List ImportedRow) (room : (rows.length : ℤ) ≤ Table.greatestId)
    (survive : ∀ row ∈ rows, row.toLine.quantity.Survives ∧ row.toLine.amount.Survives) :
    ∃ database stored, insertLines ∅ (rows.map ImportedRow.toLine) = .ok database ∧
      database.tradeLines .all = .ok stored ∧
      ∀ policy positions scope today,
        Agree Curve.SameFigures (Curve.reconstruct policy stored positions scope today)
          (Curve.reconstruct policy (rows.map ImportedRow.toLine) positions scope today) ∧
        ((∀ row ∈ rows, row.toLine.withoutZeroSigns = row.toLine) →
          Curve.reconstruct policy stored positions scope today =
            Curve.reconstruct policy (rows.map ImportedRow.toLine) positions scope today) := by
  obtain ⟨database, stored, inserted, read, days⟩ := tradeLines_insertLines room survive
  refine ⟨database, stored, inserted, read, fun policy positions scope today => ?_⟩
  rw [days.reconstruct]
  refine ⟨Curve.reconstruct_withoutZeroSigns policy _ positions scope today, fun unsigned => ?_⟩
  have same : (rows.map ImportedRow.toLine).map LedgerLine.withoutZeroSigns = rows.map ImportedRow.toLine := by
    rw [List.map_map]
    exact List.map_congr_left unsigned
  rw [same]

/-- Shares bought and sold again in the year 10000, a dividend on an unknown day, an option of the day of the
purchase, and last a sale before the year 0 of shares that are not held, for a zero with a sign. -/
def acrossYears : List ImportedRow :=
  [⟨some "A", some " xyz ", none, some "stock", some "01/02/2024", some "Buy", some (.ofInt 3),
      some (.ofRatio true 3 10)⟩,
    ⟨some "A", some "Xyz", some " ", some "ETF", some "+10000-01-03", some "sell short", some (.ofInt (-5)),
      some (.ofInt 2)⟩,
    ⟨some "A", some "XYZ", none, some "dividend", some "soon", none, none, some (.ofInt 1)⟩,
    ⟨some "A", some "ab", some "AB C 10", some "call", some "2024/01/02 10:00", some " SELL", some (.ofInt 1),
      some (.ofRatio false 1 10)⟩,
    ⟨some "A", some "ß", none, some "equity", some "-0001-12-31", some "sell", some (.ofInt 1), some (.ofWord true 0)⟩]

/-- The store lists these lines in another order. Their curve shows the same figures, and without the last of
them it is the same. -/
theorem across_years_stored :
    (∃ database stored, insertLines ∅ (acrossYears.map ImportedRow.toLine) = .ok database ∧
      database.tradeLines .all = .ok stored ∧ stored.map (·.symbol) = ["XYZ", "XYZ", "SS", "XYZ", "AB"] ∧
      ∃ curve curve', Curve.reconstruct .proceedsAsPnl stored [] .all ⟨9, by decide, by decide⟩ = .ok curve ∧
        Curve.reconstruct .proceedsAsPnl (acrossYears.map ImportedRow.toLine) [] .all ⟨9, by decide, by decide⟩ =
          .ok curve' ∧ curve.SameFigures curve') ∧
    ∃ database stored curve, insertLines ∅ (acrossYears.dropLast.map ImportedRow.toLine) = .ok database ∧
      database.tradeLines .all = .ok stored ∧
      Curve.reconstruct .trackInventory stored [] .all ⟨9, by decide, by decide⟩ = .ok curve ∧
      Curve.reconstruct .trackInventory (acrossYears.dropLast.map ImportedRow.toLine) [] .all
        ⟨9, by decide, by decide⟩ = .ok curve := by
  have survive : ∀ row ∈ acrossYears, row.toLine.quantity.Survives ∧ row.toLine.amount.Survives := by decide +kernel
  constructor
  · obtain ⟨database, stored, inserted, read, curves⟩ := reconstruct_stored acrossYears (by decide +kernel) survive
    have listed : ((insertLines ∅ (acrossYears.map ImportedRow.toLine)).toOption.bind fun database =>
        (database.tradeLines .all).toOption.map (·.map (·.symbol))) = some ["XYZ", "XYZ", "SS", "XYZ", "AB"] := by
      decide +kernel
    obtain ⟨curve', drawn⟩ := exists_of_isOk (show (Curve.reconstruct .proceedsAsPnl
      (acrossYears.map ImportedRow.toLine) [] .all ⟨9, by decide, by decide⟩).isOk by decide +kernel)
    have agree := (curves .proceedsAsPnl [] .all ⟨9, by decide, by decide⟩).1
    rw [drawn] at agree
    rcases agree.ok_or_error with ⟨curve, _, first, second, figures⟩ | ⟨_, _, _, failed⟩
    · cases second
      rw [inserted] at listed
      exact ⟨database, stored, inserted, read, by simpa [Except.toOption, read] using listed, curve, curve', first,
        drawn, figures⟩
    · cases failed
  · obtain ⟨database, stored, inserted, read, curves⟩ := reconstruct_stored acrossYears.dropLast (by decide +kernel)
      fun row member => survive row (List.mem_of_mem_dropLast member)
    obtain ⟨curve, drawn⟩ := exists_of_isOk (show (Curve.reconstruct .trackInventory
      (acrossYears.dropLast.map ImportedRow.toLine) [] .all ⟨9, by decide, by decide⟩).isOk by decide +kernel)
    have same := (curves .trackInventory [] .all ⟨9, by decide, by decide⟩).2 (by decide +kernel)
    exact ⟨database, stored, curve, inserted, read, same.trans drawn, drawn⟩

end Database

end TradeLedger.Store
