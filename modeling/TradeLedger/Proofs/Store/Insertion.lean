import TradeLedger.Proofs.Fault
import TradeLedger.Proofs.Ordered.Map
import TradeLedger.Proofs.Ordered.Sort
import TradeLedger.Store.Database

/-! Lines and journal entries stored one after the other. Every row goes behind the rows of its table, and there is
room for as many as there are numbers. A query lists the lines by the text of their dates; lines whose dates are
written alike come back in the order in which they were stored, and so do all entries of the journal. -/
namespace TradeLedger

/-- An entry above all others goes to the end. -/
theorem OrderedMap.insertEntry_of_above {κ α : Type} [Ord κ] {key : κ} (value : α) {entries : List (κ × α)}
    (above : ∀ entry ∈ entries, compare key entry.1 = .gt) :
    insertEntry key value entries = entries ++ [(key, value)] := by
  induction entries with
  | nil => rfl
  | cons first entries ih =>
    rw [insertEntry, above first List.mem_cons_self]
    exact congrArg (first :: ·) (ih fun entry member => above entry (List.mem_cons_of_mem first member))

namespace Store

section Tables

variable {ρ : Type} {table : Table ρ}

/-- A row under the next number goes behind the others. -/
theorem Table.rows_set_next (table : Table ρ) (row : ρ) :
    (table.set (table.lastId + 1) row).rows = table.rows ++ [row] := by
  have above : ∀ entry ∈ table.numbered.entries, compare (table.lastId + 1) entry.1 = .gt := by
    intro entry member
    have below := table.le_lastId entry member
    exact compare_gt_iff_gt.mpr (by omega)
  have behind := OrderedMap.insertEntry_of_above row above
  simp only [rows, set, OrderedMap.values, OrderedMap.insert, behind, List.map_append, List.map_singleton]

/-- While there are numbers left, a row goes behind the others. -/
theorem Table.insert_appends (room : table.lastId < greatestId) (row : ρ) :
    ∃ after, table.insert row = .ok (after, table.lastId + 1) ∧ after.rows = table.rows ++ [row] ∧
      after.lastId = table.lastId + 1 := by
  refine ⟨table.set (table.lastId + 1) row, if_pos room, table.rows_set_next row, ?_⟩
  exact max_eq_right (by omega)

/-- The table of rows numbered from one. -/
def Table.ofRows (rows : List ρ) : Table ρ :=
  rows.foldl (fun table row => table.set (table.lastId + 1) row) ∅

theorem Table.rows_ofRows (rows : List ρ) : (ofRows rows).rows = rows := by
  have onto : ∀ table : Table ρ,
      (rows.foldl (fun table row => table.set (table.lastId + 1) row) table).rows = table.rows ++ rows := by
    induction rows with
    | nil => simp
    | cons row rows ih =>
      intro table
      rw [List.foldl_cons, ih, rows_set_next, List.append_assoc, List.singleton_append]
  exact onto ∅

end Tables

namespace Database

variable {database : Database}

/-- Records stored one after the other, each of them behind the others while there are numbers left, stand behind the
rows that were there, in their order. -/
theorem foldlM_appends {α ρ : Type} (table : Database → Table ρ) {row : α → ρ}
    {store : Database → α → Except Error Database}
    (appends : ∀ database x, (table database).lastId < Table.greatestId → ∃ after, store database x = .ok after ∧
      (table after).rows = (table database).rows ++ [row x] ∧ (table after).lastId = (table database).lastId + 1)
    {xs : List α} (room : (table database).lastId + xs.length ≤ Table.greatestId) :
    ∃ after, xs.foldlM store database = .ok after ∧ (table after).rows = (table database).rows ++ xs.map row := by
  induction xs generalizing database with
  | nil => exact ⟨database, rfl, (List.append_nil _).symm⟩
  | cons x xs ih =>
    rw [List.length_cons, Nat.cast_succ] at room
    obtain ⟨longer, stored, rows, last⟩ := appends database x (by omega)
    have left : (table longer).lastId + xs.length ≤ Table.greatestId := by omega
    obtain ⟨after, others, behind⟩ := ih left
    refine ⟨after, by rw [List.foldlM_cons, stored, ok_bind, others], ?_⟩
    rw [behind, rows, List.append_assoc, List.map_cons, List.singleton_append]

/-- A line goes behind the others while there are numbers left. -/
theorem insertLine_appends (line : LedgerLine) (room : database.lines.lastId < Table.greatestId) :
    ∃ after, database.insertLine line = .ok (after, database.lines.lastId + 1) ∧
      after.lines.rows = database.lines.rows ++ [.ofLine line] ∧ after.lines.lastId = database.lines.lastId + 1 := by
  obtain ⟨longer, stored, rows, last⟩ := database.lines.insert_appends room (.ofLine line)
  refine ⟨{ database with lines := longer }, ?_, rows, last⟩
  rw [insertLine, insertLineRow, stored]
  rfl

/-- Lines stored one after the other. -/
def insertLines (database : Database) (lines : List LedgerLine) : Except Error Database :=
  lines.foldlM (fun database line => (database.insertLine line).map Prod.fst) database

/-- The rows of the lines stand behind those that were there, in their order. -/
theorem insertLines_appends {lines : List LedgerLine}
    (room : database.lines.lastId + lines.length ≤ Table.greatestId) :
    ∃ after, database.insertLines lines = .ok after ∧
      after.lines.rows = database.lines.rows ++ lines.map LineRow.ofLine := by
  refine foldlM_appends Database.lines (fun database line room => ?_) room
  obtain ⟨after, stored, behind⟩ := insertLine_appends line room
  exact ⟨after, by rw [stored]; rfl, behind⟩

/-- Journal entries stored one after the other. -/
def insertEntries (database : Database) (entries : List JournalEntry) : Except Error Database :=
  entries.foldlM (fun database entry => (database.insertEntry entry).map Prod.fst) database

/-- The rows of the entries stand behind those that were there, in their order. -/
theorem insertEntries_appends {entries : List JournalEntry}
    (room : database.journal.lastId + entries.length ≤ Table.greatestId) :
    ∃ after, database.insertEntries entries = .ok after ∧
      after.journal.rows = database.journal.rows ++ entries.map JournalRow.ofEntry := by
  refine foldlM_appends Database.journal (fun database entry room => ?_) room
  obtain ⟨longer, stored, behind⟩ := database.journal.insert_appends room (.ofEntry entry)
  refine ⟨{ database with journal := longer }, ?_, behind⟩
  rw [insertEntry, stored]
  rfl

/-- The database with these ledger rows and no others. -/
def ofLineRows (rows : List LineRow) : Database := { (∅ : Database) with lines := .ofRows rows }

@[simp] theorem rows_ofLineRows (rows : List LineRow) : (ofLineRows rows).lines.rows = rows := Table.rows_ofRows rows

/-- Nothing is left out for the reader of all accounts. -/
theorem select_all {ρ : Type} {others : Nat} (room : others ≤ mostVariables) (account : ρ → TextCell)
    (rows : List ρ) : select others .all account rows = .ok rows := by
  have every : rows.filter (fun row => admits .all (account row)) = rows := List.filter_eq_self.mpr fun _ _ => rfl
  rw [select, every]
  exact if_pos room

/-- All lines of the ledger, by the text of their dates. -/
theorem tradeLines_all (database : Database) :
    database.tradeLines .all = (orderBy (compareOn LineRow.date) database.lines.rows).mapM LineRow.read := by
  rw [tradeLines, select_all (Nat.zero_le _), ok_bind]

/-- All entries of the journal, in the order of their rows. -/
theorem journalEntries_all (database : Database) :
    database.journalEntries .all = .ok (database.journal.rows.map JournalRow.read) := by
  rw [journalEntries, select_all (Nat.zero_le _), ok_bind]
  rfl

end Database

end Store

end TradeLedger
