import TradeLedger.Ordered
import TradeLedger.Store.Cell

/-! Tables of numbered rows. Rows are numbered from one in the order in which they are
inserted; a row may also bring a number of its own, and later rows then count on from the
highest number given. Numbers have 64 bits, and after the highest of them none is left. -/
namespace TradeLedger.Store

/-- The rows by their numbers, and the highest number given so far. -/
structure Table (ρ : Type) where
  numbered : OrderedMap Int ρ
  lastId : Int
  le_lastId : ∀ entry ∈ numbered.entries, entry.1 ≤ lastId

namespace Table

variable {ρ : Type}

/-- The table without rows. -/
def empty : Table ρ := ⟨∅, 0, fun _ member => nomatch member⟩

instance : EmptyCollection (Table ρ) := ⟨empty⟩

/-- The rows in the order of their numbers. -/
def rows (table : Table ρ) : List ρ := table.numbered.values

/-- The table with a row under a number; a row that had the number is replaced. -/
def set (table : Table ρ) (id : Int) (row : ρ) : Table ρ where
  numbered := table.numbered.insert id row
  lastId := max table.lastId id
  le_lastId entry member := by
    rcases OrderedMap.mem_insertEntry member with rfl | old
    · exact Int.le_max_right ..
    · exact Int.le_trans (table.le_lastId entry old) (Int.le_max_left ..)

/-- The highest number that a row can have. -/
def greatestId : Int := IntegerBounds.signed64.greatest

/-- The table with one more row under the next number, and that number. -/
def insert (table : Table ρ) (row : ρ) : Except Error (Table ρ × Int) :=
  if table.lastId < greatestId then
    .ok (table.set (table.lastId + 1) row, table.lastId + 1)
  else .error .full

/-- The table with one more row under a number of its own. -/
def insertAt (table : Table ρ) (name : String) (id : Int) (row : ρ) :
    Except Error (Table ρ × Int) :=
  match table.numbered.get? id with
  | some _ => .error (.duplicateId name)
  | none => .ok (table.set id row, id)

end Table

/-- The row number that a value gives; null gives none. -/
def rowId? (value : Value) : Except Error (Option Int) :=
  match IntegerCell.ofValue value with
  | .null => .ok none
  | .integer n => .ok (some n)
  | .real _ | .text _ => .error .invalidId

end TradeLedger.Store
