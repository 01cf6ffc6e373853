import Mathlib.Data.List.Forall2
import Mathlib.Data.Option.Basic
import TradeLedger.Store.Disk

/-! What a reader with a list of accounts sees of a database. Databases look the same to it if the rows of
those accounts are the same in the same order; their numbers may differ, and so may all other rows, those
without an account and those that could not be read among them. Every query then has the same answer.
Disks look the same if databases that do are in the same files, and an address then leads to such a
pair, or nowhere for the same reason. -/
namespace TradeLedger.Store

/-- The computations have related answers, or they fail alike. -/
inductive Alike {ε α β : Type} (related : α → β → Prop) : Except ε α → Except ε β → Prop
  | ok {a : α} {b : β} (same : related a b) : Alike related (.ok a) (.ok b)
  | error (cause : ε) : Alike related (.error cause) (.error cause)

namespace Alike

variable {ε ε' α β γ : Type} {related : α → β → Prop} {first : Except ε α} {second : Except ε β}

theorem of_refl {related : α → α → Prop} (refl : ∀ a, related a a) (answer : Except ε α) :
    Alike related answer answer := by
  cases answer with
  | error cause => exact .error cause
  | ok a => exact .ok (refl a)

/-- After a common step, computations are alike that are so on its answer. -/
theorem after (step : Except ε γ) {next : γ → Except ε α} {next' : γ → Except ε β}
    (alike : ∀ c, Alike related (next c) (next' c)) : Alike related (step >>= next) (step >>= next') := by
  cases step with
  | error cause => exact .error cause
  | ok c => exact alike c

theorem mapError (alike : Alike related first second) (f : ε → ε') :
    Alike related (first.mapError f) (second.mapError f) := by
  cases alike with
  | ok same => exact .ok same
  | error cause => exact .error (f cause)

/-- Continuations that do not tell related answers apart give one result. -/
theorem bind_eq (alike : Alike related first second) {next : α → Except ε γ} {next' : β → Except ε γ}
    (same : ∀ a b, related a b → next a = next' b) : (first >>= next) = (second >>= next') := by
  cases alike with
  | ok answers => exact same _ _ answers
  | error cause => rfl

end Alike

/-- The rows of the listed accounts in the order of their numbers. -/
def Table.rowsOf {ρ : Type} (listed : List String) (account : ρ → TextCell) (table : Table ρ) : List ρ :=
  table.rows.filter fun row => (account row).any fun name => name ∈ listed

namespace Database

variable {listed : List String} {database other : Database}

/-- The rows of the listed accounts are the same, in the same order. -/
structure SameFor (listed : List String) (database other : Database) : Prop where
  lines : database.lines.rowsOf listed LineRow.account = other.lines.rowsOf listed LineRow.account
  positions : database.positions.rowsOf listed PositionRow.account = other.positions.rowsOf listed PositionRow.account
  groups : database.groups.rowsOf listed GroupRow.account = other.groups.rowsOf listed GroupRow.account
  journal : database.journal.rowsOf listed JournalRow.account = other.journal.rowsOf listed JournalRow.account

instance : Decidable (SameFor listed database other) :=
  decidable_of_iff (_ ∧ _ ∧ _ ∧ _)
    ⟨fun ⟨lines, positions, groups, journal⟩ => ⟨lines, positions, groups, journal⟩,
      fun ⟨lines, positions, groups, journal⟩ => ⟨lines, positions, groups, journal⟩⟩

theorem SameFor.refl (database : Database) : database.SameFor listed database := ⟨rfl, rfl, rfl, rfl⟩

/-- A list admits the rows of its accounts. -/
theorem admits_only (listed : List String) (account : TextCell) :
    admits (.only listed) account = account.any fun name => name ∈ listed := by
  cases account with
  | none => rfl
  | some name => exact List.contains_eq_mem name listed

/-- A list selects the rows of its accounts, unless it is too long. -/
theorem select_only {ρ : Type} (others : Nat) (account : ρ → TextCell) (rows : List ρ) :
    select others (.only listed) account rows =
      if others + listed.length ≤ mostVariables then
        .ok (rows.filter fun row => (account row).any fun name => name ∈ listed)
      else .error .tooManyVariables := by
  simp only [select, accountVariables, admits_only]

namespace SameFor

theorem tradeLines (same : database.SameFor listed other) :
    database.tradeLines (.only listed) = other.tradeLines (.only listed) := by
  have rows := same.lines
  unfold Table.rowsOf at rows
  rw [Database.tradeLines, Database.tradeLines, select_only, select_only, rows]

theorem openPositions (same : database.SameFor listed other) :
    database.openPositions (.only listed) = other.openPositions (.only listed) := by
  have rows := same.positions
  unfold Table.rowsOf at rows
  rw [Database.openPositions, Database.openPositions, select_only, select_only, rows]

theorem closedGroups (same : database.SameFor listed other) :
    database.closedGroups (.only listed) = other.closedGroups (.only listed) := by
  have rows := same.groups
  unfold Table.rowsOf at rows
  rw [Database.closedGroups, Database.closedGroups, select_only, select_only, List.filter_comm, rows, List.filter_comm]

theorem openDates (same : database.SameFor listed other) :
    database.openDates (.only listed) = other.openDates (.only listed) := by
  have rows := same.groups
  unfold Table.rowsOf at rows
  rw [Database.openDates, Database.openDates, select_only, select_only, rows]

theorem journalEntries (same : database.SameFor listed other) :
    database.journalEntries (.only listed) = other.journalEntries (.only listed) := by
  have rows := same.journal
  unfold Table.rowsOf at rows
  rw [Database.journalEntries, Database.journalEntries, select_only, select_only, rows]

end SameFor

end Database

namespace Disk

variable {listed : List String} {disk other : Disk}

/-- The disks have the same folders, and in the same files databases that look the same. -/
structure SameFor (listed : List String) (disk other : Disk) : Prop where
  workingFolder : disk.workingFolder = other.workingFolder
  folders : disk.folders = other.folders
  files : List.Forall₂ (fun file file' => file.1 = file'.1 ∧ Database.SameFor listed file.2 file'.2)
    disk.files other.files

namespace SameFor

theorem find? (same : disk.SameFor listed other) (path : Path) :
    Option.Rel (Database.SameFor listed) (disk.find? path) (other.find? path) := by
  have files := same.files
  rw [Disk.find?, Disk.find?]
  generalize disk.files = left, other.files = right at files
  induction files with
  | nil => exact .none
  | @cons file file' left right pair rest ih =>
    rw [List.find?_cons, List.find?_cons, pair.1]
    cases file'.1 == path with
    | true => exact .some pair.2
    | false => exact ih

theorem isFolder (same : disk.SameFor listed other) (path : Path) : disk.isFolder path = other.isFolder path := by
  rw [Disk.isFolder, Disk.isFolder, same.workingFolder, same.folders]

theorem step (same : disk.SameFor listed other) (path : Path) (name : List UInt8) :
    disk.step path name = other.step path name := by
  have inUse (next : Path) : (disk.find? next).isSome = (other.find? next).isSome := by
    have found := same.find? next
    generalize disk.find? next = left, other.find? next = right at found
    cases found <;> rfl
  simp only [Disk.step, inUse]

theorem resolve (same : disk.SameFor listed other) (name : List UInt8) : disk.resolve name = other.resolve name := by
  rw [Disk.resolve, Disk.resolve, same.workingFolder, funext fun path => funext (same.step path)]

theorem make (same : disk.SameFor listed other) (location : Location) (path : Path) :
    disk.make location path = other.make location path := by
  rw [Disk.make, Disk.make, same.isFolder]

/-- The same new file on both disks makes no difference between them. -/
theorem addFile (same : disk.SameFor listed other) (path : Path) (database : Database) :
    SameFor listed { disk with files := (path, database) :: disk.files }
      { other with files := (path, database) :: other.files } where
  workingFolder := same.workingFolder
  folders := same.folders
  files := .cons ⟨rfl, .refl database⟩ same.files

/-- An address leads to databases that look the same. -/
theorem openAt (same : disk.SameFor listed other) (address : String) :
    Alike (Database.SameFor listed) (disk.openAt address) (other.openAt address) := by
  rw [Disk.openAt, Disk.openAt]
  refine .after _ fun location => ?_
  cases location.place with
  | memory isShared => exact .of_refl Database.SameFor.refl _
  | file name =>
    dsimp only
    rw [same.resolve]
    refine .after _ fun path => ?_
    rw [same.isFolder]
    split
    case isTrue => exact .error _
    case isFalse =>
      split
      case isTrue => exact .of_refl Database.SameFor.refl _
      case isFalse =>
        have found := same.find? path
        generalize disk.find? path = left, other.find? path = right at found
        cases found with
        | some databases => exact .ok databases
        | none =>
          dsimp only
          rw [same.make]
          refine .after _ fun database => ?_
          rw [(same.addFile path database).resolve]
          exact .of_refl Database.SameFor.refl _

end SameFor

end Disk

end TradeLedger.Store
