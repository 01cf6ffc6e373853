import TradeLedger.Proofs.Store.Insertion

/-! Ledger rows as they are read. A cell without a number counts as zero, and so does one whose number is not
finite or past the limit of the ledger. Only text among the numbers cannot be read, and it is not passed over:
one such cell fails the query for every row. Where there is none, each row has its line, and changing the
numbers of one row changes no other line. -/
namespace TradeLedger.Store

namespace RealCell

/-- The number that a cell holds; neither nothing nor text is one. -/
def number? : RealCell → Option Binary64
  | .real x => some x
  | .null | .text _ => none

/-- Whether a cell of a column of numbers has kept text. -/
def isText : RealCell → Bool
  | .text _ => true
  | .null | .real _ => false

/-- The cell holds a number that the ledger accepts. -/
def IsAccepted : RealCell → Prop
  | .real (.finite _ word) => Binary64.units word ≤ Decimal.ledgerLimit * Binary64.unitsPerOne
  | .null | .real _ | .text _ => False

instance : DecidablePred IsAccepted
  | .real (.finite _ word) => inferInstanceAs (Decidable (Binary64.units word ≤ _))
  | .null | .real .nan | .real (.infinite _) | .text _ => .isFalse id

variable {cell : RealCell} {column : String}

theorem read_of_number (number : cell.isText = false) : cell.read column = .ok cell.number? := by
  cases cell with
  | null => rfl
  | real x => rfl
  | text written => cases number

theorem read_of_text (kept : cell.isText = true) : cell.read column = .error (.mismatch column .real .text) := by
  cases cell with
  | null => cases kept
  | real x => cases kept
  | text written => rfl

/-- Whatever is no accepted number counts as zero. -/
theorem ofImported_number? (refused : ¬cell.IsAccepted) : Decimal.ofImported cell.number? = .zero := by
  cases cell with
  | null => rfl
  | text written => rfl
  | real x =>
    cases x with
    | nan => rfl
    | infinite negative => rfl
    | finite negative word => exact if_neg refused

/-- A column of numbers keeps text that does not write one, and nothing else. -/
theorem isText_ofValue {value : Value} :
    (ofValue value).isText = true ↔ ∃ written, value = .text written ∧ Numeral.ofText? written = none := by
  have numbers : ∀ x, (ofBinary64 x).isText = false := fun x => by cases x <;> rfl
  cases value with
  | null => simp [ofValue, isText]
  | integer n => simp [ofValue, numbers]
  | real x => simp [ofValue, numbers]
  | text written =>
    cases known : Numeral.ofText? written with
    | none => simp [ofValue, known, isText]
    | some numeral => simp [ofValue, known, numbers]

end RealCell

namespace LineRow

/-- Neither of the row's numbers is text. -/
def IsReadable (row : LineRow) : Prop := row.quantity.isText = false ∧ row.amount.isText = false

instance (row : LineRow) : Decidable row.IsReadable := inferInstanceAs (Decidable (_ ∧ _))

/-- The line that a row stands for. -/
def line (row : LineRow) : LedgerLine :=
  ImportedRow.toLine {
    account := row.account
    symbol := row.symbol
    contract := row.contract
    instrument := row.instrument
    date := row.date
    action := row.action
    quantity := row.quantity.number?
    amount := row.amount.number? }

variable {row : LineRow}

theorem read_of_readable (readable : row.IsReadable) : row.read = .ok row.line := by
  simp only [read, RealCell.read_of_number readable.1, RealCell.read_of_number readable.2, ok_bind]
  rfl

/-- A row that cannot be read names the first of its numbers that is text. -/
theorem read_of_unreadable (unreadable : ¬row.IsReadable) :
    ∃ column, row.read = .error (.mismatch column .real .text) := by
  cases first : row.quantity.isText with
  | true => exact ⟨"quantity", by simp only [read, RealCell.read_of_text first]; rfl⟩
  | false =>
    have second : row.amount.isText = true := by simpa [IsReadable, first] using unreadable
    exact ⟨"amount", by simp only [read, RealCell.read_of_number first, RealCell.read_of_text second]; rfl⟩

theorem exists_read_iff : (∃ line, row.read = .ok line) ↔ row.IsReadable := by
  constructor
  · rintro ⟨line, read⟩
    by_contra unreadable
    obtain ⟨column, failed⟩ := read_of_unreadable unreadable
    cases failed.symm.trans read
  · exact fun readable => ⟨row.line, read_of_readable readable⟩

end LineRow

namespace Database

variable {database changed : Database}

/-- Pairs of rows are listed in one order if the dates of either side compare alike. -/
theorem orderBy_pairs {pairs : List (LineRow × LineRow)}
    (alike : pairs.Pairwise fun pair other =>
      (compare pair.1.date other.1.date).isLE = (compare pair.2.date other.2.date).isLE) :
    ∃ listed : List (LineRow × LineRow), listed.Perm pairs ∧
      orderBy (compareOn LineRow.date) (pairs.map Prod.fst) = listed.map Prod.fst ∧
      orderBy (compareOn LineRow.date) (pairs.map Prod.snd) = listed.map Prod.snd := by
  refine ⟨_, Ordered.sortBy_perm _ pairs, Ordered.sortBy_map _ _ _, ?_⟩
  rw [orderBy, Ordered.sortBy_map]
  apply congrArg (List.map Prod.snd)
  apply Ordered.sortBy_congr
  exact alike.imp Eq.symm

theorem tradeLines_of_readable (readable : ∀ row ∈ database.lines.rows, row.IsReadable) :
    database.tradeLines .all = .ok ((orderBy (compareOn LineRow.date) database.lines.rows).map LineRow.line) := by
  rw [tradeLines_all]
  apply mapM_eq_ok
  intro row member
  exact LineRow.read_of_readable (readable row (Ordered.mem_sortBy.mp member))

/-- The query answers if and only if every row can be read. -/
theorem exists_tradeLines_iff :
    (∃ lines, database.tradeLines .all = .ok lines) ↔ ∀ row ∈ database.lines.rows, row.IsReadable := by
  constructor
  · rintro ⟨lines, answered⟩ row member
    rw [tradeLines_all] at answered
    exact LineRow.exists_read_iff.mp (exists_of_mapM answered row (Ordered.mem_sortBy.mpr member))
  · exact fun readable => ⟨_, tradeLines_of_readable readable⟩

/-- Changing one row, but not its date, changes its line where it stands and no other. -/
theorem tradeLines_changed {before after : List LineRow} {row other : LineRow} (date : other.date = row.date)
    (rows : database.lines.rows = before ++ row :: after) (rows' : changed.lines.rows = before ++ other :: after)
    (readable : ∀ row ∈ database.lines.rows, row.IsReadable) (own : other.IsReadable) :
    ∃ front back, database.tradeLines .all = .ok (front ++ row.line :: back) ∧
      changed.tradeLines .all = .ok (front ++ other.line :: back) := by
  let twice (row : LineRow) : LineRow × LineRow := (row, row)
  let pairs := before.map twice ++ (row, other) :: after.map twice
  have firsts : pairs.map Prod.fst = database.lines.rows := by simp [pairs, twice, rows, Function.comp_def]
  have seconds : pairs.map Prod.snd = changed.lines.rows := by simp [pairs, twice, rows', Function.comp_def]
  have dates : ∀ pair ∈ pairs, pair.2.date = pair.1.date := by
    intro pair member
    simp only [pairs, twice, List.mem_append, List.mem_cons, List.mem_map] at member
    rcases member with ⟨each, _, rfl⟩ | rfl | ⟨each, _, rfl⟩
    · rfl
    · exact date
    · rfl
  have readable' : ∀ row ∈ changed.lines.rows, row.IsReadable := by
    intro each member
    rw [rows', List.mem_append, List.mem_cons] at member
    rcases member with earlier | rfl | later
    · exact readable each (by simp [rows, earlier])
    · exact own
    · exact readable each (by simp [rows, later])
  obtain ⟨listed, perm, order, order'⟩ := orderBy_pairs (List.pairwise_of_forall_mem_list
    fun pair first other second => by rw [dates pair first, dates other second])
  rw [firsts] at order
  rw [seconds] at order'
  obtain ⟨front, back, rfl⟩ := List.append_of_mem (perm.mem_iff.mpr (show (row, other) ∈ pairs by simp [pairs]))
  -- What is listed around the changed pair are pairs of one row.
  have others : (front ++ back).Perm (before.map twice ++ after.map twice) :=
    List.Perm.cons_inv (List.perm_middle.symm.trans (perm.trans List.perm_middle))
  have same : ∀ pair ∈ front ++ back, pair.2.line = pair.1.line := by
    intro pair member
    have known := others.mem_iff.mp member
    rw [← List.map_append] at known
    obtain ⟨each, _, rfl⟩ := List.mem_map.mp known
    rfl
  obtain ⟨ahead, behind⟩ := List.forall_mem_append.mp same
  refine ⟨front.map fun pair => pair.1.line, back.map fun pair => pair.1.line, ?_, ?_⟩
  · rw [tradeLines_of_readable readable, order, List.map_map, List.map_append, List.map_cons]
    rfl
  · rw [tradeLines_of_readable readable', order', List.map_map, List.map_append, List.map_cons,
      ← List.map_congr_left ahead, ← List.map_congr_left behind]
    rfl

/-- Malformed numbers hide no other line unless they are text. The ledger can be read if and only if no
quantity or amount is text, which a column keeps if it does not write a number; where it fails, it fails for
such a cell. Where it can be read, each row has its line, in which whatever is no accepted number is zero, and
with other numbers in one row all other lines are the same and stand where they stood. -/
theorem tradeLines_answers_iff (database : Database) :
    ((∃ lines, database.tradeLines .all = .ok lines) ↔ ∀ row ∈ database.lines.rows, row.IsReadable) ∧
    (∀ value, (RealCell.ofValue value).isText = true ↔
      ∃ written, value = .text written ∧ Numeral.ofText? written = none) ∧
    (∀ cause, database.tradeLines .all = .error cause → ∃ column, cause = .mismatch column .real .text) ∧
    ∀ lines, database.tradeLines .all = .ok lines →
      lines.Perm (database.lines.rows.map LineRow.line) ∧
      (∀ row ∈ database.lines.rows, (¬row.quantity.IsAccepted → row.line.quantity = .zero) ∧
        (¬row.amount.IsAccepted → row.line.amount = .zero)) ∧
      ∀ (changed : Database) before row after (quantity amount : RealCell),
        database.lines.rows = before ++ row :: after →
        changed.lines.rows = before ++ { row with quantity, amount } :: after →
        quantity.isText = false → amount.isText = false →
        ∃ front back, lines = front ++ row.line :: back ∧
          changed.tradeLines .all = .ok (front ++ LineRow.line { row with quantity, amount } :: back) := by
  refine ⟨exists_tradeLines_iff, fun _ => RealCell.isText_ofValue, fun cause failed => ?_, fun lines answered => ?_⟩
  · rw [tradeLines_all] at failed
    obtain ⟨row, _, unread⟩ := exists_of_mapM_error failed
    have unreadable : ¬row.IsReadable := fun readable => by
      cases (LineRow.read_of_readable readable).symm.trans unread
    obtain ⟨column, mismatch⟩ := LineRow.read_of_unreadable unreadable
    exact ⟨column, Except.error.inj (unread.symm.trans mismatch)⟩
  · have readable := exists_tradeLines_iff.mp ⟨lines, answered⟩
    refine ⟨?_, fun row _ => ⟨RealCell.ofImported_number?, RealCell.ofImported_number?⟩, ?_⟩
    · cases answered.symm.trans (tradeLines_of_readable readable)
      exact (Ordered.sortBy_perm _ _).map _
    · intro changed before row after quantity amount rows rows' number number'
      have date : LineRow.date { row with quantity, amount } = row.date := rfl
      obtain ⟨front, back, first, second⟩ := tradeLines_changed date rows rows' readable ⟨number, number'⟩
      exact ⟨front, back, Except.ok.inj (answered.symm.trans first), second⟩

/-- A purchase of shares. -/
def purchase : ImportedRow :=
  ⟨some "B", some "y", none, some "equity", some "2024-01-02", some "buy", some (.ofInt 10), some (.ofInt (-100))⟩

/-- The doubt about one quantity hides the purchase as well. -/
theorem text_quantity_hides_lines :
    (do
      let (database, _) ← (∅ : Database).insertRow .lines
        [("account", .text "A"), ("symbol", .text "X"), ("quantity", .text "many"), ("amount", .integer 5)]
      let (database, _) ← database.insertImported purchase
      database.tradeLines .all) = .error (.mismatch "quantity" .real .text) := by
  decide +kernel

/-- A row without a quantity and with an amount past the limit. -/
def withoutNumbers : LineRow :=
  ⟨some "A", some "X", none, none, none, none, .null, .real (.ofInt (10 ^ 16))⟩

/-- Such a row is read, and the purchase is the same as beside a row with a quantity. -/
theorem missing_numbers_hide_nothing :
    ∃ lines front back, (ofLineRows [withoutNumbers, .ofImported purchase]).tradeLines .all = .ok lines ∧
      lines.length = 2 ∧ withoutNumbers.line.quantity = .zero ∧ withoutNumbers.line.amount = .zero ∧
      lines = front ++ withoutNumbers.line :: back ∧
      (ofLineRows [{ withoutNumbers with quantity := .real (.ofInt 3), amount := .null },
        .ofImported purchase]).tradeLines .all =
        .ok (front ++ LineRow.line { withoutNumbers with quantity := .real (.ofInt 3), amount := .null } :: back) := by
  obtain ⟨answers, _, _, reads⟩ := tradeLines_answers_iff (ofLineRows [withoutNumbers, .ofImported purchase])
  rw [rows_ofLineRows] at answers reads
  obtain ⟨lines, answered⟩ := answers.mpr (by decide +kernel)
  obtain ⟨perm, zeros, others⟩ := reads lines answered
  obtain ⟨quantity, amount⟩ := zeros withoutNumbers List.mem_cons_self
  obtain ⟨front, back, same, changed⟩ := others
    (ofLineRows [{ withoutNumbers with quantity := .real (.ofInt 3), amount := .null }, .ofImported purchase])
    [] withoutNumbers [.ofImported purchase] (.real (.ofInt 3)) .null rfl (rows_ofLineRows _) rfl rfl
  exact ⟨lines, front, back, answered, perm.length_eq, quantity (by decide), amount (by decide +kernel), same, changed⟩

end Database

end TradeLedger.Store
