import TradeLedger.Inventory.Book
import TradeLedger.Proofs.Fold
import TradeLedger.Proofs.Inventory.Posting
import TradeLedger.Proofs.Ordered.Map

/-! Runs of the book, taken apart line by line. A line touches the holding of its own key only,
and a run over some lines is a run over the first of them followed by a run over the rest. -/
namespace TradeLedger

instance : Std.LawfulEqOrd HoldingKey where
  eq_of_compare {a b} same := by
    have both := same
    change compareLex (compareOn HoldingKey.account) (compareOn HoldingKey.symbol) a b = .eq at both
    rw [compareLex_eq_eq] at both
    have account : a.account = b.account := Std.LawfulEqOrd.eq_of_compare both.1
    have symbol : a.symbol = b.symbol := Std.LawfulEqOrd.eq_of_compare both.2
    cases a
    cases b
    cases account
    cases symbol
    rfl

namespace DatedLine

/-- Dated equity lines are posted, each as it is. -/
theorem ofEquity?_eq_some {dated : DatedLine} {line : LedgerLine} :
    ofEquity? line = some dated ↔ line.instrument = .equity ∧ line.date = some dated.date ∧ dated.line = line := by
  rw [ofEquity?]
  split
  case isTrue equity =>
    rw [Option.map_eq_some_iff, and_iff_right equity]
    constructor
    · rintro ⟨date, known, rfl⟩
      exact ⟨known, rfl⟩
    · rintro ⟨known, rfl⟩
      exact ⟨dated.date, known, rfl⟩
  case isFalse other => simp [other]

variable {dated : DatedLine} {line : LedgerLine}

theorem instrument_of_equity (equity : ofEquity? line = some dated) : line.instrument = .equity :=
  (ofEquity?_eq_some.mp equity).1

theorem date_of_equity (equity : ofEquity? line = some dated) : line.date = some dated.date :=
  (ofEquity?_eq_some.mp equity).2.1

theorem line_of_equity (equity : ofEquity? line = some dated) : dated.line = line :=
  (ofEquity?_eq_some.mp equity).2.2

end DatedLine

/-- What is posted comes from a line of the ledger. -/
theorem exists_of_mem_equityByDate {dated : DatedLine} {lines : List LedgerLine} (member : dated ∈ equityByDate lines) :
    ∃ line ∈ lines, DatedLine.ofEquity? line = some dated :=
  List.mem_filterMap.mp (Ordered.mem_sortBy.mp member)

theorem line_of_mem_equityByDate {dated : DatedLine} {lines : List LedgerLine} (member : dated ∈ equityByDate lines) :
    dated.line ∈ lines := by
  obtain ⟨line, known, equity⟩ := exists_of_mem_equityByDate member
  rwa [DatedLine.line_of_equity equity]

theorem length_equityByDate_le (lines : List LedgerLine) : (equityByDate lines).length ≤ lines.length := by
  rw [equityByDate, (Ordered.sortBy_perm _ _).length_eq]
  exact List.length_filterMap_le ..

namespace Book

variable {policy : ShortSales} {book next : Book} {dated : DatedLine}

/-- The key that a line is posted to. -/
def keyOf (dated : DatedLine) : HoldingKey := .ofLine dated.line

theorem holding_insert (book : Book) (key probe : HoldingKey) (holding : Holding) :
    Book.holding (book.insert key holding) probe = if probe = key then holding else book.holding probe :=
  OrderedMap.getD_insert book key probe holding .flat

/-- What the new holding and all old ones have, every holding has after the change. -/
theorem forall_holding_insert {P : Holding → Prop} {after : Holding} (changed : P after)
    (others : ∀ key, P (book.holding key)) (key probe : HoldingKey) :
    P (Book.holding (book.insert key after) probe) := by
  rw [holding_insert]
  split
  · exact changed
  · exact others probe

@[simp] theorem holding_empty (key : HoldingKey) : Book.holding ∅ key = .flat := rfl

/-- Posting a line is a posting to its holding; no other holding changes. -/
theorem post_posts {realized : Option Realized} (ran : book.post policy dated = .ok (next, realized)) :
    ∃ after profit, next = book.insert (keyOf dated) after ∧
      realized = profit.map (fun pnl => ⟨dated.date, pnl.roundCents⟩) ∧
      (book.holding (keyOf dated)).Posting policy dated.line.quantity dated.line.amount dated.line.action
        after profit := by
  rw [post] at ran
  obtain ⟨⟨after, pnl⟩, applied, ran⟩ := bind_eq_ok.mp ran
  cases ran
  obtain ⟨profit, rfl, posting⟩ := Holding.apply_posts applied
  exact ⟨after, profit, rfl, by rw [Option.map_map]; rfl, posting⟩

theorem postAll_cons {rest : List DatedLine} {final : Book} {realized : List Realized} :
    postAll policy book (dated :: rest) = .ok (final, realized) ↔
      ∃ next first later, book.post policy dated = .ok (next, first) ∧
        postAll policy next rest = .ok (final, later) ∧ realized = first.toList ++ later := by
  rw [postAll]
  constructor
  · intro ran
    obtain ⟨⟨next, first⟩, posted, ran⟩ := bind_eq_ok.mp ran
    obtain ⟨⟨last, later⟩, followed, ran⟩ := bind_eq_ok.mp ran
    cases ran
    exact ⟨next, first, later, posted, followed, rfl⟩
  · rintro ⟨next, first, later, posted, followed, rfl⟩
    rw [posted, ok_bind]
    dsimp only
    rw [followed]
    rfl

/-- Posting lines after others is posting them to the book that the others leave. -/
theorem postAll_append (first second : List DatedLine) : postAll policy book (first ++ second) = do
    let (between, early) ← postAll policy book first
    let (final, late) ← postAll policy between second
    return (final, early ++ late) := by
  induction first generalizing book with
  | nil => exact (bind_pure _).symm
  | cons dated rest ih =>
    simp only [List.cons_append, postAll, ih, bind_assoc, pure_bind, List.append_assoc]

theorem postAll_append_eq_ok {first second : List DatedLine} {final : Book} {realized : List Realized} :
    postAll policy book (first ++ second) = .ok (final, realized) ↔
      ∃ between early late, postAll policy book first = .ok (between, early) ∧
        postAll policy between second = .ok (final, late) ∧ realized = early ++ late := by
  rw [postAll_append]
  constructor
  · intro ran
    obtain ⟨⟨between, early⟩, begun, ran⟩ := bind_eq_ok.mp ran
    obtain ⟨⟨last, late⟩, ended, ran⟩ := bind_eq_ok.mp ran
    cases ran
    exact ⟨between, early, late, begun, ended, rfl⟩
  · rintro ⟨between, early, late, begun, ended, rfl⟩
    rw [begun, ok_bind]
    dsimp only
    rw [ended]
    rfl

theorem postAll_append_eq_error {first second : List DatedLine} {fault : Fault} :
    postAll policy book (first ++ second) = .error fault ↔
      postAll policy book first = .error fault ∨
        ∃ between early, postAll policy book first = .ok (between, early) ∧
          postAll policy between second = .error fault := by
  rw [postAll_append, bind_eq_error]
  apply or_congr_right
  constructor
  · rintro ⟨⟨between, early⟩, begun, failed⟩
    rcases bind_eq_error.mp failed with ended | ⟨_, _, done⟩
    · exact ⟨between, early, begun, ended⟩
    · cases done
  · rintro ⟨between, early, begun, failed⟩
    exact ⟨(between, early), begun, bind_eq_error.mpr (.inl failed)⟩

/-- A run passes through a run over its first lines. -/
theorem postAll_prefix {posted lines : List DatedLine} {final : Book} {realized : List Realized}
    (first : posted <+: lines) (ran : postAll policy book lines = .ok (final, realized)) :
    ∃ between early, postAll policy book posted = .ok (between, early) := by
  obtain ⟨rest, rfl⟩ := first
  obtain ⟨between, early, _, begun, _, _⟩ := postAll_append_eq_ok.mp ran
  exact ⟨between, early, begun⟩

/-- A profit is realized on the day of a line with a quantity. -/
theorem exists_of_realized {lines : List DatedLine} {final : Book} {realized : List Realized}
    (ran : postAll policy book lines = .ok (final, realized)) {one : Realized} (member : one ∈ realized) :
    ∃ dated ∈ lines, dated.date = one.date ∧ dated.line.quantity.toRat ≠ 0 := by
  induction lines generalizing book realized with
  | nil =>
    cases ran
    cases member
  | cons dated rest ih =>
    obtain ⟨next, first, later, posted, followed, rfl⟩ := postAll_cons.mp ran
    rcases List.mem_append.mp member with here | there
    · obtain ⟨after, profit, _, rfl, posting⟩ := post_posts posted
      obtain ⟨pnl, gain, rfl⟩ := Option.map_eq_some_iff.mp (Option.mem_toList.mp here)
      refine ⟨dated, List.mem_cons_self, rfl, ?_⟩
      rw [gain] at posting
      exact posting.quantity_ne_zero
    · obtain ⟨other, known, same, traded⟩ := ih followed there
      exact ⟨other, List.mem_cons_of_mem _ known, same, traded⟩

/-- Every line of a run is good at the book that it is posted to. -/
def Throughout (policy : ShortSales) (good : Book → DatedLine → Prop) : Book → List DatedLine → Prop :=
  Along (fun book dated => (book.post policy dated).map Prod.fst) good

namespace Throughout

variable {good : Book → DatedLine → Prop} {posted lines : List DatedLine}

instance [∀ book dated, Decidable (good book dated)] (book : Book) (lines : List DatedLine) :
    Decidable (Throughout policy good book lines) :=
  Along.decidable book lines

theorem cons_iff {first : Option Realized} {rest : List DatedLine}
    (posted : book.post policy dated = .ok (next, first)) :
    Throughout policy good book (dated :: rest) ↔ good book dated ∧ Throughout policy good next rest := by
  rw [Throughout, Along, posted]
  exact Iff.rfl

/-- What every good step of a run keeps, the run keeps. -/
theorem keeps {motive : Book → Prop} {final : Book} {realized : List Realized}
    (throughout : Throughout policy good book lines)
    (step : ∀ book dated next first, motive book → good book dated →
      book.post policy dated = .ok (next, first) → motive next)
    (start : motive book) (ran : postAll policy book lines = .ok (final, realized)) : motive final := by
  induction lines generalizing book realized with
  | nil =>
    cases ran
    exact start
  | cons dated rest ih =>
    obtain ⟨next, first, later, posted, followed, _⟩ := postAll_cons.mp ran
    obtain ⟨here, others⟩ := (cons_iff posted).mp throughout
    exact ih others (step book dated next first start here posted) followed

end Throughout

end Book

end TradeLedger
