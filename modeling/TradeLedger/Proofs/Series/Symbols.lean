import TradeLedger.Proofs.Inventory.Separation
import TradeLedger.Proofs.Text.Uppercase
import TradeLedger.Series.Reconstruction

/-! Curves by symbol and the spelling of symbols. Symbols are listed in upper case, and a scope finds the
lines of a listed symbol up to the case of A to Z. So a line belongs to the upper case of its own symbol
or to none, and it belongs to none where the two differ in more than that case. Holdings are kept
under the upper case, so between spellings that are found the curves do not change. -/
namespace TradeLedger

open Text

/-- The scope of an upper-case symbol has the lines of that upper case, save those whose symbols do not
agree with it. -/
theorem Scope.contains_upper_iff {account name s t : String} :
    (Scope.symbol account (upper s)).contains name t = true ↔ name = account ∧ upper t = upper s ∧ Cased t := by
  rw [contains, Bool.and_eq_true, sameIgnoringAsciiCase_upper_iff, beq_iff_eq, eq_comm]

/-- It does not tell apart spellings of the same upper case that agree with it both. -/
theorem Scope.contains_respelled {account s name name' t t' : String} (accounts : name = name')
    (symbols : upper t = upper t') (cased : Cased t ↔ Cased t') :
    (Scope.symbol account (upper s)).contains name t = true ↔
      (Scope.symbol account (upper s)).contains name' t' = true := by
  rw [contains_upper_iff, contains_upper_iff, accounts, symbols, cased]

/-- Imported lines have their symbols in upper case. -/
theorem ImportedRow.cased_toLine (row : ImportedRow) : Cased row.toLine.symbol := cased_upper _

namespace LedgerLine

/-- The line with its symbol in upper case. -/
def inUpperCase (line : LedgerLine) : LedgerLine := { line with symbol := upper line.symbol }

/-- The lines differ in the spelling of their symbol only, and a scope finds both spellings or neither. -/
structure Respelled (line other : LedgerLine) : Prop where
  same : line.inUpperCase = other.inUpperCase
  cased : Cased line.symbol ↔ Cased other.symbol

end LedgerLine

namespace Position

/-- The position with its symbol in upper case. -/
def inUpperCase (position : Position) : Position := { position with symbol := upper position.symbol }

/-- The positions differ in the spelling of their symbol only, and a scope finds both spellings or
neither. -/
structure Respelled (position other : Position) : Prop where
  same : position.inUpperCase = other.inUpperCase
  cased : Cased position.symbol ↔ Cased other.symbol

end Position

section Runs

variable {policy : ShortSales} {lines : List LedgerLine}

/-- The dated line with its symbol in upper case. -/
def DatedLine.inUpperCase (dated : DatedLine) : DatedLine := { dated with line := dated.line.inUpperCase }

theorem equityByDate_inUpperCase (lines : List LedgerLine) :
    equityByDate (lines.map LedgerLine.inUpperCase) = (equityByDate lines).map DatedLine.inUpperCase :=
  equityByDate_map LedgerLine.inUpperCase (fun _ => rfl) (fun _ => rfl) lines

/-- Holdings are kept under upper-case symbols, so posting does not see how those of the lines are spelled. -/
theorem Book.postAll_inUpperCase {book : Book} {posted : List DatedLine} :
    book.postAll policy (posted.map DatedLine.inUpperCase) = book.postAll policy posted := by
  induction posted generalizing book with
  | nil => rfl
  | cons dated posted ih =>
    have same : book.post policy dated.inUpperCase = book.post policy dated := by
      simp [post, DatedLine.inUpperCase, LedgerLine.inUpperCase, HoldingKey.ofLine, upper_upper]
    rw [List.map_cons, postAll, same, postAll]
    simp only [ih]

/-- Neither do the flows of the days. -/
theorem DailyFlows.ofLines_inUpperCase (policy : ShortSales) (lines : List LedgerLine) :
    ofLines policy (lines.map LedgerLine.inUpperCase) = ofLines policy lines := by
  have run : Book.run policy ∅ (lines.map LedgerLine.inUpperCase) = Book.run policy ∅ lines := by
    rw [Book.run, equityByDate_inUpperCase, Book.postAll_inUpperCase, Book.run]
  have cash : (lines.map LedgerLine.inUpperCase).foldlM addLine ∅ = lines.foldlM addLine ∅ := by
    rw [List.foldlM_map]
    rfl
  rw [ofLines, ofLines, cash, realizedByDate, realizedByDate, run]

end Runs

theorem Unrealized.ofPositions_inUpperCase (positions : List Position) :
    ofPositions (positions.map Position.inUpperCase) = ofPositions positions := by
  rw [ofPositions, List.foldlM_map]
  rfl

namespace Curve

variable {policy : ShortSales} {lines others : List LedgerLine} {positions respelled : List Position}
  {account s key : String} {today : Date}

theorem mem_symbolsOf :
    key ∈ symbolsOf account lines ↔ ∃ line ∈ lines, line.account = account ∧ upper line.symbol = key := by
  simp [symbolsOf, mem_ascendingDistinct, and_assoc]

theorem symbolsOf_inUpperCase (account : String) (lines : List LedgerLine) :
    symbolsOf account (lines.map LedgerLine.inUpperCase) = symbolsOf account lines := by
  have same : ((lines.map LedgerLine.inUpperCase).filter (·.account == account)).map (fun line => upper line.symbol) =
      (lines.filter (·.account == account)).map fun line => upper line.symbol := by
    rw [List.filter_map, List.map_map]
    simp only [Function.comp_def, LedgerLine.inUpperCase, upper_upper]
  rw [symbolsOf, same, symbolsOf]

theorem map_eq_of_respelled {α β : Type} {related : α → α → Prop} {xs ys : List α} (normal : α → β)
    (alike : ∀ x y, related x y → normal x = normal y) (same : List.Forall₂ related xs ys) :
    xs.map normal = ys.map normal := by
  rw [← List.forall₂_eq_eq_eq, List.forall₂_map_left_iff, List.forall₂_map_right_iff]
  exact same.imp alike

/-- Ledgers that differ in the spelling of symbols only have the same lines in the scope of a symbol, up to
their spelling. -/
theorem linesIn_respelled (same : List.Forall₂ LedgerLine.Respelled lines others) :
    (linesIn (.symbol account (upper s)) lines).map LedgerLine.inUpperCase =
      (linesIn (.symbol account (upper s)) others).map LedgerLine.inUpperCase := by
  refine map_eq_of_respelled _ (fun _ _ => LedgerLine.Respelled.same) ?_
  refine List.rel_filter (fun line other respelled => ?_) same
  have fields := respelled.same
  simp only [LedgerLine.inUpperCase, LedgerLine.mk.injEq] at fields
  exact Scope.contains_respelled fields.1 fields.2.1 respelled.cased

theorem positionsIn_respelled (same : List.Forall₂ Position.Respelled positions respelled) :
    (positionsIn (.symbol account (upper s)) positions).map Position.inUpperCase =
      (positionsIn (.symbol account (upper s)) respelled).map Position.inUpperCase := by
  refine map_eq_of_respelled _ (fun _ _ => Position.Respelled.same) ?_
  refine List.rel_filter (fun position other respelled => ?_) same
  have fields := respelled.same
  simp only [Position.inUpperCase, Position.mk.injEq] at fields
  exact Scope.contains_respelled fields.1 fields.2.1 respelled.cased

/-- So they have the same curve there. -/
theorem reconstruct_respelled (policy : ShortSales) (today : Date)
    (same : List.Forall₂ LedgerLine.Respelled lines others)
    (samePositions : List.Forall₂ Position.Respelled positions respelled) :
    reconstruct policy lines positions (.symbol account (upper s)) today =
      reconstruct policy others respelled (.symbol account (upper s)) today := by
  rw [reconstruct, realized, ← DailyFlows.ofLines_inUpperCase, linesIn_respelled same, DailyFlows.ofLines_inUpperCase,
    ← Unrealized.ofPositions_inUpperCase, positionsIn_respelled samePositions, Unrealized.ofPositions_inUpperCase,
    reconstruct, realized]

/-- A line of an account is in the scope of exactly one of the symbols of the account, the upper case of its
own, if it agrees with that up to the case of A to Z, and otherwise of none. Ledgers and positions that
differ in the spelling of symbols only, between spellings that both agree or both do not, have the same
curves by symbol. -/
theorem reconstructBySymbol_respelled (policy : ShortSales) (lines : List LedgerLine) (positions : List Position)
    (account : String) (today : Date) :
    (∀ line ∈ lines, line.account = account →
      ((∃! key, key ∈ symbolsOf account lines ∧
        (Scope.symbol account key).contains line.account line.symbol = true) ↔ Cased line.symbol) ∧
      ∀ key ∈ symbolsOf account lines, (Scope.symbol account key).contains line.account line.symbol = true →
        key = upper line.symbol) ∧
    ∀ others respelled, List.Forall₂ LedgerLine.Respelled lines others →
      List.Forall₂ Position.Respelled positions respelled →
      reconstructBySymbol policy lines positions account today =
        reconstructBySymbol policy others respelled account today := by
  have found : ∀ key ∈ symbolsOf account lines, ∀ name symbol,
      (Scope.symbol account key).contains name symbol = true ↔ name = account ∧ upper symbol = key ∧ Cased symbol := by
    intro key listed name symbol
    obtain ⟨line, _, _, rfl⟩ := mem_symbolsOf.mp listed
    exact Scope.contains_upper_iff
  constructor
  · intro line member own
    have listed : upper line.symbol ∈ symbolsOf account lines := mem_symbolsOf.mpr ⟨line, member, own, rfl⟩
    refine ⟨⟨?_, ?_⟩, ?_⟩
    · rintro ⟨key, ⟨among, within⟩, _⟩
      exact ((found key among _ _).mp within).2.2
    · intro cased
      refine ⟨upper line.symbol, ⟨listed, (found _ listed _ _).mpr ⟨own, rfl, cased⟩⟩, ?_⟩
      rintro key ⟨among, within⟩
      exact ((found key among _ _).mp within).2.1.symm
    · intro key among within
      exact ((found key among _ _).mp within).2.1.symm
  · intro others respelled same samePositions
    have symbols : symbolsOf account lines = symbolsOf account others := by
      have spelled := map_eq_of_respelled LedgerLine.inUpperCase (fun _ _ => LedgerLine.Respelled.same) same
      rw [← symbolsOf_inUpperCase, spelled, symbolsOf_inUpperCase]
    rw [reconstructBySymbol, reconstructBySymbol, ← symbols]
    congr 1
    refine mapM_congr fun key listed => ?_
    obtain ⟨line, _, _, rfl⟩ := mem_symbolsOf.mp listed
    rw [reconstruct_respelled policy today same samePositions]

/-- A dividend of a symbol with a letter beyond A to Z in lower case. -/
def sharpLines : List LedgerLine :=
  [⟨"A", "straße", "straße", .dividend, Date.ofDayNumber? 1, .dividend, .zero, .ofUInt32 5⟩]

/-- Its line is in the scope of no symbol, and it has no curve. With the symbol in upper case it has one. -/
theorem sharp_lines_are_lost :
    (∃ line ∈ sharpLines, line.account = "A" ∧ line.date.isSome = true ∧
      ∀ key ∈ symbolsOf "A" sharpLines, (Scope.symbol "A" key).contains line.account line.symbol = false) ∧
    (sharpLines.map LedgerLine.inUpperCase).map (fun line => upper line.symbol) =
      sharpLines.map (fun line => upper line.symbol) ∧
    reconstructBySymbol .proceedsAsPnl sharpLines [] "A" ⟨9, by decide, by decide⟩ ≠
      reconstructBySymbol .proceedsAsPnl (sharpLines.map LedgerLine.inUpperCase) [] "A" ⟨9, by decide, by decide⟩ := by
  decide +kernel

/-- Shares bought and partly sold again, with their symbol spelled in some way. -/
def boughtAs (symbol : String) : LedgerLine :=
  ⟨"A", symbol, "AAPL", .equity, Date.ofDayNumber? 1, .buy, .ofUInt32 3, .ofUInt32 10⟩

def soldAs (symbol : String) : LedgerLine :=
  ⟨"A", symbol, "AAPL", .equity, Date.ofDayNumber? 2, .sell, .ofUInt32 1, .ofUInt32 5⟩

theorem spelled_lines_respelled :
    (∃! key, key ∈ symbolsOf "A" [boughtAs "aapl", soldAs "AApl"] ∧
      (Scope.symbol "A" key).contains "A" "AApl" = true) ∧
    ∃ curves, curves ≠ [] ∧
      reconstructBySymbol .proceedsAsPnl [boughtAs "aapl", soldAs "AApl"] [] "A" ⟨9, by decide, by decide⟩ =
        .ok curves ∧
      reconstructBySymbol .proceedsAsPnl [boughtAs "AAPL", soldAs "aapl"] [] "A" ⟨9, by decide, by decide⟩ =
        .ok curves := by
  obtain ⟨scopes, alike⟩ := reconstructBySymbol_respelled .proceedsAsPnl [boughtAs "aapl", soldAs "AApl"] [] "A"
    ⟨9, by decide, by decide⟩
  obtain ⟨curves, drawn⟩ := exists_of_isOk (show (reconstructBySymbol .proceedsAsPnl
    [boughtAs "aapl", soldAs "AApl"] [] "A" ⟨9, by decide, by decide⟩).isOk by decide +kernel)
  have first : LedgerLine.Respelled (boughtAs "aapl") (boughtAs "AAPL") := ⟨by decide +kernel, by decide +kernel⟩
  have second : LedgerLine.Respelled (soldAs "AApl") (soldAs "aapl") := ⟨by decide +kernel, by decide +kernel⟩
  have same := alike [boughtAs "AAPL", soldAs "aapl"] [] (.cons first (.cons second .nil)) .nil
  refine ⟨(scopes _ (List.mem_cons_of_mem _ List.mem_cons_self) rfl).1.mpr (by decide +kernel), curves, ?_, drawn,
    same ▸ drawn⟩
  rintro rfl
  exact absurd drawn (by decide +kernel)

end Curve

end TradeLedger
