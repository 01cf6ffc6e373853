import TradeLedger.Proofs.Inventory.Separation
import TradeLedger.Proofs.Ordered.Parts
import TradeLedger.Proofs.Series.Steps
import TradeLedger.Proofs.Series.Symbols

/-! Scopes as parts of a whole. Lines are told apart by what their holdings are kept under, so a run over
all of them realizes what the runs over the parts realize, and their cash is divided too. Cash and
profits of whole cents are shown as they are, so on every day the curve of the whole shows the sum of
what the curves of the parts show. -/
namespace TradeLedger

open Decimal Text

section Parts

variable {ι : Type} [DecidableEq ι] {policy : ShortSales} {lines : List LedgerLine} {book : Book}
  {gained : List Realized}

/-- The lines of one of the parts that a ledger is divided into. -/
def partOf (part : HoldingKey → ι) (i : ι) (lines : List LedgerLine) : List LedgerLine :=
  lines.filter fun line => part (.ofLine line) = i

theorem linesUnder_partOf (part : HoldingKey → ι) (i : ι) (key : HoldingKey) (lines : List LedgerLine) :
    linesUnder key (partOf part i lines) = if part key = i then linesUnder key lines else [] := by
  rw [linesUnder, partOf, List.filter_filter]
  split
  case isTrue own =>
    apply List.filter_congr
    intro line _
    by_cases same : HoldingKey.ofLine line = key <;> simp [same, own]
  case isFalse other =>
    rw [List.filter_eq_nil_iff]
    intro line _ both
    simp only [Bool.and_eq_true, decide_eq_true_eq] at both
    exact other (both.1 ▸ both.2)

/-- A run realizes what the runs of its parts do. -/
theorem run_parts (ran : Book.run policy ∅ lines = .ok (book, gained)) (part : HoldingKey → ι) :
    ∃ gainedOf : ι → List Realized,
      (∀ i, ∃ book, Book.run policy ∅ (partOf part i lines) = .ok (book, gainedOf i)) ∧
      ∀ parts : Finset ι, (∀ line ∈ lines, part (.ofLine line) ∈ parts) →
        (gained : Multiset Realized) = ∑ i ∈ parts, (gainedOf i : Multiset Realized) := by
  have runs : ∀ i, ∃ answer, Book.run policy ∅ (partOf part i lines) = .ok answer := by
    intro i
    rw [Book.run_exists_iff]
    intro key
    rw [linesUnder_partOf]
    split
    · exact Book.run_exists_iff.mp ⟨_, ran⟩ key
    · exact ⟨(∅, []), rfl⟩
  choose answer ranOf using runs
  refine ⟨fun i => (answer i).2, fun i => ⟨(answer i).1, ranOf i⟩, fun parts covers => ?_⟩
  obtain ⟨profits, holdings, sum⟩ := Book.postAll_separates ran
  have ofPart : ∀ i, ((answer i).2 : Multiset Realized) =
      ∑ key ∈ holdingKeys lines, if part key = i then (profits key : Multiset Realized) else 0 := by
    intro i
    obtain ⟨profitsOf, holdingsOf, sumOf⟩ := Book.postAll_separates (ranOf i)
    rw [sumOf (holdingKeys lines)]
    · refine Finset.sum_congr rfl fun key _ => ?_
      have alone := holdingsOf key
      rw [← Book.equityByDate_linesUnder, linesUnder_partOf] at alone
      split at alone
      case isTrue own =>
        rw [Book.equityByDate_linesUnder, holdings key] at alone
        rw [if_pos own, (Prod.mk.inj (Except.ok.inj alone)).2]
      case isFalse other =>
        have nothing : [] = profitsOf key := (Prod.mk.inj (Except.ok.inj alone)).2
        rw [if_neg other, ← nothing]
        rfl
    · intro dated member
      exact mem_holdingKeys.mpr ⟨dated.line, List.mem_of_mem_filter (line_of_mem_equityByDate member), rfl⟩
  have known : ∀ key ∈ holdingKeys lines, part key ∈ parts := by
    intro key member
    obtain ⟨line, listed, rfl⟩ := mem_holdingKeys.mp member
    exact covers line listed
  calc (gained : Multiset Realized)
      = ∑ key ∈ holdingKeys lines, (profits key : Multiset Realized) :=
        sum _ fun dated member => mem_holdingKeys.mpr ⟨dated.line, line_of_mem_equityByDate member, rfl⟩
    _ = ∑ key ∈ holdingKeys lines, ∑ i ∈ parts, if part key = i then (profits key : Multiset Realized) else 0 :=
        Finset.sum_congr rfl fun key member => by rw [Finset.sum_ite_eq, if_pos (known key member)]
    _ = ∑ i ∈ parts, ((answer i).2 : Multiset Realized) := by
        rw [Finset.sum_comm]
        exact Finset.sum_congr rfl fun i _ => (ofPart i).symm

/-- A sum over a ledger is divided by its parts. -/
theorem sum_partOf (f : LedgerLine → ℚ) {part : HoldingKey → ι} {parts : Finset ι}
    (covers : ∀ line ∈ lines, part (.ofLine line) ∈ parts) :
    (lines.map f).sum = ∑ i ∈ parts, ((partOf part i lines).map f).sum :=
  (sum_parts (fun line => part (.ofLine line)) f covers).symm

/-- So are the sums of the sources. -/
theorem sumsAt_parts (ran : Book.run policy ∅ lines = .ok (book, gained)) {part : HoldingKey → ι} {parts : Finset ι}
    (covers : ∀ line ∈ lines, part (.ofLine line) ∈ parts) :
    ∃ gainedOf : ι → List Realized,
      (∀ i, ∃ book, Book.run policy ∅ (partOf part i lines) = .ok (book, gainedOf i)) ∧
      ∀ day source, sumsAt lines gained day source =
        ∑ i ∈ parts, sumsAt (partOf part i lines) (gainedOf i) day source := by
  obtain ⟨gainedOf, runs, sum⟩ := run_parts ran part
  refine ⟨gainedOf, runs, fun day source => ?_⟩
  by_cases own : source = .equity
  · subst own
    let profit : Multiset Realized →+ ℚ :=
      Multiset.sumAddMonoidHom.comp (Multiset.mapAddMonoidHom fun one => one.pnlBy day)
    have upTo : ∀ gained : List Realized, profitUpTo gained day = profit gained :=
      fun gained => (sum_pnlBy gained day).symm
    simp only [sumsAt, upTo]
    rw [sum parts covers, map_sum]
  · simp only [sumsAt_of_ne own, ← sum_cashBy _ own]
    exact sum_partOf _ covers

end Parts

section Cents

variable {policy : ShortSales} {book final : Book} {gained : List Realized} {lines : List LedgerLine}

/-- Profits are realized in whole cents. -/
theorem wholeCents_realized {posted : List DatedLine} (ran : book.postAll policy posted = .ok (final, gained)) :
    ∀ one ∈ gained, WholeCents one.pnl.toRat := by
  induction posted generalizing book gained with
  | nil =>
    cases ran
    exact fun one member => by cases member
  | cons dated posted ih =>
    obtain ⟨next, first, later, post, followed, rfl⟩ := Book.postAll_cons.mp ran
    intro one member
    rcases List.mem_append.mp member with here | there
    · obtain ⟨_, profit, _, rfl, _⟩ := Book.post_posts post
      obtain ⟨pnl, _, rfl⟩ := Option.map_eq_some_iff.mp (Option.mem_toList.mp here)
      rw [toRat_roundCents]
      exact wholeCents_nearestCents _
    · exact ih followed one there

/-- Where the cash of the lines is, so are the sums. -/
theorem wholeCents_sumsAt (ran : Book.run policy ∅ lines = .ok (book, gained))
    (cents : ∀ line ∈ lines, WholeCents line.amount.toRat) (day : Date) (source : Source) :
    WholeCents (sumsAt lines gained day source) := by
  by_cases own : source = .equity
  · subst own
    refine WholeCents.sum fun x member => ?_
    obtain ⟨one, listed, rfl⟩ := List.mem_map.mp member
    exact wholeCents_realized ran one (List.mem_of_mem_filter listed)
  · rw [sumsAt_of_ne own]
    refine WholeCents.sum fun x member => ?_
    obtain ⟨line, listed, rfl⟩ := List.mem_map.mp member
    exact cents line (List.mem_of_mem_filter listed)

theorem Column.count_sum {ι : Type} (column : Column) (parts : Finset ι) (sums : ι → Source → ℚ) :
    column.count (fun source => ∑ i ∈ parts, sums i source) = ∑ i ∈ parts, column.count (sums i) := by
  cases column <;> simp [Column.count, Finset.sum_add_distrib]

end Cents

namespace Curve

variable {policy : ShortSales} {lines : List LedgerLine} {scope : Scope} {curve : Curve} {account : String}

/-- Where cash is of whole cents, a curve shows what has come in exactly. -/
theorem realized_valueAt_exact {book : Book} {gained : List Realized}
    (ran : Book.run policy ∅ (linesIn scope lines) = .ok (book, gained))
    (unrounded : SumsExactly policy (linesIn scope lines))
    (cents : ∀ line ∈ lines, WholeCents line.amount.toRat) :
    ∃ curve, realized policy lines scope = .ok curve ∧
      ∀ column day, curve.valueAt column day = column.count (sumsAt (linesIn scope lines) gained day) := by
  obtain ⟨curve, drawn, shown⟩ := realized_valueAt ran unrounded
  refine ⟨curve, drawn, fun column day => ?_⟩
  have whole := wholeCents_sumsAt ran (fun line member => cents line (List.mem_of_mem_filter member)) day
  rw [shown, nearestCents_of_whole (Column.count_whole whole column)]

/-- The curve of a scope that is divided into others shows the sums of what theirs show. -/
theorem valueAt_parts {ι : Type} [DecidableEq ι] {part : HoldingKey → ι} {parts : Finset ι} (scopeOf : ι → Scope)
    (drawn : realized policy lines scope = .ok curve) (unrounded : SumsExactly policy (linesIn scope lines))
    (cents : ∀ line ∈ lines, WholeCents line.amount.toRat)
    (covers : ∀ line ∈ linesIn scope lines, part (.ofLine line) ∈ parts)
    (divided : ∀ i ∈ parts, linesIn (scopeOf i) lines = partOf part i (linesIn scope lines))
    (unroundedOf : ∀ i ∈ parts, SumsExactly policy (linesIn (scopeOf i) lines)) :
    ∃ curveOf : ι → Curve, (∀ i ∈ parts, realized policy lines (scopeOf i) = .ok (curveOf i)) ∧
      ∀ column day, curve.valueAt column day = ∑ i ∈ parts, (curveOf i).valueAt column day := by
  obtain ⟨book, gained, ran⟩ := run_of_realized drawn
  obtain ⟨_, same, shown⟩ := realized_valueAt_exact ran unrounded cents
  cases drawn.symm.trans same
  obtain ⟨gainedOf, runs, sums⟩ := sumsAt_parts ran covers
  have curves : ∀ i, ∃ one : Curve, i ∈ parts → realized policy lines (scopeOf i) = .ok one ∧
      ∀ column day, one.valueAt column day =
        column.count (sumsAt (partOf part i (linesIn scope lines)) (gainedOf i) day) := by
    intro i
    by_cases member : i ∈ parts
    · obtain ⟨own, ranOf⟩ := runs i
      rw [← divided i member] at ranOf ⊢
      obtain ⟨one, drawn, shown⟩ := realized_valueAt_exact ranOf (unroundedOf i member) cents
      exact ⟨one, fun _ => ⟨drawn, shown⟩⟩
    · exact ⟨[], fun other => absurd other member⟩
  choose curveOf found using curves
  refine ⟨curveOf, fun i member => (found i member).1, fun column day => ?_⟩
  rw [shown, funext (sums day), Column.count_sum]
  exact Finset.sum_congr rfl fun i member => ((found i member).2 column day).symm

/-- The lines of an account are a part of all lines. -/
theorem linesIn_account (account : String) (lines : List LedgerLine) :
    linesIn (.account account) lines = partOf HoldingKey.account account (linesIn .all lines) := by
  have all : linesIn .all lines = lines := List.filter_eq_self.mpr fun _ _ => rfl
  rw [all, linesIn, partOf]
  apply List.filter_congr
  intro line _
  rw [Scope.contains, Bool.eq_iff_iff, beq_iff_eq, decide_eq_true_eq]
  exact eq_comm

/-- The lines of a symbol of an account are a part of its lines, as long as all symbols agree with their
upper case. -/
theorem linesIn_symbol {key : String} (cased : ∀ line ∈ lines, Cased line.symbol)
    (listed : key ∈ symbolsOf account lines) :
    linesIn (.symbol account key) lines = partOf HoldingKey.symbol key (linesIn (.account account) lines) := by
  obtain ⟨other, _, _, rfl⟩ := mem_symbolsOf.mp listed
  rw [linesIn, partOf, linesIn, List.filter_filter]
  apply List.filter_congr
  intro line member
  rw [Bool.eq_iff_iff, Scope.contains_upper_iff, and_iff_left (cased line member), Scope.contains, Bool.and_eq_true,
    decide_eq_true_eq, beq_iff_eq, and_comm, eq_comm (a := account)]
  exact Iff.rfl

/-- The curves of the symbols, without those that have no points. -/
theorem reconstructBySymbol_eq_ok {positions : List Position} {today : Date} (curveOf : String → Curve)
    (drawn : ∀ key ∈ symbolsOf account lines,
      reconstruct policy lines positions (.symbol account key) today = .ok (curveOf key)) :
    reconstructBySymbol policy lines positions account today =
      .ok (((symbolsOf account lines).map fun key => (key, curveOf key)).filter fun one => !one.2.isEmpty) := by
  have all : (symbolsOf account lines).mapM (fun key => do
      let curve ← reconstruct policy lines positions (.symbol account key) today
      pure (key, curve)) = .ok ((symbolsOf account lines).map fun key => (key, curveOf key)) := by
    refine (mapM_congr fun key listed => ?_).trans List.mapM_pure
    rw [drawn key listed]
    rfl
  rw [reconstructBySymbol, all]
  rfl

/-- Curves without points add nothing. -/
theorem sum_valueAt_filter (curves : List (String × Curve)) (column : Column) (day : Date) :
    ((curves.filter fun one => !one.2.isEmpty).map fun one => valueAt one.2 column day).sum =
      (curves.map fun one => valueAt one.2 column day).sum := by
  induction curves with
  | nil => rfl
  | cons one curves ih =>
    obtain ⟨key, curve⟩ := one
    cases curve with
    | nil =>
      have nothing : valueAt [] column day = 0 := rfl
      rw [List.map_cons, List.sum_cons, nothing, zero_add, ← ih]
      rfl
    | cons point curve =>
      rw [List.filter_cons_of_pos rfl, List.map_cons, List.sum_cons, ih, List.map_cons, List.sum_cons]

/-- The accounts that a ledger has lines of. -/
def accountsOf (lines : List LedgerLine) : Finset String := (lines.map LedgerLine.account).toFinset

/-- Scopes add up. For ledgers of ASCII symbols and of amounts in whole cents, where nothing rounds, the
curve of an account shows on every day the sum of what the curves of its symbols show, and the curve of
all lines the sum of what those of the accounts show. -/
theorem scopes_add_up (policy : ShortSales) (lines : List LedgerLine) (today : Date)
    (ascii : ∀ line ∈ lines, IsAscii line.symbol)
    (cents : ∀ line ∈ lines, WholeCents line.amount.toRat) :
    (∀ account curve, reconstruct policy lines [] (.account account) today = .ok curve →
      SumsExactly policy (linesIn (.account account) lines) →
      (∀ key ∈ symbolsOf account lines, SumsExactly policy (linesIn (.symbol account key) lines)) →
      ∃ curves, reconstructBySymbol policy lines [] account today = .ok curves ∧
        ∀ column day, curve.valueAt column day = (curves.map fun one => valueAt one.2 column day).sum) ∧
    ∀ curve, reconstruct policy lines [] .all today = .ok curve → SumsExactly policy (linesIn .all lines) →
      (∀ account ∈ accountsOf lines, SumsExactly policy (linesIn (.account account) lines)) →
      ∃ curveOf : String → Curve,
        (∀ account ∈ accountsOf lines, reconstruct policy lines [] (.account account) today = .ok (curveOf account)) ∧
        ∀ column day, curve.valueAt column day =
          ∑ account ∈ accountsOf lines, (curveOf account).valueAt column day := by
  simp only [reconstruct_nil]
  constructor
  · intro account curve drawn unrounded unroundedOf
    have cased : ∀ line ∈ lines, Cased line.symbol := fun line member => cased_of_ascii (ascii line member)
    have covers : ∀ line ∈ linesIn (.account account) lines,
        (HoldingKey.ofLine line).symbol ∈ (symbolsOf account lines).toFinset := by
      intro line member
      obtain ⟨listed, own⟩ := List.mem_filter.mp member
      exact List.mem_toFinset.mpr (mem_symbolsOf.mpr ⟨line, listed, (beq_iff_eq.mp own).symm, rfl⟩)
    obtain ⟨curveOf, drawnOf, sum⟩ := valueAt_parts (fun key => .symbol account key) drawn unrounded cents covers
      (fun key listed => linesIn_symbol cased (List.mem_toFinset.mp listed))
      (fun key listed => unroundedOf key (List.mem_toFinset.mp listed))
    refine ⟨_, reconstructBySymbol_eq_ok curveOf fun key listed => ?_, fun column day => ?_⟩
    · rw [reconstruct_nil]
      exact drawnOf key (List.mem_toFinset.mpr listed)
    · have once : (symbolsOf account lines).Nodup := nodup_ascendingDistinct _
      rw [sum_valueAt_filter, List.map_map, sum, List.sum_toFinset _ once]
      rfl
  · intro curve drawn unrounded unroundedOf
    refine valueAt_parts .account drawn unrounded cents (fun line member => ?_)
      (fun account _ => linesIn_account account lines) unroundedOf
    exact List.mem_toFinset.mpr (List.mem_map_of_mem (List.mem_of_mem_filter member))

/-- Lines of two accounts, with a symbol spelled in both cases, a day in both accounts, and cents. -/
def twoAccounts : List LedgerLine :=
  [⟨"A", "X", "X", .equity, Date.ofDayNumber? 1, .buy, .ofUInt32 3, (ofParts? true 1001 2).getD .zero⟩,
    ⟨"A", "x", "X", .equity, Date.ofDayNumber? 2, .sell, .ofUInt32 1, .ofUInt32 5⟩,
    ⟨"A", "Y", "Y", .dividend, Date.ofDayNumber? 2, .dividend, .zero, (ofParts? false 125 2).getD .zero⟩,
    ⟨"B", "X", "X C 10", .call, Date.ofDayNumber? 2, .sell, .ofUInt32 1, .ofUInt32 7⟩,
    ⟨"B", "Z", "Z", .other, none, .other "transfer", .zero, .ofUInt32 4⟩]

/-- The day on which both accounts have lines. -/
def secondDay : Date := ⟨2, by decide, by decide⟩

/-- On that day the account has 1.66 from the shares and 1.25 of dividends, and the other has 7 from an option. -/
theorem two_accounts_add_up :
    (∃ curve curves, reconstruct .proceedsAsPnl twoAccounts [] (.account "A") ⟨9, by decide, by decide⟩ = .ok curve ∧
      reconstructBySymbol .proceedsAsPnl twoAccounts [] "A" ⟨9, by decide, by decide⟩ = .ok curves ∧
      curve.valuesAt secondDay = [166 / 100, 0, 125 / 100, 291 / 100] ∧
      curves.map (fun one => (one.1, valuesAt secondDay one.2)) =
        [("X", [166 / 100, 0, 0, 166 / 100]), ("Y", [0, 0, 125 / 100, 125 / 100])] ∧
      ∀ column day, curve.valueAt column day = (curves.map fun one => valueAt one.2 column day).sum) ∧
    ∃ (curve : Curve) (curveOf : String → Curve),
      reconstruct .proceedsAsPnl twoAccounts [] .all ⟨9, by decide, by decide⟩ = .ok curve ∧
      curve.valuesAt secondDay = [166 / 100, 7, 125 / 100, 991 / 100] ∧
      (curveOf "A").valuesAt secondDay = [166 / 100, 0, 125 / 100, 291 / 100] ∧
      (curveOf "B").valuesAt secondDay = [0, 7, 0, 7] ∧
      ∀ column day, curve.valueAt column day =
        ∑ account ∈ accountsOf twoAccounts, (curveOf account).valueAt column day := by
  obtain ⟨symbols, accounts⟩ := scopes_add_up .proceedsAsPnl twoAccounts ⟨9, by decide, by decide⟩ (by decide +kernel)
    fun line member => wholeCents_of_scale_le
      ((show ∀ line ∈ twoAccounts, line.amount.scale ≤ 2 by decide +kernel) line member)
  obtain ⟨curve, drawn⟩ := exists_of_isOk (show (reconstruct .proceedsAsPnl twoAccounts [] (.account "A")
    ⟨9, by decide, by decide⟩).isOk by decide +kernel)
  obtain ⟨whole, all⟩ := exists_of_isOk (show (reconstruct .proceedsAsPnl twoAccounts [] .all
    ⟨9, by decide, by decide⟩).isOk by decide +kernel)
  obtain ⟨curves, bySymbol, sum⟩ := symbols "A" curve drawn (by decide +kernel) (by decide +kernel)
  obtain ⟨curveOf, each, total⟩ := accounts whole all (by decide +kernel) (by decide +kernel)
  refine ⟨⟨curve, curves, drawn, bySymbol, ?_, ?_, sum⟩, whole, curveOf, all, ?_, ?_, ?_, total⟩
  · exact eq_of_map_eq_ok drawn (by decide +kernel)
  · exact eq_of_map_eq_ok bySymbol (by decide +kernel)
  · exact eq_of_map_eq_ok all (by decide +kernel)
  · exact eq_of_map_eq_ok (each "A" (by decide +kernel)) (by decide +kernel)
  · exact eq_of_map_eq_ok (each "B" (by decide +kernel)) (by decide +kernel)

end Curve

end TradeLedger
