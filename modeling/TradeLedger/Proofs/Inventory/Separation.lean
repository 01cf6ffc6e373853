import Mathlib.Algebra.BigOperators.Group.Finset.Piecewise
import Mathlib.Algebra.Order.Group.Multiset
import TradeLedger.Proofs.Inventory.Run
import TradeLedger.Proofs.Ordered.Sort

/-! Holdings do not touch each other. A run over lines of many accounts and symbols leaves every
holding as its own lines alone would, posted in the same order, and realizes what they realize
together. It has no answer exactly where the lines of one of the holdings have none. -/
namespace TradeLedger

section Ledger

/-- The lines of a ledger that belong to a holding. -/
def linesUnder (key : HoldingKey) (lines : List LedgerLine) : List LedgerLine :=
  lines.filter fun line => HoldingKey.ofLine line = key

/-- The holdings that the lines of a ledger belong to. -/
def holdingKeys (lines : List LedgerLine) : Finset HoldingKey := (lines.map HoldingKey.ofLine).toFinset

theorem mem_holdingKeys {lines : List LedgerLine} {key : HoldingKey} :
    key ∈ holdingKeys lines ↔ ∃ line ∈ lines, HoldingKey.ofLine line = key := by
  rw [holdingKeys, List.mem_toFinset, List.mem_map]

theorem equityByDate_eq (lines : List LedgerLine) : equityByDate lines =
    Ordered.sortBy (Ordered.byRank fun dated : DatedLine => dated.date.dayNumber)
      (lines.filterMap DatedLine.ofEquity?) := rfl

/-- Equity lines are posted in the order of their dates. -/
theorem pairwise_equityByDate (lines : List LedgerLine) :
    (equityByDate lines).Pairwise fun a b => a.date ≤ b.date :=
  Ordered.pairwise_sortBy (fun dated : DatedLine => dated.date.dayNumber) _

/-- These are the dated equity lines of a ledger in the order of their dates, and those of one day in the
order of the ledger. -/
structure StableByDate (posted : List DatedLine) (lines : List LedgerLine) : Prop where
  ascending : posted.Pairwise fun a b => a.date ≤ b.date
  days : ∀ date : Date, posted.filter (fun dated => dated.date = date) =
    (lines.filter fun line => line.instrument = .equity && line.date = some date).map (DatedLine.mk date)

/-- On each day its equity lines are posted. -/
theorem filter_ofEquity? (date : Date) (lines : List LedgerLine) :
    (lines.filterMap DatedLine.ofEquity?).filter (fun dated => dated.date = date) =
      (lines.filter fun line => line.instrument = .equity && line.date = some date).map (DatedLine.mk date) := by
  rw [List.filter_filterMap, ← List.filterMap_eq_map, List.filterMap_filter]
  congr 1
  funext line
  by_cases about : line.instrument = .equity
  · cases known : line.date with
    | none => simp [DatedLine.ofEquity?, about, known]
    | some day => by_cases level : day = date <;> simp [DatedLine.ofEquity?, about, known, level, Option.filter]
  · simp [DatedLine.ofEquity?, about]

theorem stableByDate_equityByDate (lines : List LedgerLine) : StableByDate (equityByDate lines) lines where
  ascending := pairwise_equityByDate lines
  days date := by
    rw [← filter_ofEquity?]
    simp only [Date.ext_dayNumber_iff]
    exact Ordered.filter_rank_sortBy _ _ _

/-- There is one such order: ledgers that have the same equity lines on each day are posted alike. -/
theorem StableByDate.unique {posted others : List DatedLine} {lines lines' : List LedgerLine}
    (left : StableByDate posted lines) (right : StableByDate others lines')
    (same : ∀ date : Date, (lines.filter fun line => line.instrument = .equity && line.date = some date) =
      lines'.filter fun line => line.instrument = .equity && line.date = some date) : posted = others := by
  refine Ordered.eq_of_filter_rank (fun dated : DatedLine => dated.date.dayNumber) left.ascending right.ascending
    fun dated => ?_
  simp only [← Date.ext_dayNumber_iff]
  rw [left.days, right.days, same]

/-- Some of the lines are posted in the order in which they are posted among all. -/
theorem equityByDate_filter_eq {keep : LedgerLine → Bool} {posted : DatedLine → Bool}
    (same : ∀ line dated, DatedLine.ofEquity? line = some dated → keep line = posted dated) (lines : List LedgerLine) :
    equityByDate (lines.filter keep) = (equityByDate lines).filter posted := by
  rw [equityByDate_eq, equityByDate_eq, (Ordered.orders_byRank _).filter_sortBy, List.filter_filterMap,
    List.filterMap_filter]
  congr 2
  funext line
  cases equity : DatedLine.ofEquity? line with
  | none => simp
  | some dated => simp [Option.filter, same line dated equity]

/-- So are the lines of some holdings. -/
theorem equityByDate_filter (chosen : HoldingKey → Bool) (lines : List LedgerLine) :
    equityByDate (lines.filter fun line => chosen (.ofLine line)) =
      (equityByDate lines).filter fun dated => chosen (Book.keyOf dated) :=
  equityByDate_filter_eq (fun _ _ equity => by rw [Book.keyOf, DatedLine.line_of_equity equity]) lines

/-- A change of every line that keeps instruments and dates shows in the posted lines one by one. -/
theorem equityByDate_map (f : LedgerLine → LedgerLine) (instruments : ∀ line, (f line).instrument = line.instrument)
    (dates : ∀ line, (f line).date = line.date) (lines : List LedgerLine) :
    equityByDate (lines.map f) = (equityByDate lines).map fun dated => ⟨dated.date, f dated.line⟩ := by
  have each : ∀ line, DatedLine.ofEquity? (f line) =
      (DatedLine.ofEquity? line).map fun dated => ⟨dated.date, f dated.line⟩ := by
    intro line
    rw [DatedLine.ofEquity?, DatedLine.ofEquity?, instruments, dates]
    split
    · rw [Option.map_map]
      rfl
    · rfl
  rw [equityByDate, List.filterMap_map, Function.comp_def]
  simp only [each]
  rw [← List.map_filterMap, Ordered.sortBy_map]
  rfl

end Ledger

namespace Holding

/-- The shares and the cost of a holding as numbers. -/
def figures (holding : Holding) : ℚ × ℚ := (holding.shares.toRat, holding.cost.toRat)

/-- One line posted to a holding, and what it realizes. -/
def post (policy : ShortSales) (holding : Holding) (dated : DatedLine) :
    Except Fault (Holding × Option Realized) := do
  let (holding, pnl) ← holding.apply policy dated.line.action dated.line.quantity dated.line.amount
  return (holding, pnl.map fun pnl => ⟨dated.date, pnl⟩)

/-- Lines posted to one holding after the other, and what they realize in that order. -/
def postAll (policy : ShortSales) : Holding → List DatedLine → Except Fault (Holding × List Realized)
  | holding, [] => .ok (holding, [])
  | holding, dated :: rest => do
    let (holding, realized) ← holding.post policy dated
    let (holding, later) ← postAll policy holding rest
    return (holding, realized.toList ++ later)

theorem postAll_cons {policy : ShortSales} {holding final : Holding} {dated : DatedLine} {rest : List DatedLine}
    {realized : List Realized} :
    postAll policy holding (dated :: rest) = .ok (final, realized) ↔
      ∃ next first later, holding.post policy dated = .ok (next, first) ∧
        postAll policy next rest = .ok (final, later) ∧ realized = first.toList ++ later := by
  rw [postAll]
  constructor
  · intro ran
    obtain ⟨⟨next, first⟩, posted, ran⟩ := bind_eq_ok.mp ran
    obtain ⟨⟨last, later⟩, followed, ran⟩ := bind_eq_ok.mp ran
    cases ran
    exact ⟨next, first, later, posted, followed, rfl⟩
  · rintro ⟨next, first, later, posted, followed, rfl⟩
    rw [posted, ok_bind]
    dsimp only
    rw [followed]
    rfl

end Holding

namespace Book

variable {policy : ShortSales} {book next final : Book} {dated : DatedLine} {lines : List DatedLine}
  {realized : List Realized} {key : HoldingKey}

/-- Posting a line to the book posts it to its holding. -/
theorem post_eq_ok {first : Option Realized} : book.post policy dated = .ok (next, first) ↔
    ∃ after, (book.holding (keyOf dated)).post policy dated = .ok (after, first) ∧
      next = book.insert (keyOf dated) after := by
  rw [post, Holding.post]
  constructor
  · intro posted
    obtain ⟨⟨after, pnl⟩, applied, posted⟩ := bind_eq_ok.mp posted
    cases posted
    exact ⟨after, by rw [keyOf, applied]; rfl, rfl⟩
  · rintro ⟨after, posted, rfl⟩
    obtain ⟨⟨after, pnl⟩, applied, posted⟩ := bind_eq_ok.mp posted
    cases posted
    rw [keyOf] at applied
    rw [applied]
    rfl

/-- The posted lines that belong to a holding. -/
def postedUnder (key : HoldingKey) (lines : List DatedLine) : List DatedLine :=
  lines.filter fun dated => keyOf dated = key

theorem postedUnder_own (own : keyOf dated = key) :
    postedUnder key (dated :: lines) = dated :: postedUnder key lines :=
  List.filter_cons_of_pos (by simpa using own)

theorem postedUnder_other (other : keyOf dated ≠ key) : postedUnder key (dated :: lines) = postedUnder key lines :=
  List.filter_cons_of_neg (by simpa using other)

theorem equityByDate_linesUnder (key : HoldingKey) (lines : List LedgerLine) :
    equityByDate (linesUnder key lines) = postedUnder key (equityByDate lines) :=
  equityByDate_filter (fun other => other = key) lines

/-- A run posts to each holding its own lines, and realizes what they realize. -/
theorem postAll_separates (ran : postAll policy book lines = .ok (final, realized)) :
    ∃ profits : HoldingKey → List Realized,
      (∀ key, (book.holding key).postAll policy (postedUnder key lines) = .ok (final.holding key, profits key)) ∧
      ∀ keys : Finset HoldingKey, (∀ dated ∈ lines, keyOf dated ∈ keys) →
        (realized : Multiset Realized) = ∑ key ∈ keys, (profits key : Multiset Realized) := by
  induction lines generalizing book realized with
  | nil =>
    cases ran
    exact ⟨fun _ => [], fun key => rfl, fun keys _ => Finset.sum_const_zero.symm⟩
  | cons dated rest ih =>
    obtain ⟨next, first, later, posted, followed, rfl⟩ := postAll_cons.mp ran
    obtain ⟨after, alone, rfl⟩ := post_eq_ok.mp posted
    obtain ⟨profits, holdings, sum⟩ := ih followed
    refine ⟨fun key => if key = keyOf dated then first.toList ++ profits key else profits key, ?_, ?_⟩
    · intro key
      have held := holdings key
      rw [holding_insert] at held
      dsimp only
      by_cases own : key = keyOf dated
      · subst own
        rw [if_pos rfl] at held
        rw [postedUnder_own rfl, if_pos rfl]
        exact Holding.postAll_cons.mpr ⟨after, first, profits _, alone, held, rfl⟩
      · rw [if_neg own] at held
        rw [postedUnder_other (Ne.symm own), if_neg own]
        exact held
    · intro keys covers
      have known : keyOf dated ∈ keys := covers dated List.mem_cons_self
      have parts : ∀ key ∈ keys,
          ((if key = keyOf dated then first.toList ++ profits key else profits key : List Realized) :
            Multiset Realized) =
          (if key = keyOf dated then (first.toList : Multiset Realized) else 0) + (profits key : Multiset Realized) := by
        intro key _
        by_cases own : key = keyOf dated <;> simp [own]
      rw [Finset.sum_congr rfl parts, Finset.sum_add_distrib, Finset.sum_ite_eq' , if_pos known,
        ← sum keys fun other member => covers other (List.mem_cons_of_mem _ member), Multiset.coe_add]

/-- Where the lines of every holding can be posted to it, a run can post them all. -/
theorem postAll_exists (alone : ∀ key, ∃ after mine,
    (book.holding key).postAll policy (postedUnder key lines) = .ok (after, mine)) :
    ∃ final realized, postAll policy book lines = .ok (final, realized) := by
  induction lines generalizing book with
  | nil => exact ⟨book, [], rfl⟩
  | cons dated rest ih =>
    obtain ⟨last, mine, own⟩ := alone (keyOf dated)
    rw [postedUnder_own rfl] at own
    obtain ⟨after, first, later, posted, followed, _⟩ := Holding.postAll_cons.mp own
    have others : ∀ key, ∃ last mine,
        (Book.holding (book.insert (keyOf dated) after) key).postAll policy (postedUnder key rest) =
          .ok (last, mine) := by
      intro key
      rw [holding_insert]
      by_cases same : key = keyOf dated
      · rw [if_pos same, same]
        exact ⟨last, later, followed⟩
      · have restAlone := alone key
        rw [postedUnder_other (Ne.symm same)] at restAlone
        rw [if_neg same]
        exact restAlone
    obtain ⟨final, realized, ran⟩ := ih others
    exact ⟨final, first.toList ++ realized,
      postAll_cons.mpr ⟨_, first, realized, post_eq_ok.mpr ⟨after, posted, rfl⟩, ran, rfl⟩⟩

theorem holding_of_get? {holding : Holding} (found : book.get? key = some holding) : book.holding key = holding := by
  rw [Book.holding, OrderedMap.getD, found, Option.getD_some]

/-- A run makes an entry for each holding with a line, and changes no other. -/
theorem get?_postAll (ran : postAll policy book lines = .ok (final, realized)) (key : HoldingKey) :
    final.get? key = if postedUnder key lines = [] then book.get? key else some (final.holding key) := by
  induction lines generalizing book realized with
  | nil =>
    cases ran
    rfl
  | cons dated rest ih =>
    obtain ⟨next, first, later, posted, followed, _⟩ := postAll_cons.mp ran
    obtain ⟨after, _, rfl⟩ := post_eq_ok.mp posted
    have entry := ih followed
    rw [OrderedMap.get?_insert] at entry
    by_cases own : key = keyOf dated
    · rw [postedUnder_own own.symm, if_neg (List.cons_ne_nil _ _)]
      rw [if_pos own] at entry
      split at entry
      · rw [entry, holding_of_get? entry]
      · exact entry
    · rw [postedUnder_other (Ne.symm own)]
      rwa [if_neg own] at entry

/-- A run over the lines of one holding posts them to it. -/
theorem postAll_alone (own : ∀ dated ∈ lines, keyOf dated = key) :
    (∃ alone, postAll policy book lines = .ok (alone, realized)) ↔
      ∃ after, (book.holding key).postAll policy lines = .ok (after, realized) := by
  induction lines generalizing book realized with
  | nil =>
    constructor
    · rintro ⟨alone, ran⟩
      cases ran
      exact ⟨_, rfl⟩
    · rintro ⟨after, ran⟩
      cases ran
      exact ⟨book, rfl⟩
  | cons dated rest ih =>
    obtain rfl := own dated List.mem_cons_self
    have others := fun other member => own other (List.mem_cons_of_mem dated member)
    have held : ∀ after, Book.holding (book.insert (keyOf dated) after) (keyOf dated) = after := by
      intro after
      rw [holding_insert, if_pos rfl]
    constructor
    · rintro ⟨alone, ran⟩
      obtain ⟨next, first, later, posted, followed, rfl⟩ := postAll_cons.mp ran
      obtain ⟨after, one, rfl⟩ := post_eq_ok.mp posted
      obtain ⟨last, followed⟩ := (ih others).mp ⟨alone, followed⟩
      rw [held] at followed
      exact ⟨last, Holding.postAll_cons.mpr ⟨after, first, later, one, followed, rfl⟩⟩
    · rintro ⟨last, ran⟩
      obtain ⟨after, first, later, posted, followed, rfl⟩ := Holding.postAll_cons.mp ran
      rw [← held after] at followed
      obtain ⟨alone, followed⟩ := (ih others).mpr ⟨last, followed⟩
      exact ⟨alone, postAll_cons.mpr ⟨_, first, later, post_eq_ok.mpr ⟨after, posted, rfl⟩, followed, rfl⟩⟩

theorem run_linesUnder_iff {lines : List LedgerLine} :
    (∃ alone, run policy book (linesUnder key lines) = .ok (alone, realized)) ↔
      ∃ after, (book.holding key).postAll policy (equityByDate (linesUnder key lines)) = .ok (after, realized) := by
  refine postAll_alone fun dated member => ?_
  rw [equityByDate_linesUnder] at member
  simpa using List.of_mem_filter member

/-- A ledger has a run exactly where the lines of every holding have one. -/
theorem run_exists_iff {lines : List LedgerLine} : (∃ ran, run policy book lines = .ok ran) ↔
    ∀ key, ∃ ran, run policy book (linesUnder key lines) = .ok ran := by
  constructor
  · rintro ⟨⟨final, realized⟩, ran⟩ key
    obtain ⟨profits, holdings, _⟩ := postAll_separates ran
    have held := holdings key
    rw [← equityByDate_linesUnder] at held
    obtain ⟨alone, ran⟩ := run_linesUnder_iff.mpr ⟨_, held⟩
    exact ⟨_, ran⟩
  · intro alone
    have holdings : ∀ key, ∃ after mine,
        (book.holding key).postAll policy (postedUnder key (equityByDate lines)) = .ok (after, mine) := by
      intro key
      obtain ⟨⟨last, mine⟩, ran⟩ := alone key
      obtain ⟨after, held⟩ := run_linesUnder_iff.mp ⟨last, ran⟩
      rw [equityByDate_linesUnder] at held
      exact ⟨after, mine, held⟩
    obtain ⟨final, realized, ran⟩ := postAll_exists holdings
    exact ⟨_, ran⟩

end Book

end TradeLedger
