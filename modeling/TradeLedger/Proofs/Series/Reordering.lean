import TradeLedger.Proofs.Inventory.Separation
import TradeLedger.Proofs.Series.Figures
import TradeLedger.Proofs.Series.Steps

/-! The order of a ledger. Lines may be listed in any order as long as the dated equity lines of one
holding and day keep theirs: each holding then sees the same lines in the same order, so the book at
the end is the same, and so is what is realized, in some order. Where no addition into the days rounds,
their sums do not depend on that order, and neither do the curves. -/
namespace TradeLedger

open Decimal

/-- The equity lines of a holding on a day. -/
def sharesOn (key : HoldingKey) (date : Date) (lines : List LedgerLine) : List LedgerLine :=
  lines.filter fun line => line.instrument = .equity && HoldingKey.ofLine line = key && line.date = some date

/-- Two ledgers of the same lines, in an order that may differ except among the equity lines of one
holding on one day. -/
structure Reordered (lines others : List LedgerLine) : Prop where
  perm : lines.Perm others
  shares : ∀ key date, sharesOn key date lines = sharesOn key date others

namespace Reordered

variable {lines others : List LedgerLine}

/-- It is enough to look at the holdings and days of the lines. -/
theorem iff_of_lines : Reordered lines others ↔ lines.Perm others ∧ ∀ line ∈ lines, ∀ date ∈ line.date,
    sharesOn (.ofLine line) date lines = sharesOn (.ofLine line) date others := by
  constructor
  · intro reordered
    exact ⟨reordered.perm, fun line _ date _ => reordered.shares _ date⟩
  · rintro ⟨perm, days⟩
    refine ⟨perm, fun key date => ?_⟩
    by_cases traded : ∃ line ∈ lines, HoldingKey.ofLine line = key ∧ line.date = some date
    · obtain ⟨line, member, rfl, known⟩ := traded
      exact days line member date known
    · have none : ∀ those, (∀ line ∈ those, line ∈ lines) → sharesOn key date those = [] := by
        intro those among
        rw [sharesOn, List.filter_eq_nil_iff]
        intro line member kept
        simp only [Bool.and_eq_true, decide_eq_true_eq] at kept
        exact traded ⟨line, among line member, kept.1.2, kept.2⟩
      rw [none lines fun _ => id, none others fun _ => perm.mem_iff.mpr]

instance (lines others : List LedgerLine) : Decidable (Reordered lines others) :=
  decidable_of_iff _ iff_of_lines.symm

/-- The lines of a scope are reordered with their ledger. -/
theorem linesIn (reordered : Reordered lines others) (scope : Scope) :
    Reordered (Curve.linesIn scope lines) (Curve.linesIn scope others) where
  perm := reordered.perm.filter _
  shares key date := by
    have within : ∀ lines, sharesOn key date (Curve.linesIn scope lines) =
        Curve.linesIn scope (sharesOn key date lines) :=
      fun lines => (Curve.linesIn_filter scope _ lines).symm
    rw [within, within, reordered.shares]

/-- Each holding sees the same lines in the same order. -/
theorem posts_alike (reordered : Reordered lines others) (key : HoldingKey) :
    equityByDate (linesUnder key lines) = equityByDate (linesUnder key others) := by
  have onDay : ∀ (date : Date) lines,
      ((linesUnder key lines).filter fun line => line.instrument = .equity && line.date = some date) =
        sharesOn key date lines := by
    intro date lines
    rw [linesUnder, List.filter_filter, sharesOn]
    simp only [Bool.and_right_comm]
  refine (stableByDate_equityByDate _).unique (stableByDate_equityByDate _) fun date => ?_
  rw [onDay, onDay, reordered.shares]

/-- The book at the end is the same, and what is realized is, in some order; or neither run has an
answer. -/
theorem run_agrees (reordered : Reordered lines others) (policy : ShortSales) (book : Book) :
    Agree (fun first second : Book × List Realized => first.1 = second.1 ∧ first.2.Perm second.2)
      (book.run policy lines) (book.run policy others) := by
  have alone : ∀ key, book.run policy (linesUnder key lines) = book.run policy (linesUnder key others) := by
    intro key
    rw [Book.run, Book.run, reordered.posts_alike]
  have exists_iff : (∃ ran, book.run policy lines = .ok ran) ↔ ∃ ran, book.run policy others = .ok ran := by
    rw [Book.run_exists_iff, Book.run_exists_iff]
    simp only [alone]
  by_cases answered : ∃ ran, book.run policy lines = .ok ran
  · obtain ⟨⟨final, realized⟩, ran⟩ := answered
    obtain ⟨⟨final', realized'⟩, ran'⟩ := exists_iff.mp ⟨_, ran⟩
    obtain ⟨profits, holdings, sum⟩ := Book.postAll_separates ran
    obtain ⟨profits', holdings', sum'⟩ := Book.postAll_separates ran'
    have same : ∀ key, final.holding key = final'.holding key ∧ profits key = profits' key := by
      intro key
      have held := holdings key
      rw [← Book.equityByDate_linesUnder, reordered.posts_alike, Book.equityByDate_linesUnder, holdings' key] at held
      obtain ⟨states, emitted⟩ := Prod.mk.inj (Except.ok.inj held)
      exact ⟨states.symm, emitted.symm⟩
    rw [ran, ran']
    constructor
    · apply OrderedMap.ext_get?
      intro key
      rw [Book.get?_postAll ran, Book.get?_postAll ran', ← Book.equityByDate_linesUnder, reordered.posts_alike,
        Book.equityByDate_linesUnder, (same key).1]
    · let keys := ((equityByDate lines ++ equityByDate others).map Book.keyOf).toFinset
      have covers : ∀ dated ∈ equityByDate lines ++ equityByDate others, Book.keyOf dated ∈ keys := by
        intro dated member
        exact List.mem_toFinset.mpr (List.mem_map_of_mem member)
      rw [← Multiset.coe_eq_coe, sum keys fun dated member => covers dated (List.mem_append_left _ member),
        sum' keys fun dated member => covers dated (List.mem_append_right _ member)]
      exact Finset.sum_congr rfl fun key _ => by rw [(same key).2]
  · exact .of_not_ok answered fun other => answered (exists_iff.mpr other)

/-- The sums of the sources are the same on every day. -/
theorem sumsAt_eq (reordered : Reordered lines others) {gained gained' : List Realized}
    (profits : gained.Perm gained') : sumsAt lines gained = sumsAt others gained' := by
  funext day source
  by_cases own : source = .equity
  · subst own
    exact ((profits.filter _).map _).sum_eq
  · rw [sumsAt_of_ne own, sumsAt_of_ne own]
    exact ((reordered.perm.filter _).map _).sum_eq

end Reordered

/-- Ascending days are known from their dates and the sums up to each day. -/
theorem sameDays_of_sums {days others : List (Date × Flows)} (left : days.Pairwise fun a b => a.1 < b.1)
    (right : others.Pairwise fun a b => a.1 < b.1) (dates : days.map Prod.fst = others.map Prod.fst)
    (sums : ∀ day source, Curve.sumsUpTo .zero days day source = Curve.sumsUpTo .zero others day source) :
    SameDays days others := by
  induction days generalizing others with
  | nil =>
    rw [List.map_nil, eq_comm, List.map_eq_nil_iff] at dates
    rw [dates]
    exact .nil
  | cons one days ih =>
    cases others with
    | nil => cases dates
    | cons other others =>
      obtain ⟨date, flows⟩ := one
      obtain ⟨date', flows'⟩ := other
      obtain ⟨rfl, rest⟩ := List.cons.inj dates
      obtain ⟨later, days⟩ := List.pairwise_cons.mp left
      obtain ⟨later', others⟩ := List.pairwise_cons.mp right
      have parts : ∀ (flows : Flows) days day source, Curve.sumsUpTo .zero ((date, flows) :: days) day source =
          countedBy day date (flows.of source).toRat + Curve.sumsUpTo .zero days day source := by
        intro flows days day source
        rw [Curve.sumsUpTo, Curve.sumsUpTo, List.map_cons, List.sum_cons]
        ring
      -- Up to the first day only its own flows count.
      have same : ∀ source, (flows.of source).toRat = (flows'.of source).toRat := by
        intro source
        have first := sums date source
        rw [parts, parts, Curve.sumsUpTo_of_later later, Curve.sumsUpTo_of_later later'] at first
        have level : date ≤ date := Int.le_refl _
        simpa [countedBy, level] using first
      refine .cons ⟨rfl, same⟩ (ih days others rest fun day source => ?_)
      have both := sums day source
      rw [parts, parts, same] at both
      exact add_left_cancel both

namespace Reordered

variable {lines others : List LedgerLine} {policy : ShortSales}

/-- The flows of the days hold the same numbers, unless neither ledger has any. -/
theorem ofLines_agrees (reordered : Reordered lines others) (unrounded : FillsExactly policy lines)
    (unrounded' : FillsExactly policy others) :
    Agree (fun days days' : DailyFlows => SameDays days.entries days'.entries)
      (DailyFlows.ofLines policy lines) (DailyFlows.ofLines policy others) := by
  rcases (reordered.run_agrees policy ∅).ok_or_error with ⟨ran, ran', first, second, _, gained⟩ | ⟨_, _, first, second⟩
  · obtain ⟨days, filled, sums, opened⟩ := DailyFlows.ofLines_fills first unrounded
    obtain ⟨days', filled', sums', opened'⟩ := DailyFlows.ofLines_fills second unrounded'
    rw [filled, filled']
    refine sameDays_of_sums (Curve.ascending_days days) (Curve.ascending_days days') ?_ ?_
    · refine OrderedMap.keys_congr fun date => ?_
      rw [opened, opened']
      simp only [reordered.perm.mem_iff]
    · intro day source
      rw [Curve.sumsUpTo_zero, Curve.sumsUpTo_zero, sums, sums', reordered.sumsAt_eq gained]
  · refine .of_not_ok ?_ ?_
    · rintro ⟨days, filled⟩
      obtain ⟨_, _, ran⟩ := DailyFlows.run_of_ofLines filled
      cases first.symm.trans ran
    · rintro ⟨days, filled⟩
      obtain ⟨_, _, ran⟩ := DailyFlows.run_of_ofLines filled
      cases second.symm.trans ran

end Reordered

/-- Open positions in any order bring the same profit where no addition rounds. -/
theorem Unrealized.ofPositions_agrees {positions shuffled : List Position} (same : positions.Perm shuffled)
    (unrounded : SplitsExactly positions) (unrounded' : SplitsExactly shuffled) :
    Agree SameFigures (ofPositions positions) (ofPositions shuffled) := by
  obtain ⟨profit, added, equity, options⟩ := ofPositions_exact unrounded
  obtain ⟨profit', added', equity', options'⟩ := ofPositions_exact unrounded'
  rw [added, added']
  refine ⟨?_, ?_⟩
  · exact equity.trans ((same.map _).sum_eq.trans equity'.symm)
  · exact options.trans ((same.map _).sum_eq.trans options'.symm)

/-- Ledgers that differ in the order of their lines, except among the equity lines of one holding on one
day, and positions in any order: runs from any book end in the same book, or none has an answer. Where
no addition into the days and none of the unrealized profits rounds, the curves of every scope show the
same figures on the same days. -/
theorem Reordered.reconstruct_agrees {lines others : List LedgerLine} {positions shuffled : List Position}
    (reordered : Reordered lines others) (same : positions.Perm shuffled) :
    (∀ policy (book : Book), Agree (fun first second : Book × List Realized => first.1 = second.1)
      (book.run policy lines) (book.run policy others)) ∧
    ∀ policy scope today,
      FillsExactly policy (Curve.linesIn scope lines) → FillsExactly policy (Curve.linesIn scope others) →
      Unrealized.SplitsExactly (Curve.positionsIn scope positions) →
      Unrealized.SplitsExactly (Curve.positionsIn scope shuffled) →
      Agree Curve.SameFigures (Curve.reconstruct policy lines positions scope today)
        (Curve.reconstruct policy others shuffled scope today) := by
  constructor
  · intro policy book
    exact (reordered.run_agrees policy book).imp fun _ _ both => both.1
  · intro policy scope today filled filled' split split'
    rw [Curve.reconstruct, Curve.reconstruct, Curve.realized, Curve.realized]
    have nothing : Flows.zero.SameFigures .zero := fun _ => rfl
    have drawn := ((reordered.linesIn scope).ofLines_agrees filled filled').bind fun _ _ days =>
      Curve.accumulate_agrees nothing days
    refine drawn.bind fun _ _ curves => ?_
    refine (Unrealized.ofPositions_agrees (same.filter _) split split').bind fun _ _ profits => ?_
    exact Curve.overlay_agrees curves profits today

/-- Shares bought and partly sold on one day, under both cases of their symbol, shares of another symbol
bought on that day, an option and a dividend. -/
def Curve.dayOfTrades : List LedgerLine :=
  [⟨"A", "X", "X", .equity, Date.ofDayNumber? 1, .buy, .ofUInt32 3, .ofUInt32 10⟩,
    ⟨"A", "Y", "Y", .equity, Date.ofDayNumber? 1, .buy, .ofUInt32 1, .ofUInt32 2⟩,
    ⟨"A", "x", "X", .equity, Date.ofDayNumber? 1, .sell, .ofUInt32 1, .ofUInt32 5⟩,
    ⟨"A", "X", "X C 10", .call, Date.ofDayNumber? 2, .sell, .ofUInt32 1, .ofUInt32 7⟩,
    ⟨"A", "X", "X", .dividend, Date.ofDayNumber? 1, .dividend, .zero, .ofUInt32 1⟩]

/-- The shares that are left and another option. -/
def Curve.leftOpen : List Position :=
  [⟨"A", "X", "X", .equity, .ofUInt32 2, .ofUInt32 4, .ofUInt32 9⟩,
    ⟨"A", "X", "X P 10", .put, .ofUInt32 1, .ofUInt32 3, .ofUInt32 3⟩]

theorem Reordered.day_of_trades_agrees :
    Reordered Curve.dayOfTrades (Curve.dayOfTrades.rotate 3) ∧
      ∃ book gained gained' curve curve',
        Book.run .proceedsAsPnl ∅ Curve.dayOfTrades = .ok (book, gained) ∧
        Book.run .proceedsAsPnl ∅ (Curve.dayOfTrades.rotate 3) = .ok (book, gained') ∧
        Curve.reconstruct .proceedsAsPnl Curve.dayOfTrades Curve.leftOpen .all ⟨9, by decide, by decide⟩ = .ok curve ∧
        Curve.reconstruct .proceedsAsPnl (Curve.dayOfTrades.rotate 3) Curve.leftOpen.reverse .all
          ⟨9, by decide, by decide⟩ = .ok curve' ∧
        curve.SameFigures curve' := by
  have reordered : Reordered Curve.dayOfTrades (Curve.dayOfTrades.rotate 3) := by decide +kernel
  obtain ⟨runs, curves⟩ := reordered.reconstruct_agrees (List.reverse_perm Curve.leftOpen).symm
  have run := runs .proceedsAsPnl ∅
  have drawn := curves .proceedsAsPnl .all ⟨9, by decide, by decide⟩ (by decide +kernel) (by decide +kernel)
    (by decide +kernel) (by decide +kernel)
  obtain ⟨⟨book, gained⟩, ran⟩ := exists_of_isOk
    (show (Book.run .proceedsAsPnl ∅ Curve.dayOfTrades).isOk by decide +kernel)
  obtain ⟨⟨book', gained'⟩, ran'⟩ := exists_of_isOk
    (show (Book.run .proceedsAsPnl ∅ (Curve.dayOfTrades.rotate 3)).isOk by decide +kernel)
  obtain ⟨curve, first⟩ := exists_of_isOk (show (Curve.reconstruct .proceedsAsPnl Curve.dayOfTrades Curve.leftOpen
    .all ⟨9, by decide, by decide⟩).isOk by decide +kernel)
  obtain ⟨curve', second⟩ := exists_of_isOk (show (Curve.reconstruct .proceedsAsPnl (Curve.dayOfTrades.rotate 3)
    Curve.leftOpen.reverse .all ⟨9, by decide, by decide⟩).isOk by decide +kernel)
  rw [ran, ran'] at run
  rw [first, second] at drawn
  obtain rfl : book = book' := run
  exact ⟨reordered, book, gained, gained', curve, curve', ran, ran', first, second, drawn⟩

end TradeLedger
