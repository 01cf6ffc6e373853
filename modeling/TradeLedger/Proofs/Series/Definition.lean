import TradeLedger.Proofs.Decimal.Cents
import TradeLedger.Proofs.Series.Exact
import TradeLedger.Proofs.Series.Overlay

/-! What a curve is. Where no addition of a reconstruction rounds, the curve has a point for each
day that a line of its scope opens, in the order of the days, and a point shows the nearest cents of
what the lines up to its day bring in exactly. Cents are rounded where they are drawn and never added
up, so no column is ever off by more than half a cent. -/
namespace TradeLedger

open Decimal

namespace Flows

/-- The sums of all sources are exact. -/
def AddsExactly (a b : Flows) : Prop :=
  a.equity.AddsExactly b.equity ∧ a.options.AddsExactly b.options ∧ a.dividends.AddsExactly b.dividends ∧
    a.other.AddsExactly b.other

instance (a b : Flows) : Decidable (a.AddsExactly b) := inferInstanceAs (Decidable (_ ∧ _))

theorem add_exact {a b : Flows} (unrounded : a.AddsExactly b) :
    ∃ c, a.add b = .ok c ∧ ∀ source, (c.of source).toRat = (a.of source).toRat + (b.of source).toRat := by
  obtain ⟨⟨equity, equityAdded, equitySame⟩, ⟨options, optionsAdded, optionsSame⟩,
    ⟨dividends, dividendsAdded, dividendsSame⟩, ⟨other, otherAdded, otherSame⟩⟩ := unrounded
  refine ⟨⟨equity, options, dividends, other⟩, ?_, ?_⟩
  · rw [add, equityAdded, ok_bind, optionsAdded, ok_bind, dividendsAdded, ok_bind, otherAdded]
    rfl
  · intro source
    cases source with
    | equity => exact equitySame
    | options => exact optionsSame
    | dividends => exact dividendsSame
    | other => exact otherSame

/-- The sum over the sources is exact. -/
def TotalExact (flows : Flows) : Prop :=
  IsExact flows.total (flows.equity.toRat + flows.options.toRat + flows.dividends.toRat + flows.other.toRat)

instance (flows : Flows) : Decidable flows.TotalExact := inferInstanceAs (Decidable (IsExact ..))

end Flows

/-- The point as numbers: its day, its columns and its total. -/
def CurvePoint.figures (point : CurvePoint) : ℤ × ℚ × ℚ × ℚ × ℚ :=
  (point.date.dayNumber, point.equity.toRat, point.options.toRat, point.dividends.toRat, point.total.toRat)

/-- The point shows the nearest cents of these sums, and of all of them as its total. -/
structure CurvePoint.Shows (point : CurvePoint) (sums : Source → ℚ) : Prop where
  equity : point.equity.toRat = nearestCents (sums .equity)
  options : point.options.toRat = nearestCents (sums .options)
  dividends : point.dividends.toRat = nearestCents (sums .dividends)
  total : point.total.toRat =
    nearestCents (sums .equity + sums .options + sums .dividends + sums .other)

/-- No column of the point is further from these sums than the bound. -/
structure CurvePoint.Near (point : CurvePoint) (sums : Source → ℚ) (bound : ℚ) : Prop where
  equity : |point.equity.toRat - sums .equity| ≤ bound
  options : |point.options.toRat - sums .options| ≤ bound
  dividends : |point.dividends.toRat - sums .dividends| ≤ bound
  total : |point.total.toRat - (sums .equity + sums .options + sums .dividends + sums .other)| ≤ bound

theorem CurvePoint.Shows.near {point : CurvePoint} {sums : Source → ℚ} (shown : point.Shows sums) :
    point.Near sums (1 / 200) where
  equity := shown.equity ▸ abs_nearestCents_sub_le _
  options := shown.options ▸ abs_nearestCents_sub_le _
  dividends := shown.dividends ▸ abs_nearestCents_sub_le _
  total := shown.total ▸ abs_nearestCents_sub_le _

namespace Curve

variable {policy : ShortSales} {lines : List LedgerLine} {days : List (Date × Flows)} {running : Flows}

theorem point_shows (date : Date) (unrounded : running.TotalExact) :
    ∃ drawn, point date running = .ok drawn ∧ drawn.date = date ∧
      drawn.Shows fun source => (running.of source).toRat := by
  obtain ⟨total, summed, same⟩ := unrounded
  refine ⟨_, by rw [point, summed]; rfl, rfl, toRat_roundCents _, toRat_roundCents _, toRat_roundCents _, ?_⟩
  rw [toRat_roundCents, same]
  rfl

/-- The days are added up and drawn without rounding in between. -/
def AccumulatesExactly (running : Flows) (days : List (Date × Flows)) : Prop :=
  Along (fun running day => running.add day.2)
    (fun running day => running.AddsExactly day.2 ∧ whenever (running.add day.2) Flows.TotalExact) running days

instance (running : Flows) (days : List (Date × Flows)) : Decidable (AccumulatesExactly running days) :=
  Along.decidable running days

/-- What the days up to one add to what came before them. -/
def sumsUpTo (running : Flows) (days : List (Date × Flows)) (day : Date) (source : Source) : ℚ :=
  (running.of source).toRat + (days.map fun one => countedBy day one.1 (one.2.of source).toRat).sum

theorem sumsUpTo_of_later {day : Date} (later : ∀ one ∈ days, day < one.1) (source : Source) :
    sumsUpTo running days day source = (running.of source).toRat := by
  have nothing : (days.map fun one => countedBy day one.1 (one.2.of source).toRat).sum = 0 := by
    apply List.sum_eq_zero
    intro x member
    obtain ⟨one, known, rfl⟩ := List.mem_map.mp member
    have past : day.dayNumber < one.1.dayNumber := later one known
    exact if_neg fun early : one.1.dayNumber ≤ day.dayNumber => by omega
  rw [sumsUpTo, nothing, add_zero]

/-- A day at or after the first counts its flows in full, whatever comes after it. -/
theorem sumsUpTo_cons {date day : Date} {flows next : Flows}
    (sums : ∀ source, (next.of source).toRat = (running.of source).toRat + (flows.of source).toRat)
    (reached : date ≤ day) : sumsUpTo running ((date, flows) :: days) day = sumsUpTo next days day := by
  funext source
  rw [sumsUpTo, sumsUpTo, List.map_cons, List.sum_cons, sums, countedBy, if_pos reached, add_assoc]

/-- Days in order are added up without rounding: every point shows the sums up to its day. -/
theorem accumulate_exact (ascending : days.Pairwise fun a b => a.1 < b.1)
    (unrounded : AccumulatesExactly running days) :
    ∃ curve, accumulate running days = .ok curve ∧ curve.map CurvePoint.date = days.map Prod.fst ∧
      ∀ point ∈ curve, point.Shows (sumsUpTo running days point.date) := by
  induction days generalizing running with
  | nil => exact ⟨[], rfl, rfl, fun point member => by cases member⟩
  | cons day days ih =>
    obtain ⟨date, flows⟩ := day
    obtain ⟨later, ordered⟩ := List.pairwise_cons.mp ascending
    obtain ⟨adds, totals⟩ := unrounded.head
    obtain ⟨next, added, sums⟩ := Flows.add_exact adds
    rw [added] at totals
    obtain ⟨first, drawn, dated, shown⟩ := point_shows date totals
    obtain ⟨curve, accumulated, dates, points⟩ := ih ordered (unrounded.tail added)
    refine ⟨first :: curve, ?_, ?_, ?_⟩
    · rw [accumulate, added, ok_bind, drawn, ok_bind, accumulated]
      rfl
    · rw [List.map_cons, List.map_cons, dates, dated]
    · intro point member
      rcases List.mem_cons.mp member with rfl | rest
      · have same : (fun source => (next.of source).toRat) = sumsUpTo next days point.date :=
          funext fun source => (sumsUpTo_of_later (by rwa [dated]) source).symm
        rw [sumsUpTo_cons sums (by rw [dated]; exact Int.le_refl _), ← same]
        exact shown
      · have known : point.date ∈ days.map Prod.fst := dates ▸ List.mem_map_of_mem rest
        obtain ⟨one, listed, same⟩ := List.mem_map.mp known
        have past : date.dayNumber < point.date.dayNumber := same ▸ later one listed
        rw [sumsUpTo_cons sums past.le]
        exact points point rest

end Curve

/-- What the lines of a source that are dated up to a day amount to. -/
def cashUpTo (lines : List LedgerLine) (source : Source) (day : Date) : ℚ :=
  ((lines.filter fun line => line.instrument.source = source && line.date.any fun date => date ≤ day).map
    fun line => line.amount.toRat).sum

/-- What is realized up to a day. -/
def profitUpTo (gained : List Realized) (day : Date) : ℚ :=
  ((gained.filter fun one => one.date ≤ day).map fun one => one.pnl.toRat).sum

/-- The exact sums behind a point: the profits of the run for shares, and the cash of the lines for
everything else. -/
def sumsAt (lines : List LedgerLine) (gained : List Realized) (day : Date) : Source → ℚ
  | .equity => profitUpTo gained day
  | source => cashUpTo lines source day

theorem sum_pnlBy (gained : List Realized) (day : Date) :
    (gained.map fun one => one.pnlBy day).sum = profitUpTo gained day := by
  induction gained with
  | nil => rfl
  | cons one gained ih =>
    rw [List.map_cons, List.sum_cons, ih]
    by_cases past : one.date ≤ day <;> simp [profitUpTo, Realized.pnlBy, countedBy, past]

theorem sum_cashBy (lines : List LedgerLine) {source : Source} (cash : source ≠ .equity) (day : Date) :
    (lines.map fun line => line.cashBy source day).sum = cashUpTo lines source day := by
  induction lines with
  | nil => rfl
  | cons line lines ih =>
    have own : line.instrument.source = source → line.instrument ≠ .equity := by
      rintro rfl about
      exact cash (Instrument.source_eq_equity.mpr about)
    rw [List.map_cons, List.sum_cons, ih]
    by_cases about : line.instrument.source = source
    · cases known : line.date with
      | none => simp [cashUpTo, LedgerLine.cashBy, known]
      | some date =>
        by_cases past : date ≤ day <;>
          simp [cashUpTo, LedgerLine.cashBy, LedgerLine.cashFor, countedBy, known, about, own about, past]
    · cases known : line.date with
      | none => simp [cashUpTo, LedgerLine.cashBy, known]
      | some date => simp [cashUpTo, LedgerLine.cashBy, LedgerLine.cashFor, countedBy, known, about]

theorem sum_cashBy_equity (lines : List LedgerLine) (day : Date) :
    (lines.map fun line => line.cashBy .equity day).sum = 0 := by
  apply List.sum_eq_zero
  intro x member
  obtain ⟨line, _, rfl⟩ := List.mem_map.mp member
  have nothing : line.cashFor .equity = 0 := if_neg fun both => both.1 (Instrument.source_eq_equity.mp both.2)
  rw [LedgerLine.cashBy, nothing]
  cases line.date with
  | none => rfl
  | some date => exact ite_self _

/-- No addition of a reconstruction overflows or rounds: neither those of the cash of the lines, of
the profits of a day and of the profits to the flows of their days, nor those of the days and of the
sources of a point. -/
structure SumsExactly (policy : ShortSales) (lines : List LedgerLine) : Prop where
  cash : Along DailyFlows.addLine DailyFlows.LineExact ∅ lines
  profits : whenever (Book.run policy ∅ lines) fun ran => Along addRealized RealizedExact ∅ ran.2
  equity : whenever (lines.foldlM DailyFlows.addLine ∅) fun days =>
    whenever (realizedByDate policy lines) fun sums =>
      Along DailyFlows.addEquity DailyFlows.EquityExact days sums.entries
  running : whenever (DailyFlows.ofLines policy lines) fun days => Curve.AccumulatesExactly .zero days.entries

instance (policy : ShortSales) (lines : List LedgerLine) : Decidable (SumsExactly policy lines) :=
  decidable_of_iff (_ ∧ _ ∧ _ ∧ _)
    ⟨fun ⟨cash, profits, equity, running⟩ => ⟨cash, profits, equity, running⟩,
      fun ⟨cash, profits, equity, running⟩ => ⟨cash, profits, equity, running⟩⟩

/-- No addition into the days overflows or rounds: neither of the cash of the lines, nor of the profits
of a day, nor of those to the flows of their days. -/
structure FillsExactly (policy : ShortSales) (lines : List LedgerLine) : Prop where
  cash : Along DailyFlows.addLine DailyFlows.LineExact ∅ lines
  profits : whenever (Book.run policy ∅ lines) fun ran => Along addRealized RealizedExact ∅ ran.2
  equity : whenever (lines.foldlM DailyFlows.addLine ∅) fun days =>
    whenever (realizedByDate policy lines) fun sums =>
      Along DailyFlows.addEquity DailyFlows.EquityExact days sums.entries

instance (policy : ShortSales) (lines : List LedgerLine) : Decidable (FillsExactly policy lines) :=
  decidable_of_iff (_ ∧ _ ∧ _)
    ⟨fun ⟨cash, profits, equity⟩ => ⟨cash, profits, equity⟩, fun ⟨cash, profits, equity⟩ => ⟨cash, profits, equity⟩⟩

theorem SumsExactly.fills {policy : ShortSales} {lines : List LedgerLine} (unrounded : SumsExactly policy lines) :
    FillsExactly policy lines where
  cash := unrounded.cash
  profits := unrounded.profits
  equity := unrounded.equity

/-- A profit belongs to a day that a line opens. -/
theorem opens_of_realized {policy : ShortSales} {lines : List LedgerLine} {book : Book} {gained : List Realized}
    (ran : Book.run policy ∅ lines = .ok (book, gained)) {one : Realized} (member : one ∈ gained) :
    ∃ line ∈ lines, line.Opens one.date := by
  obtain ⟨dated, posted, same, moves⟩ := Book.exists_of_realized ran member
  obtain ⟨line, known, equity⟩ := exists_of_mem_equityByDate posted
  have line_eq := DatedLine.line_of_equity equity
  refine ⟨line, known, ?_, fun idle => moves (line_eq ▸ idle.2)⟩
  rw [← same]
  exact DatedLine.date_of_equity equity

namespace DailyFlows

variable {policy : ShortSales} {lines : List LedgerLine}

/-- The flows of a ledger hold the exact sums, on the days that its lines open. -/
theorem ofLines_fills {book : Book} {gained : List Realized} (ran : Book.run policy ∅ lines = .ok (book, gained))
    (unrounded : FillsExactly policy lines) :
    ∃ days, ofLines policy lines = .ok days ∧ (∀ source day, days.upTo source day = sumsAt lines gained day source) ∧
      ∀ date, date ∈ days.keys ↔ ∃ line ∈ lines, line.Opens date := by
  obtain ⟨days, filled, cash, opened⟩ := addLines_exact unrounded.cash
  have profitsExact := unrounded.profits
  rw [ran] at profitsExact
  obtain ⟨sums, added, profits, realizedOn⟩ := addAllRealized_exact profitsExact
  have byDate : realizedByDate policy lines = .ok sums := by
    rw [realizedByDate, ran, ok_bind]
    exact added
  have equityExact := unrounded.equity
  rw [filled, byDate] at equityExact
  obtain ⟨final, joined, equity, keys⟩ := addEquities_exact equityExact
  refine ⟨final, by rw [ofLines, filled, ok_bind, byDate, ok_bind, joined], ?_, ?_⟩
  · intro source day
    have nothing : upTo ∅ source day = 0 := rfl
    rw [equity, cash, nothing, zero_add]
    by_cases own : source = .equity
    · subst own
      have entries : (sums.entries.map fun one => countedBy day one.1 one.2.toRat).sum = profitUpTo gained day := by
        rw [← sum_pnlBy, ← zero_add (gained.map _).sum]
        exact profits day
      rw [sum_cashBy_equity, zero_add, sumsAt, ← entries]
      rfl
    · have none : (sums.entries.map fun one => profitBy one source day).sum = 0 := by
        apply List.sum_eq_zero
        intro x member
        obtain ⟨one, _, rfl⟩ := List.mem_map.mp member
        exact if_neg own
      rw [sum_cashBy lines own, none, add_zero, sumsAt]
      exact own
  · intro date
    rw [keys, opened]
    constructor
    · rintro ((old | opens) | ⟨one, listed, rfl⟩)
      · cases old
      · exact opens
      · have known : one.1 ∈ sums.keys := List.mem_map_of_mem listed
        rcases (realizedOn one.1).mp known with old | ⟨profit, member, same⟩
        · cases old
        · rw [same]
          exact opens_of_realized ran member
    · exact fun opens => .inl (.inr opens)

theorem ofLines_exact {book : Book} {gained : List Realized} (ran : Book.run policy ∅ lines = .ok (book, gained))
    (unrounded : SumsExactly policy lines) :
    ∃ days, ofLines policy lines = .ok days ∧ (∀ source day, days.upTo source day = sumsAt lines gained day source) ∧
      ∀ date, date ∈ days.keys ↔ ∃ line ∈ lines, line.Opens date :=
  ofLines_fills ran unrounded.fills

end DailyFlows

namespace Curve

variable {policy : ShortSales} {scope : Scope} {lines : List LedgerLine}

/-- The days of a map are in order, each once. -/
theorem ascending_days (days : DailyFlows) : days.entries.Pairwise fun a b => a.1 < b.1 := by
  refine days.ascending.imp fun {a b} less => ?_
  change compare a.1.dayNumber b.1.dayNumber = .lt at less
  exact compare_lt_iff_lt.mp less

theorem sumsUpTo_zero (days : DailyFlows) (day : Date) (source : Source) :
    sumsUpTo .zero days.entries day source = days.upTo source day := by
  rw [sumsUpTo, Flows.of_zero, toRat_zero, zero_add]
  rfl

/-- Some of the lines in a scope are those in the scope of some lines. -/
theorem linesIn_filter (scope : Scope) (keep : LedgerLine → Bool) (lines : List LedgerLine) :
    linesIn scope (lines.filter keep) = (linesIn scope lines).filter keep := by
  rw [linesIn, linesIn, List.filter_filter, List.filter_filter]
  simp only [Bool.and_comm]

/-- Where the run of the shares of a scope has an answer and no addition rounds, what is realized in the
scope has a curve with a point for each day that a line opens, and every point shows the nearest cents of
the exact sums up to its day. -/
theorem realized_shows {book : Book} {gained : List Realized}
    (ran : Book.run policy ∅ (linesIn scope lines) = .ok (book, gained))
    (unrounded : SumsExactly policy (linesIn scope lines)) :
    ∃ curve, realized policy lines scope = .ok curve ∧ (curve.map CurvePoint.date).Pairwise (· < ·) ∧
      (∀ date, date ∈ curve.map CurvePoint.date ↔ ∃ line ∈ linesIn scope lines, line.Opens date) ∧
      ∀ point ∈ curve, point.Shows (sumsAt (linesIn scope lines) gained point.date) := by
  obtain ⟨days, filled, sums, opened⟩ := DailyFlows.ofLines_exact ran unrounded
  have running := unrounded.running
  rw [filled] at running
  obtain ⟨curve, accumulated, dates, points⟩ := accumulate_exact (ascending_days days) running
  refine ⟨curve, by rw [realized, filled, ok_bind, accumulated], ?_, ?_, ?_⟩
  · rw [dates]
    exact List.pairwise_map.mpr (ascending_days days)
  · intro date
    rw [dates, ← opened]
    exact Iff.rfl
  · intro point member
    have same : sumsUpTo .zero days.entries point.date = sumsAt (linesIn scope lines) gained point.date :=
      funext fun source => by rw [sumsUpTo_zero, sums]
    exact same ▸ points point member

/-- The reconstructed curve is what it should be. Its days ascend and are those that the lines of the scope
open, and each point shows the nearest cents of what these lines bring in exactly up to its day, so that it
is never more than half a cent away. -/
theorem reconstruct_eq_sums {book : Book} {gained : List Realized}
    (ran : Book.run policy ∅ (lines.filter fun line => scope.contains line.account line.symbol) = .ok (book, gained))
    (unrounded : SumsExactly policy (lines.filter fun line => scope.contains line.account line.symbol))
    (today : Date) :
    ∃ curve, reconstruct policy lines [] scope today = .ok curve ∧
      (curve.map CurvePoint.date).Pairwise (· < ·) ∧
      (∀ date, date ∈ curve.map CurvePoint.date ↔
        ∃ line ∈ lines, scope.contains line.account line.symbol = true ∧ line.Opens date) ∧
      ∀ point ∈ curve,
        point.Shows (sumsAt (lines.filter fun line => scope.contains line.account line.symbol) gained point.date) ∧
        point.Near (sumsAt (lines.filter fun line => scope.contains line.account line.symbol) gained point.date)
          (1 / 200) := by
  obtain ⟨curve, drawn, ascending, opened, points⟩ := realized_shows ran unrounded
  refine ⟨curve, by rw [reconstruct_nil, drawn], ascending, fun date => ?_, fun point member => ?_⟩
  · simp only [opened, linesIn, List.mem_filter, and_assoc]
  · have shown := points point member
    exact ⟨shown, shown.near⟩

/-- A ledger with lines of every source, among them one of another account and one about shares that
has no quantity. -/
def mixedLines : List LedgerLine :=
  [⟨"A", "X", "X", .equity, Date.ofDayNumber? 2, .sell, .ofUInt32 1, .ofUInt32 5⟩,
    ⟨"A", "X", "X", .equity, Date.ofDayNumber? 1, .buy, .ofUInt32 3, .ofUInt32 10⟩,
    ⟨"A", "X", "X", .equity, Date.ofDayNumber? 5, .buy, .zero, .ofUInt32 2⟩,
    ⟨"A", "X", "X C 10", .call, Date.ofDayNumber? 2, .sell, .ofUInt32 1, .ofUInt32 7⟩,
    ⟨"A", "X", "X", .dividend, Date.ofDayNumber? 3, .dividend, .zero, .ofUInt32 1⟩,
    ⟨"A", "", "", .other, Date.ofDayNumber? 2, .other "transfer", .zero, .ofUInt32 4⟩,
    ⟨"B", "X", "X P 10", .put, Date.ofDayNumber? 4, .sell, .ofUInt32 1, .ofUInt32 9⟩]

/-- The third of the cost that is sold on day 2 is 3.33, and day 5 and the day of the other account have no
point. -/
theorem mixed_lines_eq_sums : ∃ book gained curve,
    Book.run .proceedsAsPnl ∅ (mixedLines.filter fun line => (Scope.account "A").contains line.account line.symbol) =
        .ok (book, gained) ∧
      SumsExactly .proceedsAsPnl
        (mixedLines.filter fun line => (Scope.account "A").contains line.account line.symbol) ∧
      reconstruct .proceedsAsPnl mixedLines [] (.account "A") ⟨9, by decide, by decide⟩ = .ok curve ∧
      curve.map CurvePoint.figures =
        [(1, 0, 0, 0, 0), (2, 167 / 100, 7, 0, 1267 / 100), (3, 167 / 100, 7, 1, 1367 / 100)] ∧
      ∀ point ∈ curve, point.Shows (sumsAt (mixedLines.filter fun line =>
        (Scope.account "A").contains line.account line.symbol) gained point.date) := by
  have unrounded : SumsExactly .proceedsAsPnl
      (mixedLines.filter fun line => (Scope.account "A").contains line.account line.symbol) := by decide +kernel
  obtain ⟨⟨book, gained⟩, ran⟩ := exists_of_isOk (show (Book.run .proceedsAsPnl ∅
    (mixedLines.filter fun line => (Scope.account "A").contains line.account line.symbol)).isOk by decide +kernel)
  obtain ⟨curve, drawn, _, _, points⟩ := reconstruct_eq_sums ran unrounded ⟨9, by decide, by decide⟩
  exact ⟨book, gained, curve, ran, unrounded, drawn, eq_of_map_eq_ok drawn (by decide +kernel),
    fun point member => (points point member).1⟩

end Curve

end TradeLedger
