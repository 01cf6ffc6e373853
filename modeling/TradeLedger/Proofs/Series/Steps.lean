import TradeLedger.Proofs.Series.Definition

/-! Curves as step functions. A curve shows a figure from the day of its point until the day of the
next one, and nothing before its first point. Where no addition rounds it shows, on every day of the
calendar, the nearest cents of what has come in exactly by then: between two points no line of its
scope brings anything. -/
namespace TradeLedger

open Decimal

/-- The figures of a point. -/
inductive Column where
  | equity
  | options
  | dividends
  | total
  deriving DecidableEq

/-- The figure that a point shows in a column. -/
def CurvePoint.figure (point : CurvePoint) : Column → Decimal
  | .equity => point.equity
  | .options => point.options
  | .dividends => point.dividends
  | .total => point.total

/-- What a column counts of the sums of the sources. -/
def Column.count (sums : Source → ℚ) : Column → ℚ
  | .equity => sums .equity
  | .options => sums .options
  | .dividends => sums .dividends
  | .total => sums .equity + sums .options + sums .dividends + sums .other

theorem Column.count_zero (column : Column) : column.count (fun _ => 0) = 0 := by
  cases column <;> simp [Column.count]

theorem Column.count_whole {sums : Source → ℚ} (whole : ∀ source, WholeCents (sums source)) (column : Column) :
    WholeCents (column.count sums) := by
  cases column with
  | equity => exact whole .equity
  | options => exact whole .options
  | dividends => exact whole .dividends
  | total => exact (((whole .equity).add (whole .options)).add (whole .dividends)).add (whole .other)

theorem CurvePoint.Shows.figure {point : CurvePoint} {sums : Source → ℚ} (shown : point.Shows sums)
    (column : Column) : (point.figure column).toRat = nearestCents (column.count sums) := by
  cases column with
  | equity => exact shown.equity
  | options => exact shown.options
  | dividends => exact shown.dividends
  | total => exact shown.total

section Sums

variable {policy : ShortSales} {lines : List LedgerLine} {book : Book} {gained : List Realized} {first second : Date}

theorem sumsAt_of_ne {source : Source} (cash : source ≠ .equity) (lines : List LedgerLine) (gained : List Realized)
    (day : Date) : sumsAt lines gained day source = cashUpTo lines source day := by
  cases source with
  | equity => exact absurd rfl cash
  | options => rfl
  | dividends => rfl
  | other => rfl

/-- A line that brings cash opens its day. -/
theorem LedgerLine.opens_of_cash {line : LedgerLine} {date : Date} (cash : line.instrument.source ≠ .equity)
    (known : line.date = some date) : line.Opens date :=
  ⟨known, fun shares => cash (Instrument.source_eq_equity.mpr shares.1)⟩

/-- The sums stay as they are over days that no line opens. -/
theorem sumsAt_congr (ran : Book.run policy ∅ lines = .ok (book, gained))
    (between : ∀ line ∈ lines, ∀ date, line.Opens date → (date ≤ first ↔ date ≤ second)) :
    sumsAt lines gained first = sumsAt lines gained second := by
  funext source
  by_cases own : source = .equity
  · subst own
    have same : (gained.filter fun one => one.date ≤ first) = gained.filter fun one => one.date ≤ second := by
      apply List.filter_congr
      intro one member
      obtain ⟨line, known, opens⟩ := opens_of_realized ran member
      exact decide_eq_decide.mpr (between line known _ opens)
    simp only [sumsAt, profitUpTo, same]
  · rw [sumsAt_of_ne own, sumsAt_of_ne own, cashUpTo, cashUpTo]
    congr 2
    apply List.filter_congr
    intro line member
    by_cases about : line.instrument.source = source
    · cases known : line.date with
      | none => simp
      | some date => simp [between line member date (LedgerLine.opens_of_cash (about ▸ own) known)]
    · simp [about]

/-- They are zero before the first day that a line opens. -/
theorem sumsAt_eq_zero {day : Date} (ran : Book.run policy ∅ lines = .ok (book, gained))
    (before : ∀ line ∈ lines, ∀ date, line.Opens date → ¬date ≤ day) : sumsAt lines gained day = fun _ => 0 := by
  funext source
  by_cases own : source = .equity
  · subst own
    have none : (gained.filter fun one => one.date ≤ day) = [] := by
      rw [List.filter_eq_nil_iff]
      intro one member
      obtain ⟨line, known, opens⟩ := opens_of_realized ran member
      simpa using before line known _ opens
    simp [sumsAt, profitUpTo, none]
  · rw [sumsAt_of_ne own, cashUpTo, List.filter_eq_nil_iff.mpr, List.map_nil, List.sum_nil]
    intro line member
    by_cases about : line.instrument.source = source
    · cases known : line.date with
      | none => simp
      | some date => simp [before line member date (LedgerLine.opens_of_cash (about ▸ own) known)]
    · simp [about]

/-- The run behind the flows of a ledger has an answer. -/
theorem DailyFlows.run_of_ofLines {days : DailyFlows} (filled : ofLines policy lines = .ok days) :
    ∃ book gained, Book.run policy ∅ lines = .ok (book, gained) := by
  obtain ⟨_, _, filled⟩ := bind_eq_ok.mp filled
  obtain ⟨_, byDate, _⟩ := bind_eq_ok.mp filled
  obtain ⟨⟨book, gained⟩, ran, _⟩ := bind_eq_ok.mp byDate
  exact ⟨book, gained, ran⟩

end Sums

namespace Curve

variable {policy : ShortSales} {lines : List LedgerLine} {scope : Scope} {curve : Curve} {book : Book}
  {gained : List Realized}

/-- The last point up to a day; none before the first. -/
def pointAt (curve : Curve) (day : Date) : Option CurvePoint :=
  (curve.filter fun point => point.date ≤ day).getLast?

/-- What the curve shows in a column on a day; zero before the first point. -/
def valueAt (curve : Curve) (column : Column) (day : Date) : ℚ :=
  ((curve.pointAt day).map fun point => (point.figure column).toRat).getD 0

/-- What the curve shows in all its columns on a day. -/
def valuesAt (day : Date) (curve : Curve) : List ℚ :=
  [.equity, .options, .dividends, .total].map fun column => curve.valueAt column day

theorem pointAt_eq_none {day : Date} (none : curve.pointAt day = none) : ∀ point ∈ curve, ¬point.date ≤ day := by
  rw [pointAt, List.getLast?_eq_none_iff, List.filter_eq_nil_iff] at none
  simpa using none

theorem pointAt_eq_some {day : Date} {point : CurvePoint} (ascending : (curve.map CurvePoint.date).Pairwise (· < ·))
    (last : curve.pointAt day = some point) :
    point ∈ curve ∧ point.date ≤ day ∧ ∀ other ∈ curve, other.date ≤ day → other.date ≤ point.date := by
  rw [pointAt, List.getLast?_eq_some_iff] at last
  obtain ⟨earlier, shown⟩ := last
  have own : point ∈ curve.filter fun point => point.date ≤ day := by simp [shown]
  refine ⟨List.mem_of_mem_filter own, by simpa using List.of_mem_filter own, ?_⟩
  intro other member past
  have among : other ∈ earlier ++ [point] := by
    rw [← shown]
    exact List.mem_filter.mpr ⟨member, by simpa using past⟩
  have ordered : (earlier ++ [point]).Pairwise fun a b => a.date < b.date := by
    rw [← shown]
    exact (List.pairwise_map.mp ascending).filter _
  rcases List.mem_append.mp among with before | same
  · have less : other.date.dayNumber < point.date.dayNumber :=
      (List.pairwise_append.mp ordered).2.2 other before point List.mem_cons_self
    exact less.le
  · rw [List.mem_singleton.mp same]
    exact Int.le_refl _

/-- The run behind a curve has an answer. -/
theorem run_of_realized (drawn : realized policy lines scope = .ok curve) :
    ∃ book gained, Book.run policy ∅ (linesIn scope lines) = .ok (book, gained) := by
  obtain ⟨_, filled, _⟩ := bind_eq_ok.mp drawn
  exact DailyFlows.run_of_ofLines filled

/-- On every day of the calendar the curve shows the nearest cents of what has come in by then. -/
theorem realized_valueAt (ran : Book.run policy ∅ (linesIn scope lines) = .ok (book, gained))
    (unrounded : SumsExactly policy (linesIn scope lines)) :
    ∃ curve, realized policy lines scope = .ok curve ∧
      ∀ column day, curve.valueAt column day =
        nearestCents (column.count (sumsAt (linesIn scope lines) gained day)) := by
  obtain ⟨curve, drawn, ascending, opened, points⟩ := realized_shows ran unrounded
  refine ⟨curve, drawn, fun column day => ?_⟩
  have known : ∀ line ∈ linesIn scope lines, ∀ date, line.Opens date → ∃ point ∈ curve, point.date = date :=
    fun line member date opens => List.mem_map.mp ((opened date).mpr ⟨line, member, opens⟩)
  rw [valueAt]
  cases last : curve.pointAt day with
  | none =>
    have nothing : sumsAt (linesIn scope lines) gained day = fun _ => 0 := by
      refine sumsAt_eq_zero ran fun line member date opens => ?_
      obtain ⟨point, listed, rfl⟩ := known line member date opens
      exact pointAt_eq_none last point listed
    rw [nothing, Column.count_zero, nearestCents_of_whole .zero]
    rfl
  | some point =>
    obtain ⟨listed, past, latest⟩ := pointAt_eq_some ascending last
    have same : sumsAt (linesIn scope lines) gained point.date = sumsAt (linesIn scope lines) gained day := by
      refine sumsAt_congr ran fun line member date opens => ⟨fun early => ?_, fun early => ?_⟩
      · exact Int.le_trans early past
      · obtain ⟨other, among, rfl⟩ := known line member date opens
        exact latest other among early
    rw [Option.map_some, Option.getD_some, (points point listed).figure, same]

end Curve

end TradeLedger
