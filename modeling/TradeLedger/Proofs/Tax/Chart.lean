import TradeLedger.Proofs.Calendar.Civil
import TradeLedger.Proofs.Series.Scopes
import TradeLedger.Proofs.Tax.Report

/-! Dividends on the chart and in the tax report. The chart counts the lines whose instrument is a dividend, the
report those whose action is one. So what the chart grows by in a year and what the report of the year shows
differ by the lines that only one of the two counts, and by nothing else. -/
namespace TradeLedger

namespace Curve

/-- The last point dated in a year or before it. -/
def pointThrough (curve : Curve) (year : Int) : Option CurvePoint :=
  (curve.filter fun point => point.date.year ≤ year).getLast?

/-- What that point shows in a column; zero if there is none. -/
def valueThrough (curve : Curve) (column : Column) (year : Int) : ℚ :=
  ((curve.pointThrough year).map fun point => (point.figure column).toRat).getD 0

/-- By how much the curve grows in a year. -/
def growthIn (curve : Curve) (column : Column) (year : Int) : ℚ :=
  curve.valueThrough column year - curve.valueThrough column (year - 1)

/-- The cash of the lines about dividends that are dated in a year or before it. -/
def dividendsThrough (lines : List LedgerLine) (year : Int) : ℚ :=
  ((lines.filter fun line => line.instrument = .dividend && line.date.any fun date => date.year ≤ year).map
    fun line => line.amount.toRat).sum

variable {curve : Curve} {lines : List LedgerLine}

/-- A curve that shows on every day the cash of the dividends by then shows it at the end of every year. -/
theorem valueThrough_eq (shown : ∀ day, curve.valueAt .dividends day = cashUpTo lines .dividends day) (year : Int) :
    curve.valueThrough .dividends year = dividendsThrough lines year := by
  unfold valueThrough pointThrough dividendsThrough
  rcases Date.exists_last_of_year year with ⟨last, through⟩ | never
  · have value := shown last
    unfold valueAt pointAt cashUpTo at value
    simpa only [through, Instrument.source_eq_dividends] using value
  · have points : curve.filter (fun point => point.date.year ≤ year) = [] := by
      simp [never]
    have none : lines.filter (fun line => line.instrument = .dividend && line.date.any fun date => date.year ≤ year) =
        [] := by
      simp [never]
    rw [points, none]
    simp

end Curve

namespace Tax

open Decimal

variable {groups : List TradeGroup} {lines : List LedgerLine} {year : Int} {rules : Rules} {report : Report}

/-- The lines of a year that pay a dividend but are about something else. -/
def reportedOnly (year : Int) (lines : List LedgerLine) : List LedgerLine :=
  (linesOfYear year lines).filter fun line => line.action = .dividend ∧ line.instrument ≠ .dividend

/-- The lines of a year that are about a dividend but do something else. -/
def chartedOnly (year : Int) (lines : List LedgerLine) : List LedgerLine :=
  (linesOfYear year lines).filter fun line => line.instrument = .dividend ∧ line.action ≠ .dividend

/-- The chart grows by the lines about dividends that are dated in the year. -/
theorem dividendsThrough_sub (lines : List LedgerLine) (year : Int) :
    Curve.dividendsThrough lines year - Curve.dividendsThrough lines (year - 1) =
      (((linesOfYear year lines).filter fun line => line.instrument = .dividend).map
        fun line => line.amount.toRat).sum := by
  let before (line : LedgerLine) : Bool := line.date.any fun date => date.year ≤ year - 1
  unfold Curve.dividendsThrough linesOfYear
  rw [sum_filter_split _ before, List.filter_filter]
  have past : ∀ line : LedgerLine, ((line.instrument = .dividend && line.date.any fun date => date.year ≤ year) &&
      before line) = (line.instrument = .dividend && line.date.any fun date => date.year ≤ year - 1) := by
    intro line
    cases known : line.date with
    | none => simp
    | some date =>
      apply Bool.eq_iff_iff.mpr
      simp only [before, known, Option.any_some, Bool.and_eq_true, decide_eq_true_eq, and_assoc]
      exact and_congr_right fun _ => by omega
  have own : ∀ line : LedgerLine, ((line.instrument = .dividend && line.date.any fun date => date.year ≤ year) &&
      !before line) = (line.instrument = .dividend && line.date.map Date.year == some year) := by
    intro line
    cases known : line.date with
    | none => simp
    | some date =>
      apply Bool.eq_iff_iff.mpr
      simp only [before, known, Option.any_some, Option.map_some, Bool.and_eq_true, Bool.not_eq_true',
        decide_eq_true_eq, decide_eq_false_iff_not, beq_iff_eq, Option.some.injEq, and_assoc]
      exact and_congr_right fun _ => by omega
  simp only [past, own]
  ring

/-- The two figures differ by what each of them counts alone. -/
theorem sum_dividends_sub (year : Int) (lines : List LedgerLine) :
    ((dividendsIn year lines).map fun line => line.amount.toRat).sum -
        (((linesOfYear year lines).filter fun line => line.instrument = .dividend).map
          fun line => line.amount.toRat).sum =
      ((reportedOnly year lines).map fun line => line.amount.toRat).sum -
        ((chartedOnly year lines).map fun line => line.amount.toRat).sum := by
  have paid : dividendsIn year lines = (linesOfYear year lines).filter fun line => line.action = .dividend :=
    List.filter_comm ..
  have reported := sum_filter_split (fun line => line.action = .dividend) (fun line => line.instrument = .dividend)
    (fun line => line.amount.toRat) (linesOfYear year lines)
  have charted := sum_filter_split (fun line => line.instrument = .dividend) (fun line => line.action = .dividend)
    (fun line => line.amount.toRat) (linesOfYear year lines)
  -- The lines that both count are the same on either side, whichever condition is named first.
  simp only [Bool.and_comm] at reported charted
  simp only [paid, reported, charted, reportedOnly, chartedOnly, Bool.decide_and, ne_eq, decide_not, Bool.and_comm]
  ring

theorem Report.total_of_build (built : Report.build groups lines year rules = .ok report) :
    Decimal.total ((dividendsIn year lines).map (·.amount)) = .ok report.summary.dividends := by
  unfold build at built
  obtain ⟨washSales, _, built⟩ := bind_eq_ok.mp built
  obtain ⟨summary, summed, built⟩ := bind_eq_ok.mp built
  obtain ⟨dividendRows, _, built⟩ := bind_eq_ok.mp built
  cases built
  unfold Summary.ofYear at summed
  obtain ⟨gains, _, summed⟩ := bind_eq_ok.mp summed
  obtain ⟨dividends, added, summed⟩ := bind_eq_ok.mp summed
  obtain ⟨_, _, summed⟩ := bind_eq_ok.mp summed
  obtain ⟨_, _, summed⟩ := bind_eq_ok.mp summed
  obtain ⟨_, _, summed⟩ := bind_eq_ok.mp summed
  obtain ⟨_, _, summed⟩ := bind_eq_ok.mp summed
  obtain ⟨_, _, summed⟩ := bind_eq_ok.mp summed
  cases summed
  exact added

/-- The gap between the dividends of the report of a year and those that the chart grows by in it. For amounts in
whole cents, where nothing rounds, the report shows more by the dividends paid on lines about something else and
less by what the lines about dividends bring otherwise; so the two agree if and only if these sums are the same. -/
theorem dividends_gap {policy : ShortSales} {today : Date} {curve : Curve}
    (cents : ∀ line ∈ lines, WholeCents line.amount.toRat)
    (totals : TotalsExactly ((dividendsIn year lines).map (·.amount)))
    (sums : SumsExactly policy (Curve.linesIn .all lines))
    (built : Report.build groups lines year rules = .ok report)
    (drawn : Curve.reconstruct policy lines [] .all today = .ok curve) :
    report.summary.dividends.toRat - curve.growthIn .dividends year =
        ((reportedOnly year lines).map fun line => line.amount.toRat).sum -
          ((chartedOnly year lines).map fun line => line.amount.toRat).sum ∧
      (report.summary.dividends.toRat = curve.growthIn .dividends year ↔
        ((reportedOnly year lines).map fun line => line.amount.toRat).sum =
          ((chartedOnly year lines).map fun line => line.amount.toRat).sum) := by
  rw [Curve.reconstruct_nil] at drawn
  have all : Curve.linesIn .all lines = lines := List.filter_eq_self.mpr fun _ _ => rfl
  obtain ⟨book, gained, ran⟩ := Curve.run_of_realized drawn
  obtain ⟨curve', drawn', shown⟩ := Curve.realized_valueAt_exact ran sums cents
  obtain rfl : curve' = curve := Except.ok.inj (drawn'.symm.trans drawn)
  have through := Curve.valueThrough_eq fun day => shown .dividends day
  rw [all] at through
  have growth : curve'.growthIn .dividends year =
      (((linesOfYear year lines).filter fun line => line.instrument = .dividend).map
        fun line => line.amount.toRat).sum := by
    rw [Curve.growthIn, through, through, dividendsThrough_sub]
  have total : report.summary.dividends.toRat = ((dividendsIn year lines).map fun line => line.amount.toRat).sum := by
    rw [(Decimal.total_exact totals).toRat_eq (Report.total_of_build built), List.map_map]
    rfl
  have gap := sum_dividends_sub year lines
  rw [← total, ← growth] at gap
  exact ⟨gap, by rw [← sub_eq_zero, gap, sub_eq_zero]⟩

/-- A dividend of the year before, one of the year, one on shares and cash in place of one; the day of the last
is not known. -/
def paidBothWays : List LedgerLine :=
  [⟨"A", "X", "X", .dividend, Date.ofCivil? ⟨2023, 12, 31⟩, .dividend, .zero, .ofUInt32 2⟩,
    ⟨"A", "X", "X", .dividend, Date.ofCivil? ⟨2024, 1, 1⟩, .dividend, .zero, .ofUInt32 3⟩,
    ⟨"A", "Y", "Y", .equity, Date.ofCivil? ⟨2024, 7, 1⟩, .dividend, .zero, (ofParts? false 425 2).getD .zero⟩,
    ⟨"B", "X", "X", .dividend, Date.ofCivil? ⟨2024, 12, 31⟩, .other "in lieu", .zero, (ofParts? false 15 1).getD .zero⟩,
    ⟨"B", "Y", "Y", .equity, none, .dividend, .zero, .ofUInt32 9⟩]

theorem paid_both_ways_gap : ∃ report curve, Report.build [] paidBothWays 2024 .us = .ok report ∧
    Curve.reconstruct .trackInventory paidBothWays [] .all ⟨9, by decide, by decide⟩ = .ok curve ∧
    report.summary.dividends.toRat - curve.growthIn .dividends 2024 = 11 / 4 := by
  obtain ⟨report, built⟩ := exists_of_isOk (show (Report.build [] paidBothWays 2024 .us).isOk by decide +kernel)
  obtain ⟨curve, drawn⟩ := exists_of_isOk (show (Curve.reconstruct .trackInventory paidBothWays [] .all
    ⟨9, by decide, by decide⟩).isOk by decide +kernel)
  have cents : ∀ line ∈ paidBothWays, WholeCents line.amount.toRat := fun line member =>
    wholeCents_of_scale_le ((show ∀ line ∈ paidBothWays, line.amount.scale ≤ 2 by decide +kernel) line member)
  obtain ⟨gap, _⟩ := dividends_gap cents (by decide +kernel) (by decide +kernel) built drawn
  exact ⟨report, curve, built, drawn, gap.trans (by decide +kernel)⟩

end Tax

end TradeLedger
