import TradeLedger.Proofs.Decimal.Congruence
import TradeLedger.Proofs.Series.Source
import TradeLedger.Series.Reconstruction

/-! Curves of the same figures. Two curves may write their figures with different places and still
show the same numbers on the same days. So do the curves of flows that hold the same numbers, and
laying the same unrealized profit over their ends keeps it so: wherever one side is rounded, the other
is rounded alike. -/
namespace TradeLedger

open Decimal

/-- Flows that hold the same numbers. -/
def Flows.SameFigures (a b : Flows) : Prop := ∀ source, SameValue (a.of source) (b.of source)

/-- Days with flows of the same numbers. -/
def SameDays (days others : List (Date × Flows)) : Prop :=
  List.Forall₂ (fun a b => a.1 = b.1 ∧ a.2.SameFigures b.2) days others

/-- Points of one day that show the same numbers. -/
structure CurvePoint.SameFigures (a b : CurvePoint) : Prop where
  date : a.date = b.date
  equity : SameValue a.equity b.equity
  options : SameValue a.options b.options
  dividends : SameValue a.dividends b.dividends
  total : SameValue a.total b.total

/-- Profits of the same numbers. -/
structure Unrealized.SameFigures (a b : Unrealized) : Prop where
  equity : SameValue a.equity b.equity
  options : SameValue a.options b.options

/-- Curves with points of the same figures. -/
def Curve.SameFigures (a b : Curve) : Prop := List.Forall₂ CurvePoint.SameFigures a b

namespace Flows

variable {a b a' b' : Flows}

theorem add_agrees (left : a.SameFigures a') (right : b.SameFigures b') :
    Agree SameFigures (a.add b) (a'.add b') := by
  rw [add, add]
  refine (Decimal.add_agrees (left .equity) (right .equity)).bind fun _ _ equity => ?_
  refine (Decimal.add_agrees (left .options) (right .options)).bind fun _ _ options => ?_
  refine (Decimal.add_agrees (left .dividends) (right .dividends)).bind fun _ _ dividends => ?_
  refine (Decimal.add_agrees (left .other) (right .other)).bind fun _ _ other => ?_
  intro source
  cases source with
  | equity => exact equity
  | options => exact options
  | dividends => exact dividends
  | other => exact other

theorem total_agrees (same : a.SameFigures a') : Agree SameValue a.total a'.total := by
  rw [total, total]
  refine (Decimal.add_agrees (same .equity) (same .options)).bind fun _ _ shares => ?_
  refine (Decimal.add_agrees shares (same .dividends)).bind fun _ _ known => ?_
  exact Decimal.add_agrees known (same .other)

end Flows

theorem Unrealized.total_agrees {a b : Unrealized} (same : a.SameFigures b) : Agree SameValue a.total b.total :=
  add_agrees same.equity same.options

theorem CurvePoint.raise_agrees {a b : CurvePoint} {profit profit' : Unrealized} (points : a.SameFigures b)
    (profits : profit.SameFigures profit') : Agree CurvePoint.SameFigures (a.raise profit) (b.raise profit') := by
  rw [raise, raise]
  refine (add_agrees points.equity profits.equity).bind fun _ _ equity => ?_
  refine (add_agrees points.options profits.options).bind fun _ _ options => ?_
  refine (Unrealized.total_agrees profits).bind fun _ _ all => ?_
  refine (add_agrees points.total all).bind fun _ _ total => ?_
  exact ⟨points.date, roundCents_same equity, roundCents_same options, points.dividends, roundCents_same total⟩

namespace Curve

variable {curve other : Curve}

theorem point_agrees {running running' : Flows} (date : Date) (same : running.SameFigures running') :
    Agree CurvePoint.SameFigures (point date running) (point date running') := by
  rw [point, point]
  refine (Flows.total_agrees same).bind fun _ _ total => ?_
  exact ⟨rfl, roundCents_same (same .equity), roundCents_same (same .options), roundCents_same (same .dividends),
    roundCents_same total⟩

/-- Days with flows of the same numbers are drawn as curves of the same figures. -/
theorem accumulate_agrees {running running' : Flows} {days others : List (Date × Flows)}
    (before : running.SameFigures running') (same : SameDays days others) :
    Agree SameFigures (accumulate running days) (accumulate running' others) := by
  induction same generalizing running running' with
  | nil => exact List.Forall₂.nil
  | cons day _ ih =>
    obtain ⟨date, flows⟩ := day
    rw [accumulate, accumulate]
    refine (Flows.add_agrees before flows).bind fun next next' running => ?_
    rw [date]
    refine (point_agrees _ running).bind fun _ _ points => ?_
    exact (ih running).bind fun _ _ rest => List.Forall₂.cons points rest

theorem SameFigures.append {a b : CurvePoint} (curves : curve.SameFigures other) (points : a.SameFigures b) :
    SameFigures (curve ++ [a]) (other ++ [b]) :=
  List.rel_append curves (.cons points .nil)

/-- Curves of the same figures are both empty, or both end in points of the same figures. -/
theorem SameFigures.ends (curves : curve.SameFigures other) :
    (curve = [] ∧ other = []) ∨ ∃ front last front' last',
      curve = front ++ [last] ∧ other = front' ++ [last'] ∧ SameFigures front front' ∧ last.SameFigures last' := by
  rcases List.eq_nil_or_concat' curve with rfl | ⟨front, last, rfl⟩
  · exact .inl ⟨rfl, List.forall₂_nil_left_iff.mp curves⟩
  · right
    have reversed : List.Forall₂ CurvePoint.SameFigures (last :: front.reverse) other.reverse := by
      rw [← List.reverse_concat]
      exact List.forall₂_reverse_iff.mpr curves
    obtain ⟨last', rest, points, fronts, same⟩ := List.forall₂_cons_left_iff.mp reversed
    refine ⟨front, last, rest.reverse, last', rfl, ?_, ?_, points⟩
    · rw [← List.reverse_cons, ← same, List.reverse_reverse]
    · rw [← List.reverse_reverse front]
      exact List.forall₂_reverse_iff.mpr fronts

/-- The same profit laid over the ends of curves of the same figures gives such curves again. -/
theorem overlay_agrees {profit profit' : Unrealized} (curves : curve.SameFigures other)
    (profits : profit.SameFigures profit') (today : Date) :
    Agree SameFigures (curve.overlay profit today) (other.overlay profit' today) := by
  rw [overlay, overlay]
  refine (Unrealized.total_agrees profits).bind fun sum sum' same => ?_
  rw [isZero_congr same]
  split
  case isTrue => exact curves
  case isFalse =>
    rcases curves.ends with ⟨rfl, rfl⟩ | ⟨front, last, front', last', rfl, rfl, fronts, points⟩
    · exact List.Forall₂.nil
    · simp only [List.getLast?_concat, List.dropLast_concat]
      refine (CurvePoint.raise_agrees points profits).bind fun raised raised' figures => ?_
      rw [points.date]
      split
      case isTrue =>
        exact SameFigures.append (SameFigures.append fronts points)
          ⟨rfl, figures.equity, figures.options, figures.dividends, figures.total⟩
      case isFalse => exact SameFigures.append fronts figures

end Curve

end TradeLedger
