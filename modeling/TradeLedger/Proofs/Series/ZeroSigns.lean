import TradeLedger.Proofs.Fold
import TradeLedger.Proofs.Inventory.Separation
import TradeLedger.Proofs.Ledger.Normal
import TradeLedger.Proofs.Series.Figures

/-! The signs of zeros. A quantity counts without its sign and a zero that is added or multiplied leaves no
trace of it, so lines that lose the signs of their zeros leave the same holdings. Only the proceeds of
shares that are not held are passed on as they are, and then they write the same number. So the curves of
the two ledgers show the same figures. -/
namespace TradeLedger

open Decimal

namespace Decimal

variable (a b : Decimal)

@[simp] theorem isZero_withoutZeroSign : a.withoutZeroSign.isZero = a.isZero := rfl

@[simp] theorem abs_withoutZeroSign : a.withoutZeroSign.abs = a.abs := rfl

theorem withoutZeroSign_same : SameValue a.withoutZeroSign a := toRat_withoutZeroSign a

variable {a} in
theorem withoutZeroSign_of_nonzero (nonzero : a.isZero = false) : a.withoutZeroSign = a := by
  simp [withoutZeroSign, nonzero]

theorem sum?_withoutZeroSign : sum? a.withoutZeroSign b = sum? a b := by
  cases empty : a.isZero with
  | true => simp [sum?, empty]
  | false => rw [withoutZeroSign_of_nonzero empty]

theorem sub_withoutZeroSign : a.withoutZeroSign.sub b = a.sub b := by
  simp only [sub, sum?_withoutZeroSign]

theorem mul_withoutZeroSign : a.withoutZeroSign.mul b = a.mul b := by
  cases empty : a.isZero with
  | true => simp [mul, product?, empty]
  | false => rw [withoutZeroSign_of_nonzero empty]

end Decimal

namespace Holding

/-- Two holdings are one, and the profits beside them write one number. -/
def SameOutcome (first second : Holding × Option Decimal) : Prop :=
  first.1 = second.1 ∧ Option.Rel SameValue first.2 second.2

theorem SameOutcome.refl (outcome : Holding × Option Decimal) : SameOutcome outcome outcome := by
  obtain ⟨holding, pnl⟩ := outcome
  cases pnl with
  | none => exact ⟨rfl, .none⟩
  | some pnl => exact ⟨rfl, .some rfl⟩

theorem sellHeld_withoutZeroSign (policy : ShortSales) (holding : Holding) (quantity proceeds : Decimal) :
    holding.sellHeld policy quantity proceeds.withoutZeroSign = holding.sellHeld policy quantity proceeds := by
  simp only [sellHeld, sub_withoutZeroSign, mul_withoutZeroSign]

theorem sell_agrees (policy : ShortSales) (holding : Holding) (quantity proceeds : Decimal) :
    Agree SameOutcome (holding.sell policy quantity proceeds.withoutZeroSign)
      (holding.sell policy quantity proceeds) := by
  simp only [sell, sellHeld_withoutZeroSign]
  split
  case isTrue => exact .refl SameOutcome.refl _
  case isFalse =>
    cases policy with
    | proceedsAsPnl => exact ⟨rfl, .some (withoutZeroSign_same proceeds)⟩
    | trackInventory => exact .refl SameOutcome.refl _

/-- A posting leaves the same holding, and realizes the same number. -/
theorem apply_agrees (policy : ShortSales) (holding : Holding) (action : Action) (quantity amount : Decimal) :
    Agree SameOutcome (holding.apply policy action quantity.withoutZeroSign amount.withoutZeroSign)
      (holding.apply policy action quantity amount) := by
  rw [apply, apply, isZero_withoutZeroSign, abs_withoutZeroSign, abs_withoutZeroSign]
  split
  case isTrue => exact ⟨rfl, .none⟩
  case isFalse =>
    have rounded : ∀ first second, SameOutcome first second →
        SameOutcome (first.1, first.2.map roundCents) (second.1, second.2.map roundCents) := by
      rintro ⟨holding, first⟩ ⟨holding', second⟩ ⟨same, profits⟩
      cases profits with
      | none => exact ⟨same, .none⟩
      | some value => exact ⟨same, .some (roundCents_same value)⟩
    cases action with
    | buy => exact .refl SameOutcome.refl _
    | sell => exact (sell_agrees policy holding quantity.abs amount).bind rounded
    | sellShort => exact (sell_agrees policy holding quantity.abs amount).bind rounded
    | dividend => exact ⟨rfl, .none⟩
    | other label => exact ⟨rfl, .none⟩

end Holding

/-- The line with no sign on a zero. -/
def DatedLine.withoutZeroSigns (dated : DatedLine) : DatedLine := { dated with line := dated.line.withoutZeroSigns }

/-- Profits of the same numbers on the same days. -/
def SameProfits (gained others : List Realized) : Prop :=
  List.Forall₂ (fun a b => a.date = b.date ∧ SameValue a.pnl b.pnl) gained others

theorem equityByDate_withoutZeroSigns (lines : List LedgerLine) :
    equityByDate (lines.map LedgerLine.withoutZeroSigns) = (equityByDate lines).map DatedLine.withoutZeroSigns :=
  equityByDate_map LedgerLine.withoutZeroSigns (fun _ => rfl) (fun _ => rfl) lines

namespace Book

theorem post_agrees (policy : ShortSales) (book : Book) (dated : DatedLine) :
    Agree (fun first second : Book × Option Realized =>
        first.1 = second.1 ∧ SameProfits first.2.toList second.2.toList)
      (book.post policy dated.withoutZeroSigns) (book.post policy dated) := by
  rw [post, post]
  refine (Holding.apply_agrees policy (book.holding (.ofLine dated.line)) dated.line.action dated.line.quantity
    dated.line.amount).bind ?_
  rintro ⟨holding, first⟩ ⟨_, second⟩ ⟨rfl, profits⟩
  cases profits with
  | none => exact ⟨rfl, .nil⟩
  | some value => exact ⟨rfl, .cons ⟨rfl, value⟩ .nil⟩

/-- A run leaves the same book, and realizes the same numbers on the same days. -/
theorem postAll_agrees (policy : ShortSales) (book : Book) (posted : List DatedLine) :
    Agree (fun first second : Book × List Realized => first.1 = second.1 ∧ SameProfits first.2 second.2)
      (book.postAll policy (posted.map DatedLine.withoutZeroSigns)) (book.postAll policy posted) := by
  induction posted generalizing book with
  | nil => exact ⟨rfl, .nil⟩
  | cons dated posted ih =>
    rw [List.map_cons, postAll, postAll]
    refine (post_agrees policy book dated).bind ?_
    rintro ⟨book, first⟩ ⟨_, second⟩ ⟨rfl, profits⟩
    refine (ih book).bind ?_
    rintro ⟨book, later⟩ ⟨_, later'⟩ ⟨rfl, rest⟩
    exact ⟨rfl, List.rel_append profits rest⟩

end Book

section Days

theorem addRealized_agrees {sums others : OrderedMap Date Decimal} {a b : Realized}
    (maps : OrderedMap.Related SameValue sums others) (same : a.date = b.date ∧ SameValue a.pnl b.pnl) :
    Agree (OrderedMap.Related SameValue) (addRealized sums a) (addRealized others b) := by
  rw [addRealized, addRealized, same.1]
  refine (add_agrees (maps.getD b.date rfl) same.2).bind fun _ _ sum => ?_
  exact maps.insert b.date sum

theorem realizedByDate_agrees (policy : ShortSales) (lines : List LedgerLine) :
    Agree (OrderedMap.Related SameValue) (realizedByDate policy (lines.map LedgerLine.withoutZeroSigns))
      (realizedByDate policy lines) := by
  rw [realizedByDate, realizedByDate, Book.run, Book.run, equityByDate_withoutZeroSigns]
  refine (Book.postAll_agrees policy ∅ (equityByDate lines)).bind fun _ _ ran => ?_
  exact foldlM_agrees (fun _ _ _ _ => addRealized_agrees) ran.2 .empty

theorem Flows.SameFigures.set {flows others : Flows} {a b : Decimal} (same : flows.SameFigures others)
    (source : Source) (sums : SameValue a b) : (flows.set source a).SameFigures (others.set source b) := by
  intro probe
  rw [of_set, of_set]
  split
  · exact sums
  · exact same probe

theorem Flows.addCash_agrees {flows others : Flows} (same : flows.SameFigures others) (line : LedgerLine) :
    Agree SameFigures (flows.addCash line.withoutZeroSigns) (others.addCash line) := by
  by_cases about : line.instrument = .equity
  · have kept : line.withoutZeroSigns.instrument = .equity := about
    rw [addCash_equity about, addCash_equity kept]
    exact same
  · have kept : line.withoutZeroSigns.instrument ≠ .equity := about
    rw [addCash_eq about, addCash_eq kept]
    refine (Decimal.add_agrees (same line.instrument.source) (withoutZeroSign_same line.amount)).bind fun _ _ sums => ?_
    exact same.set line.instrument.source sums

namespace DailyFlows

variable {days others : DailyFlows}

theorem on_same (maps : OrderedMap.Related Flows.SameFigures days others) (date : Date) :
    (days.on date).SameFigures (others.on date) :=
  maps.getD date fun _ => rfl

theorem addLine_agrees (maps : OrderedMap.Related Flows.SameFigures days others) (line : LedgerLine) :
    Agree (OrderedMap.Related Flows.SameFigures) (days.addLine line.withoutZeroSigns) (others.addLine line) := by
  have dates : line.withoutZeroSigns.date = line.date := rfl
  rw [addLine, addLine, dates]
  cases line.date with
  | none => exact maps
  | some date =>
    by_cases still : line.instrument = .equity ∧ line.quantity.isZero
    · have kept : line.withoutZeroSigns.instrument = .equity ∧ line.withoutZeroSigns.quantity.isZero := still
      simp only [if_pos still, if_pos kept]
      exact maps
    · have kept : ¬(line.withoutZeroSigns.instrument = .equity ∧ line.withoutZeroSigns.quantity.isZero) := still
      simp only [if_neg still, if_neg kept]
      refine (Flows.addCash_agrees (on_same maps date) line).bind fun _ _ flows => ?_
      exact maps.insert date flows

theorem addEquity_agrees {a b : Date × Decimal} (maps : OrderedMap.Related Flows.SameFigures days others)
    (same : a.1 = b.1 ∧ SameValue a.2 b.2) :
    Agree (OrderedMap.Related Flows.SameFigures) (days.addEquity a) (others.addEquity b) := by
  rw [addEquity_eq, addEquity_eq, same.1]
  have flows := on_same maps b.1
  refine (add_agrees (flows .equity) same.2).bind fun _ _ sums => ?_
  exact maps.insert b.1 (flows.set .equity sums)

/-- The flows of the days hold the same numbers. -/
theorem ofLines_withoutZeroSigns (policy : ShortSales) (lines : List LedgerLine) :
    Agree (OrderedMap.Related Flows.SameFigures) (ofLines policy (lines.map LedgerLine.withoutZeroSigns))
      (ofLines policy lines) := by
  rw [ofLines, ofLines]
  have matched : List.Forall₂ (fun first line => first = LedgerLine.withoutZeroSigns line)
      (lines.map LedgerLine.withoutZeroSigns) lines := by
    rw [List.forall₂_map_left_iff]
    exact List.forall₂_same.mpr fun _ _ => rfl
  have steps := fun (days others : DailyFlows) (first line : LedgerLine)
      (maps : OrderedMap.Related Flows.SameFigures days others) (same : first = line.withoutZeroSigns) =>
    same ▸ addLine_agrees maps line
  refine (foldlM_agrees steps matched .empty).bind fun _ _ days => ?_
  refine (realizedByDate_agrees policy lines).bind fun _ _ sums => ?_
  exact foldlM_agrees (fun _ _ _ _ => addEquity_agrees) sums days

end DailyFlows

end Days

/-- Lines that lose the signs of their zeros have curves of the same figures. -/
theorem Curve.reconstruct_withoutZeroSigns (policy : ShortSales) (lines : List LedgerLine)
    (positions : List Position) (scope : Scope) (today : Date) :
    Agree SameFigures (reconstruct policy (lines.map LedgerLine.withoutZeroSigns) positions scope today)
      (reconstruct policy lines positions scope today) := by
  have within : linesIn scope (lines.map LedgerLine.withoutZeroSigns) =
      (linesIn scope lines).map LedgerLine.withoutZeroSigns := by
    rw [linesIn, List.filter_map]
    rfl
  rw [reconstruct, reconstruct, realized, realized, within]
  have nothing : Flows.zero.SameFigures .zero := fun _ => rfl
  have drawn := (DailyFlows.ofLines_withoutZeroSigns policy (linesIn scope lines)).bind fun _ _ days =>
    accumulate_agrees nothing days
  have profits : Agree Unrealized.SameFigures (Unrealized.ofPositions (positionsIn scope positions))
      (Unrealized.ofPositions (positionsIn scope positions)) := .refl (fun _ => ⟨rfl, rfl⟩) _
  exact drawn.bind fun _ _ curves => profits.bind fun _ _ profits => overlay_agrees curves profits today

end TradeLedger
