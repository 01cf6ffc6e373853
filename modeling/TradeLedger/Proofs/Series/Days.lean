import TradeLedger.Proofs.Series.History

/-! Curves and the order of days. A line changes the flows of its own day only, and shares are posted by
date, so a curve depends on the lines of each day in their order and not on how the ledger lists the days:
ledgers with the same lines on each day have the same curve, or the same fault. -/
namespace TradeLedger

namespace OrderedMap

variable {α β : Type} {step : OrderedMap Date α → β → Except Fault (OrderedMap Date α)} {fallback : α} {x y : β}
  {first second : Option Date} {fault : Fault}

theorem insert_insert (map : OrderedMap Date α) {date other : Date} (apart : date ≠ other) (a b : α) :
    (map.insert date a).insert other b = (map.insert other b).insert date a := by
  apply ext_get?
  intro probe
  simp only [get?_insert]
  by_cases own : probe = date
  · subst own
    simp [apart]
  · simp [own]

theorem getD_insert_of_ne (map : OrderedMap Date α) {date other : Date} (apart : date ≠ other) (a : α) :
    (map.insert date a).getD other fallback = map.getD other fallback := by
  rw [getD_insert, if_neg apart.symm]

/-- Steps that belong to different days may change places, if there is only one fault in them. -/
theorem ChangesDay.swap (left : ChangesDay step fallback x first) (right : ChangesDay step fallback y second)
    (apart : first ≠ second) (faults : ∀ map z cause, step map z = .error cause → cause = fault)
    (map : OrderedMap Date α) : (step map x >>= fun t => step t y) = (step map y >>= fun t => step t x) := by
  cases left with
  | idle same =>
    simp only [same, ok_bind]
    exact (bind_pure _).symm
  | @changed date change reads =>
    cases right with
    | idle same =>
      simp only [same, ok_bind]
      exact bind_pure _
    | @changed other change' reads' =>
      have days : date ≠ other := fun same => apart (congrArg some same)
      have failed := faults map
      simp only [reads, reads', bind_assoc, pure_bind, getD_insert_of_ne map days, getD_insert_of_ne map days.symm]
      cases left : change (map.getD date fallback) with
      | error cause =>
        cases right : change' (map.getD other fallback) with
        | error cause' =>
          have own : cause = fault := failed x cause (by rw [reads, left]; rfl)
          have others : cause' = fault := failed y cause' (by rw [reads', right]; rfl)
          rw [own, others]
          rfl
        | ok b => rfl
      | ok a =>
        cases right : change' (map.getD other fallback) with
        | error cause' => rfl
        | ok b => simp only [ok_bind, insert_insert map days]

end OrderedMap

theorem Flows.addCash_fault {flows : Flows} {line : LedgerLine} {fault : Fault}
    (failed : flows.addCash line = .error fault) : fault = .overflow .addition := by
  by_cases about : line.instrument = .equity
  · rw [addCash_equity about] at failed
    cases failed
  · rw [addCash_eq about] at failed
    rcases bind_eq_error.mp failed with adding | ⟨_, _, done⟩
    · exact Decimal.add_fault adding
    · cases done

/-- Adding a line to its day fails in one way only. -/
theorem DailyFlows.addLine_fault (days : DailyFlows) (line : LedgerLine) (fault : Fault)
    (failed : days.addLine line = .error fault) : fault = .overflow .addition := by
  rw [addLine] at failed
  split at failed
  · cases failed
  · split at failed
    · cases failed
    · rcases bind_eq_error.mp failed with adding | ⟨_, _, done⟩
      · exact Flows.addCash_fault adding
      · cases done

/-- The ledgers have the same lines on each day, in the same order, and the same lines without a date. -/
def SameOnEachDay (lines others : List LedgerLine) : Prop :=
  ∀ date : Option Date, lines.filter (fun line => line.date = date) = others.filter fun line => line.date = date

namespace SameOnEachDay

variable {lines others : List LedgerLine}

theorem linesIn (same : SameOnEachDay lines others) (scope : Scope) :
    SameOnEachDay (Curve.linesIn scope lines) (Curve.linesIn scope others) := by
  intro date
  rw [← Curve.linesIn_filter, ← Curve.linesIn_filter, same date]

/-- Shares are posted alike. -/
theorem equityByDate (same : SameOnEachDay lines others) :
    TradeLedger.equityByDate lines = TradeLedger.equityByDate others := by
  refine (stableByDate_equityByDate _).unique (stableByDate_equityByDate _) fun date => ?_
  rw [← List.filter_filter, ← List.filter_filter, same]

theorem ofLines (same : SameOnEachDay lines others) (policy : ShortSales) :
    DailyFlows.ofLines policy lines = DailyFlows.ofLines policy others := by
  have cash : lines.foldlM DailyFlows.addLine ∅ = others.foldlM DailyFlows.addLine ∅ :=
    foldlM_eq_of_filter (fun days x y apart => (DailyFlows.addLine_changesDay x).swap
      (DailyFlows.addLine_changesDay y) apart DailyFlows.addLine_fault days) same ∅
  have shares : realizedByDate policy lines = realizedByDate policy others := by
    rw [realizedByDate, realizedByDate, Book.run, Book.run, same.equityByDate]
  rw [DailyFlows.ofLines, DailyFlows.ofLines, cash, shares]

/-- The curves of every scope are the same. -/
theorem reconstruct (same : SameOnEachDay lines others) (policy : ShortSales) (positions : List Position)
    (scope : Scope) (today : Date) :
    Curve.reconstruct policy lines positions scope today = Curve.reconstruct policy others positions scope today := by
  rw [Curve.reconstruct, Curve.reconstruct, Curve.realized, Curve.realized, (same.linesIn scope).ofLines]

end SameOnEachDay

namespace Curve

variable (policy : ShortSales) (lines : List LedgerLine) (positions : List Position) (scope : Scope) (today : Date)

theorem ofLines_dated : DailyFlows.ofLines policy (lines.filter fun line => line.date.isSome) =
    DailyFlows.ofLines policy lines := by
  have cash : (lines.filter fun line => line.date.isSome).foldlM DailyFlows.addLine ∅ =
      lines.foldlM DailyFlows.addLine ∅ := by
    rw [List.foldlM_filter]
    apply congrArg (lines.foldlM · ∅)
    funext days line
    cases known : line.date with
    | none => simp [DailyFlows.addLine, known]
    | some date => rfl
  have shares : equityByDate (lines.filter fun line => line.date.isSome) = equityByDate lines := by
    unfold equityByDate
    rw [List.filterMap_filter]
    apply congrArg fun ofEquity => Ordered.sortBy _ (lines.filterMap ofEquity)
    funext line
    cases known : line.date <;> simp [DatedLine.ofEquity?, known]
  simp only [DailyFlows.ofLines, cash, realizedByDate, Book.run, shares]

/-- Lines without a date show on no curve. -/
theorem reconstruct_dated : reconstruct policy (lines.filter fun line => line.date.isSome) positions scope today =
    reconstruct policy lines positions scope today := by
  have inScope : linesIn scope (lines.filter fun line => line.date.isSome) =
      (linesIn scope lines).filter fun line => line.date.isSome := List.filter_comm ..
  simp only [reconstruct, realized, inScope, ofLines_dated]

variable {lines} {others : List LedgerLine}

/-- The curves of ledgers with the same lines on each known day are the same. -/
theorem reconstruct_congr (same : ∀ date : Date, lines.filter (fun line => line.date = some date) =
      others.filter fun line => line.date = some date) :
    reconstruct policy lines positions scope today = reconstruct policy others positions scope today := by
  have known : ∀ (lines : List LedgerLine) (date : Date), (lines.filter fun line => line.date.isSome).filter
      (fun line => line.date = some date) = lines.filter fun line => line.date = some date := by
    intro lines date
    rw [List.filter_filter]
    apply List.filter_congr
    intro line _
    cases line.date <;> simp
  have undated : ∀ lines : List LedgerLine, (lines.filter fun line => line.date.isSome).filter
      (fun line => line.date = none) = [] := by
    intro lines
    rw [List.filter_filter]
    apply List.filter_eq_nil_iff.mpr
    intro line _
    cases line.date <;> simp
  have dated : SameOnEachDay (lines.filter fun line => line.date.isSome)
      (others.filter fun line => line.date.isSome) := by
    intro date
    cases date with
    | none => rw [undated, undated]
    | some date => rw [known, known, same]
  rw [← reconstruct_dated, dated.reconstruct, reconstruct_dated]

end Curve

end TradeLedger
