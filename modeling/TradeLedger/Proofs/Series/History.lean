import TradeLedger.Proofs.Inventory.Separation
import TradeLedger.Proofs.Series.Definition

/-! Curves and later lines. What a curve shows up to a day comes from the lines dated up to that day: they
are the first to be posted, they realize all that is realized by then, and each of them changes no day but
its own. So the lines of a ledger up to a day have the curve of the whole ledger up to that day, in
whatever order the ledger lists them. -/
namespace TradeLedger

/-- The line has a date, and it is no later than the day. -/
def LedgerLine.datedBy (day : Date) (line : LedgerLine) : Bool := line.date.any fun date => date ≤ day

namespace OrderedMap

variable {α β : Type} {step : OrderedMap Date α → β → Except Fault (OrderedMap Date α)} {fallback : α}

/-- The entries of the days up to one. -/
def through (day : Date) (map : OrderedMap Date α) : OrderedMap Date α := map.restrict fun date => date ≤ day

theorem getD_through {day date : Date} (past : date ≤ day) (map : OrderedMap Date α) (fallback : α) :
    (map.through day).getD date fallback = map.getD date fallback := by
  rw [getD, through, get?_restrict, if_pos (decide_eq_true past), getD]

theorem through_insert (map : OrderedMap Date α) (date : Date) (value : α) (day : Date) :
    (map.insert date value).through day =
      if date ≤ day then (map.through day).insert date value else map.through day := by
  rw [through, restrict_insert]
  simp only [decide_eq_true_eq]
  rfl

/-- The step leaves every map as it is, or it changes the value of one day, which is all that it reads. -/
inductive ChangesDay (step : OrderedMap Date α → β → Except Fault (OrderedMap Date α)) (fallback : α) (x : β) :
    Option Date → Prop
  | idle {date? : Option Date} (same : ∀ map, step map x = .ok map) : ChangesDay step fallback x date?
  | changed {date : Date} (change : α → Except Fault α)
      (reads : ∀ map, step map x = (do return map.insert date (← change (map.getD date fallback)))) :
      ChangesDay step fallback x (some date)

/-- Up to a day, a fold of such steps is that of the steps that belong to those days. -/
theorem foldlM_through {dateOf : β → Option Date} (changes : ∀ x, ChangesDay step fallback x (dateOf x))
    {map final : OrderedMap Date α} {xs : List β} (folded : xs.foldlM step map = .ok final) (day : Date) :
    (xs.filter fun x => (dateOf x).any fun date => date ≤ day).foldlM step (map.through day) =
      .ok (final.through day) := by
  refine foldlM_filter ?_ ?_ folded
  · intro map x next past stepped
    have change := changes x
    generalize dateOf x = date? at past change
    cases change with
    | idle same =>
      rw [same] at stepped ⊢
      cases stepped
      rfl
    | changed change reads =>
      rw [reads] at stepped ⊢
      obtain ⟨value, changed, stepped⟩ := bind_eq_ok.mp stepped
      cases stepped
      rw [Option.any_some, decide_eq_true_eq] at past
      rw [getD_through past, changed, ok_bind, through_insert, if_pos past]
      rfl
  · intro map x next later stepped
    have change := changes x
    generalize dateOf x = date? at later change
    cases change with
    | idle same =>
      rw [same] at stepped
      cases stepped
      rfl
    | changed change reads =>
      rw [reads] at stepped
      obtain ⟨value, _, stepped⟩ := bind_eq_ok.mp stepped
      cases stepped
      rw [Option.any_some, decide_eq_false_iff_not] at later
      rw [through_insert, if_neg later]

end OrderedMap

open OrderedMap

theorem addRealized_changesDay (one : Realized) : ChangesDay addRealized .zero one (some one.date) :=
  .changed (fun sum => sum.add one.pnl) fun _ => rfl

namespace DailyFlows

theorem addEquity_changesDay (realized : Date × Decimal) : ChangesDay addEquity .zero realized (some realized.1) := by
  refine .changed (fun flows => do return flows.set .equity (← (flows.of .equity).add realized.2)) fun days => ?_
  rw [addEquity_eq]
  simp only [bind_assoc, pure_bind]
  rfl

theorem addLine_changesDay (line : LedgerLine) : ChangesDay addLine .zero line line.date := by
  cases known : line.date with
  | none => exact .idle fun days => by rw [addLine, known]; rfl
  | some date =>
    by_cases still : line.instrument = .equity ∧ line.quantity.isZero
    · exact .idle fun days => by simp only [addLine, known, if_pos still]; rfl
    · exact .changed (fun flows => flows.addCash line) fun days => by
        simp only [addLine, known, if_neg still]; rfl

end DailyFlows

section Runs

variable {policy : ShortSales} {book final : Book} {lines : List LedgerLine} {realized : List Realized}

theorem equityByDate_datedBy (day : Date) (lines : List LedgerLine) :
    equityByDate (lines.filter (·.datedBy day)) = (equityByDate lines).filter fun dated => dated.date ≤ day :=
  equityByDate_filter_eq (fun line dated equity => by
    rw [LedgerLine.datedBy, DatedLine.date_of_equity equity, Option.any_some]) lines

/-- Of what elements bring about, those up to a day bring about the part up to that day. -/
theorem filter_of_split {α β : Type} {dateOf : α → Date} {dated : β → Date} {xs : List α} {first rest : List β}
    {day : Date}
    (begun : ∀ y ∈ first, ∃ x ∈ xs.filter fun x => (dateOf x).dayNumber ≤ day.dayNumber, dateOf x = dated y)
    (ended : ∀ y ∈ rest, ∃ x ∈ xs.filter fun x => day.dayNumber < (dateOf x).dayNumber, dateOf x = dated y) :
    (first ++ rest).filter (fun y => dated y ≤ day) = first := by
  have past : ∀ y ∈ first, decide (dated y ≤ day) = true := by
    intro y member
    obtain ⟨x, early, same⟩ := begun y member
    have before := List.of_mem_filter early
    rw [← same]
    exact before
  have future : ∀ y ∈ rest, ¬decide (dated y ≤ day) = true := by
    intro y member
    obtain ⟨x, late, same⟩ := ended y member
    have after := List.of_mem_filter late
    rw [decide_eq_true_eq] at after ⊢
    rw [← same]
    exact not_le.mpr after
  rw [List.filter_append, List.filter_eq_self.mpr past, List.filter_eq_nil_iff.mpr future, List.append_nil]

/-- The lines up to a day realize what all lines do up to that day. -/
theorem Book.run_datedBy (ran : run policy book lines = .ok (final, realized)) (day : Date) :
    ∃ between, run policy book (lines.filter (·.datedBy day)) =
      .ok (between, realized.filter fun one => one.date ≤ day) := by
  -- In the order of their dates the lines up to the day come first, so the run passes through theirs.
  rw [run, ← Ordered.filter_le_append_filter_lt (fun dated : DatedLine => dated.date.dayNumber)
    (pairwise_equityByDate lines) day.dayNumber] at ran
  obtain ⟨between, early, late, begun, ended, rfl⟩ := postAll_append_eq_ok.mp ran
  have dates {start reached : Book} {part : List DatedLine} {gains : List Realized}
      (posted : postAll policy start part = .ok (reached, gains)) :
      ∀ one ∈ gains, ∃ dated ∈ part, dated.date = one.date := by
    intro one member
    obtain ⟨dated, listed, same, _⟩ := exists_of_realized posted member
    exact ⟨dated, listed, same⟩
  refine ⟨between, ?_⟩
  rw [filter_of_split (dates begun) (dates ended), run, equityByDate_datedBy]
  exact begun

theorem realizedByDate_datedBy {sums : OrderedMap Date Decimal} (summed : realizedByDate policy lines = .ok sums)
    (day : Date) : realizedByDate policy (lines.filter (·.datedBy day)) = .ok (sums.through day) := by
  obtain ⟨⟨final, realized⟩, ran, added⟩ := bind_eq_ok.mp summed
  obtain ⟨between, begun⟩ := Book.run_datedBy ran day
  rw [realizedByDate, begun, ok_bind]
  exact foldlM_through addRealized_changesDay added day

/-- The flows of the lines up to a day are those that all lines have up to that day. -/
theorem DailyFlows.ofLines_datedBy {days : DailyFlows} (filled : ofLines policy lines = .ok days) (day : Date) :
    ofLines policy (lines.filter (·.datedBy day)) = .ok (days.through day) := by
  obtain ⟨cash, added, filled⟩ := bind_eq_ok.mp filled
  obtain ⟨sums, summed, joined⟩ := bind_eq_ok.mp filled
  have early : (lines.filter (·.datedBy day)).foldlM addLine ∅ = .ok (cash.through day) :=
    foldlM_through addLine_changesDay added day
  have together : (sums.through day).entries.foldlM addEquity (cash.through day) = .ok (days.through day) :=
    foldlM_through addEquity_changesDay joined day
  rw [ofLines, early, ok_bind, realizedByDate_datedBy summed, ok_bind, together]

end Runs

namespace Curve

variable {policy : ShortSales} {lines : List LedgerLine} {scope : Scope} {curve : Curve} {running : Flows}
  {days later : List (Date × Flows)}

theorem dates_of_accumulate (drawn : accumulate running days = .ok curve) :
    curve.map CurvePoint.date = days.map Prod.fst := by
  induction days generalizing running curve with
  | nil =>
    cases drawn
    rfl
  | cons one days ih =>
    obtain ⟨date, flows⟩ := one
    obtain ⟨next, added, drawn⟩ := bind_eq_ok.mp drawn
    obtain ⟨first, pointed, drawn⟩ := bind_eq_ok.mp drawn
    obtain ⟨rest, followed, drawn⟩ := bind_eq_ok.mp drawn
    cases drawn
    obtain ⟨total, _, pointed⟩ := bind_eq_ok.mp pointed
    cases pointed
    rw [List.map_cons, List.map_cons, ih followed]

theorem exists_of_accumulate (drawn : accumulate running days = .ok curve) {point : CurvePoint}
    (member : point ∈ curve) : ∃ one ∈ days, one.1 = point.date :=
  List.mem_map.mp (dates_of_accumulate drawn ▸ List.mem_map_of_mem member)

theorem accumulate_append (drawn : accumulate running (days ++ later) = .ok curve) :
    ∃ first reached rest, accumulate running days = .ok first ∧ accumulate reached later = .ok rest ∧
      curve = first ++ rest := by
  induction days generalizing running curve with
  | nil => exact ⟨[], running, curve, rfl, drawn, rfl⟩
  | cons one days ih =>
    obtain ⟨date, flows⟩ := one
    obtain ⟨next, added, drawn⟩ := bind_eq_ok.mp drawn
    obtain ⟨point, pointed, drawn⟩ := bind_eq_ok.mp drawn
    obtain ⟨curve, followed, drawn⟩ := bind_eq_ok.mp drawn
    cases drawn
    obtain ⟨first, reached, rest, begun, ended, rfl⟩ := ih followed
    refine ⟨point :: first, reached, rest, ?_, ended, rfl⟩
    rw [accumulate, added, ok_bind, pointed, ok_bind, begun]
    rfl

/-- The days up to one draw the points up to that day. -/
theorem accumulate_through {days : DailyFlows} (drawn : accumulate running days.entries = .ok curve) (day : Date) :
    accumulate running (days.through day).entries = .ok (curve.filter fun point => point.date ≤ day) := by
  rw [← Ordered.filter_le_append_filter_lt (fun one : Date × Flows => one.1.dayNumber)
    ((ascending_days days).imp le_of_lt) day.dayNumber] at drawn
  obtain ⟨first, reached, rest, begun, ended, rfl⟩ := accumulate_append drawn
  rw [filter_of_split (fun _ => exists_of_accumulate begun) fun _ => exists_of_accumulate ended]
  exact begun

/-- History does not change with later lines. If a ledger has a curve, the lines of it that are dated up to
a day have one, and it has the points of the whole curve up to that day; for every order of the lines,
every scope and both policies, without open positions. -/
theorem reconstruct_datedBy {today : Date} (drawn : reconstruct policy lines [] scope today = .ok curve) (day : Date) :
    reconstruct policy (lines.filter (·.datedBy day)) [] scope today =
      .ok (curve.filter fun point => point.date ≤ day) := by
  rw [reconstruct_nil] at drawn ⊢
  obtain ⟨days, filled, drawn⟩ := bind_eq_ok.mp drawn
  rw [realized, linesIn_filter, DailyFlows.ofLines_datedBy filled day, ok_bind]
  exact accumulate_through drawn day

/-- A ledger that is not in order, with shares sold before and after a day on which more are bought, lines of
other sources and one without a date. -/
def unorderedLines : List LedgerLine :=
  [⟨"A", "X", "X", .equity, Date.ofDayNumber? 5, .sell, .ofUInt32 2, .ofUInt32 9⟩,
    ⟨"A", "X", "X", .equity, Date.ofDayNumber? 1, .buy, .ofUInt32 2, .ofUInt32 4⟩,
    ⟨"A", "X", "X C 10", .call, Date.ofDayNumber? 6, .sell, .ofUInt32 1, .ofUInt32 7⟩,
    ⟨"A", "X", "X", .equity, Date.ofDayNumber? 3, .sell, .ofUInt32 1, .ofUInt32 5⟩,
    ⟨"A", "X", "X", .dividend, none, .dividend, .zero, .ofUInt32 1⟩,
    ⟨"A", "x", "X", .equity, Date.ofDayNumber? 4, .buy, .ofUInt32 2, .ofUInt32 8⟩,
    ⟨"A", "X", "X", .dividend, Date.ofDayNumber? 3, .dividend, .zero, .ofUInt32 1⟩]

theorem unordered_lines_datedBy : ∃ curve,
    reconstruct .proceedsAsPnl unorderedLines [] .all ⟨9, by decide, by decide⟩ = .ok curve ∧
      curve.map (·.date.dayNumber) = [1, 3, 4, 5, 6] ∧
      reconstruct .proceedsAsPnl (unorderedLines.filter (·.datedBy ⟨4, by decide, by decide⟩)) [] .all
        ⟨9, by decide, by decide⟩ = .ok (curve.filter fun point => point.date ≤ ⟨4, by decide, by decide⟩) := by
  obtain ⟨curve, drawn⟩ := exists_of_isOk (show (reconstruct .proceedsAsPnl unorderedLines [] .all
    ⟨9, by decide, by decide⟩).isOk by decide +kernel)
  have days : (reconstruct .proceedsAsPnl unorderedLines [] .all ⟨9, by decide, by decide⟩).map
      (·.map (·.date.dayNumber)) = .ok [1, 3, 4, 5, 6] := by decide +kernel
  rw [drawn] at days
  exact ⟨curve, drawn, Except.ok.inj days, reconstruct_datedBy drawn _⟩

end Curve

end TradeLedger
