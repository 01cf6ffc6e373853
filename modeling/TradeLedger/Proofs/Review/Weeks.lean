import TradeLedger.Calendar.Date
import TradeLedger.Proofs.Decimal.Totals
import TradeLedger.Proofs.Ordered.Parts
import TradeLedger.Review.Weekly

/-! Reviews of weeks that follow one another. The week before the one under review is the week that a review
seven days earlier is about, so both say the same of it. Reviews taken every seven days leave no day out and take
none twice: a trade that was closed in their days is in exactly one of them, and what they count and sum is what
all these trades come to. -/
namespace TradeLedger

namespace Date

variable {date day : Date} {days : Nat}

theorem before_eq_ok : date.before days = .ok day ↔ day.dayNumber = date.dayNumber - days := by
  unfold before
  split
  case isTrue inside =>
    constructor
    · intro stepped
      cases stepped
      rfl
    · exact fun same => congrArg Except.ok (ext_dayNumber same.symm)
  case isFalse outside =>
    have inside := day.first_le
    constructor
    · intro stepped
      cases stepped
    · omega

theorem exists_before (inside : Calendar.firstDay + days ≤ date.dayNumber) : ∃ day, date.before days = .ok day := by
  unfold before
  rw [dif_pos (by omega)]
  exact ⟨_, rfl⟩

end Date

namespace Review

namespace Week

variable {week earlier : Week} {today sevenBefore date : Date}

/-- The week is that of the seven days up to this one, and the week before it that of the seven days before them. -/
structure EndsOn (week : Week) (today : Date) : Prop where
  first : week.first.dayNumber = today.dayNumber - 6
  last : week.last = today
  previousFirst : week.previousFirst.dayNumber = today.dayNumber - 13
  previousLast : week.previousLast.dayNumber = today.dayNumber - 7

theorem endsOn_of_ending (ended : ending today = .ok week) : week.EndsOn today := by
  unfold ending at ended
  obtain ⟨first, began, ended⟩ := bind_eq_ok.mp ended
  obtain ⟨previousLast, closed, ended⟩ := bind_eq_ok.mp ended
  obtain ⟨previousFirst, opened, ended⟩ := bind_eq_ok.mp ended
  rw [Date.before_eq_ok] at began closed opened
  cases ended
  constructor <;> simp only <;> omega

/-- There is such a week after the first thirteen days of the calendar. -/
theorem exists_ending (far : Calendar.firstDay + 13 ≤ today.dayNumber) : ∃ week, ending today = .ok week := by
  have began : ∃ first, today.before 6 = .ok first := Date.exists_before (by omega)
  obtain ⟨first, began⟩ := began
  have away := Date.before_eq_ok.mp began
  have closed : ∃ previousLast, first.before 1 = .ok previousLast := Date.exists_before (by omega)
  obtain ⟨previousLast, closed⟩ := closed
  have away' := Date.before_eq_ok.mp closed
  have opened : ∃ previousFirst, previousLast.before 6 = .ok previousFirst := Date.exists_before (by omega)
  obtain ⟨previousFirst, opened⟩ := opened
  exact ⟨_, bind_eq_ok.mpr ⟨first, began, bind_eq_ok.mpr ⟨previousLast, closed,
    bind_eq_ok.mpr ⟨previousFirst, opened, rfl⟩⟩⟩⟩

theorem EndsOn.contains_iff (ends : week.EndsOn today) : week.contains date ↔
    today.dayNumber - 7 < date.dayNumber ∧ date.dayNumber ≤ today.dayNumber := by
  unfold contains
  rw [Bool.and_eq_true, decide_eq_true_eq, decide_eq_true_eq, ends.last]
  change week.first.dayNumber ≤ date.dayNumber ∧ date.dayNumber ≤ today.dayNumber ↔ _
  rw [ends.first]
  omega

theorem EndsOn.previousContains_iff (ends : week.EndsOn today) : week.previousContains date ↔
    today.dayNumber - 14 < date.dayNumber ∧ date.dayNumber ≤ today.dayNumber - 7 := by
  unfold previousContains
  rw [Bool.and_eq_true, decide_eq_true_eq, decide_eq_true_eq]
  change week.previousFirst.dayNumber ≤ date.dayNumber ∧ date.dayNumber ≤ week.previousLast.dayNumber ↔ _
  rw [ends.previousFirst, ends.previousLast]
  omega

/-- The week before is the week that ended seven days earlier. -/
theorem EndsOn.previousContains_eq (ends : week.EndsOn today) (before : earlier.EndsOn sevenBefore)
    (apart : sevenBefore.dayNumber = today.dayNumber - 7) : week.previousContains = earlier.contains := by
  funext date
  apply Bool.eq_iff_iff.mpr
  rw [ends.previousContains_iff, before.contains_iff]
  omega

end Week

variable {groups : List TradeGroup} {opened : List Date} {journal : List JournalEntry} {today : Date}
  {review : Weekly}

theorem closedInWeek_perm (week : Week) (groups : List TradeGroup) :
    (closedInWeek week groups).Perm (groups.filter fun group => week.containsSome group.closed) := by
  have listed := map_snd_keyed TradeGroup.closed week.contains groups
  unfold Week.containsSome
  rw [← listed]
  exact (Ordered.sortBy_perm _ _).map _

/-- The trades that a review of some day is about. -/
def reviewed (groups : List TradeGroup) (today : Date) : List TradeGroup :=
  match Week.ending today with
  | .ok week => closedInWeek week groups
  | .error _ => []

/-- What a review shows of these trades and of its two weeks. -/
structure Weekly.Shows (review : Weekly) (week : Week) (groups : List TradeGroup) (opened : List Date)
    (journal : List JournalEntry) : Prop where
  pnl : Decimal.total ((closedInWeek week groups).map (·.pnl)) = .ok review.pnl
  trades : review.trades = (closedInWeek week groups).length
  winners : review.winners = (closedInWeek week groups).countP (·.isWinner)
  openings : review.openings = .ofDates week opened
  moods : review.moods = .ofJournal week journal

theorem Weekly.shows_of_compute (computed : compute groups opened journal today = .ok review) :
    ∃ week, Week.ending today = .ok week ∧ review.Shows week groups opened journal := by
  unfold compute at computed
  obtain ⟨week, ended, computed⟩ := bind_eq_ok.mp computed
  obtain ⟨pnl, summed, computed⟩ := bind_eq_ok.mp computed
  obtain ⟨records, _, computed⟩ := bind_eq_ok.mp computed
  cases computed
  exact ⟨week, ended, summed, rfl, rfl, rfl, rfl⟩

theorem StrategyRecord.ofGroups_fault {fault : Fault} (failed : ofGroups groups = .error fault) :
    fault ≠ .beforeCalendar := by
  rintro rfl
  rcases bind_eq_error.mp failed with failed | ⟨tallies, _, failed⟩
  · obtain ⟨tallies, group, _, failed⟩ := exists_of_foldlM_error failed
    rcases bind_eq_error.mp failed with failed | ⟨_, _, done⟩
    · rcases bind_eq_error.mp failed with failed | ⟨_, _, done⟩
      · cases Decimal.add_fault failed
      · cases done
    · cases done
  · obtain ⟨⟨strategy, tally⟩, _, failed⟩ := exists_of_mapM_error failed
    rcases bind_eq_error.mp failed with failed | ⟨_, _, done⟩
    · unfold Decimal.div at failed
      split at failed
      · cases failed
      · split at failed <;> cases failed
    · cases done

/-- A review of a day that has its weeks fails only in its sums and rates. -/
theorem Weekly.compute_fault (far : Calendar.firstDay + 13 ≤ today.dayNumber) {fault : Fault}
    (failed : compute groups opened journal today = .error fault) : fault ≠ .beforeCalendar := by
  obtain ⟨week, ended⟩ := Week.exists_ending far
  unfold compute at failed
  rw [ended, ok_bind] at failed
  rcases bind_eq_error.mp failed with failed | ⟨_, _, failed⟩
  · rw [Decimal.total_fault failed]
    exact Fault.noConfusion
  · rcases bind_eq_error.mp failed with failed | ⟨_, _, done⟩
    · exact StrategyRecord.ofGroups_fault failed
    · cases done

/-- Closed in the last days, up to today. -/
def closedWithin (days : Nat) (today : Date) (group : TradeGroup) : Bool :=
  group.closed.any fun date => today.dayNumber - days < date.dayNumber && date.dayNumber ≤ today.dayNumber

/-- How many whole weeks ago a trade was closed. -/
def weeksAgo (today : Date) (group : TradeGroup) : Nat :=
  group.closed.elim 0 fun date => ((today.dayNumber - date.dayNumber) / 7).toNat

/-- A trade closed in the days of `k` weeks is in the week in which it was closed and in no other. -/
theorem containsSome_iff {week : Week} {day : Date} {i k : Nat} {group : TradeGroup} (ends : week.EndsOn day)
    (back : day.dayNumber = today.dayNumber - (7 * i : Nat)) (counted : i < k) :
    week.containsSome group.closed = true ↔ closedWithin (7 * k) today group = true ∧ weeksAgo today group = i := by
  unfold Week.containsSome closedWithin weeksAgo
  cases group.closed with
  | none => simp
  | some date =>
    simp only [Option.any_some, Option.elim_some, Bool.and_eq_true, decide_eq_true_eq, ends.contains_iff, back]
    omega

theorem weeksAgo_lt {k : Nat} {group : TradeGroup} (closed : closedWithin (7 * k) today group = true) :
    weeksAgo today group < k := by
  unfold closedWithin at closed
  unfold weeksAgo
  cases known : group.closed with
  | none => simp [known] at closed
  | some date =>
    simp only [known, Option.any_some, Bool.and_eq_true, decide_eq_true_eq] at closed
    rw [Option.elim_some]
    omega

/-- The reviews taken today and every seven days before, the last first. -/
structure ReviewedWeekly (groups : List TradeGroup) (opened : List Date) (journal : List JournalEntry) (today : Date)
    (k : Nat) (day : Nat → Date) (review : Nat → Weekly) : Prop where
  back : ∀ i < k, today.before (7 * i) = .ok (day i)
  computed : ∀ i < k, Weekly.compute groups opened journal (day i) = .ok (review i)

section Tiling

variable {k : Nat} {day : Nat → Date} {reviews : Nat → Weekly}

/-- The trades of each review are those of its week. -/
theorem ReviewedWeekly.reviewed_perm (taken : ReviewedWeekly groups opened journal today k day reviews) {i : Nat}
    (counted : i < k) : (reviewed groups (day i)).Perm
      ((groups.filter (closedWithin (7 * k) today)).filter fun group => weeksAgo today group = i) := by
  obtain ⟨week, ended, _⟩ := Weekly.shows_of_compute (taken.computed i counted)
  have ends := Week.endsOn_of_ending ended
  have back := Date.before_eq_ok.mp (taken.back i counted)
  have own : groups.filter (fun group => week.containsSome group.closed) =
      (groups.filter (closedWithin (7 * k) today)).filter fun group => weeksAgo today group = i := by
    rw [List.filter_filter]
    apply List.filter_congr
    intro group _
    apply Bool.eq_iff_iff.mpr
    rw [containsSome_iff ends back counted, Bool.and_eq_true, decide_eq_true_eq, and_comm]
  unfold reviewed
  rw [ended, ← own]
  exact closedInWeek_perm week groups

/-- What is summed over the trades of each review is summed over them all. -/
theorem ReviewedWeekly.sum_reviewed {M : Type} [AddCommMonoid M]
    (taken : ReviewedWeekly groups opened journal today k day reviews) (f : TradeGroup → M) :
    ∑ i ∈ Finset.range k, ((reviewed groups (day i)).map f).sum =
      ((groups.filter (closedWithin (7 * k) today)).map f).sum := by
  have covers : ∀ group ∈ groups.filter (closedWithin (7 * k) today), weeksAgo today group ∈ Finset.range k := by
    intro group member
    exact Finset.mem_range.mpr (weeksAgo_lt (List.of_mem_filter member))
  rw [← sum_parts (weeksAgo today) f covers]
  apply Finset.sum_congr rfl
  intro i member
  exact ((taken.reviewed_perm (Finset.mem_range.mp member)).map f).sum_eq

/-- A trade of these days is in one of the reviews and in no other. -/
theorem ReviewedWeekly.existsUnique (taken : ReviewedWeekly groups opened journal today k day reviews)
    {group : TradeGroup} (member : group ∈ groups) (closed : closedWithin (7 * k) today group = true) :
    ∃! i, i < k ∧ group ∈ reviewed groups (day i) := by
  have mem_iff : ∀ i < k, group ∈ reviewed groups (day i) ↔ weeksAgo today group = i := by
    intro i counted
    rw [(taken.reviewed_perm counted).mem_iff]
    simp [member, closed]
  have counted := weeksAgo_lt closed
  refine ⟨weeksAgo today group, ⟨counted, (mem_iff _ counted).mpr rfl⟩, ?_⟩
  rintro i ⟨counted, found⟩
  exact ((mem_iff i counted).mp found).symm

/-- Each review counts and sums its trades. -/
theorem ReviewedWeekly.figures (taken : ReviewedWeekly groups opened journal today k day reviews) {i : Nat}
    (counted : i < k) : (reviews i).trades = (reviewed groups (day i)).length ∧
      (reviews i).winners = (reviewed groups (day i)).countP (·.isWinner) ∧
      Decimal.total ((reviewed groups (day i)).map (·.pnl)) = .ok (reviews i).pnl := by
  obtain ⟨week, ended, shows⟩ := Weekly.shows_of_compute (taken.computed i counted)
  unfold reviewed
  rw [ended]
  exact ⟨shows.trades, shows.winners, shows.pnl⟩

theorem ReviewedWeekly.sum_trades (taken : ReviewedWeekly groups opened journal today k day reviews) :
    ∑ i ∈ Finset.range k, (reviews i).trades = (groups.filter (closedWithin (7 * k) today)).length := by
  have ones := taken.sum_reviewed fun _ => 1
  simp only [List.map_const', List.sum_replicate, smul_eq_mul, mul_one] at ones
  rw [← ones]
  exact Finset.sum_congr rfl fun i member => (taken.figures (Finset.mem_range.mp member)).1

theorem ReviewedWeekly.sum_winners (taken : ReviewedWeekly groups opened journal today k day reviews) :
    ∑ i ∈ Finset.range k, (reviews i).winners =
      (groups.filter (closedWithin (7 * k) today)).countP (·.isWinner) := by
  have ones := taken.sum_reviewed fun group => if group.isWinner then 1 else 0
  simp only [← countP_eq_sum] at ones
  rw [← ones]
  exact Finset.sum_congr rfl fun i member => (taken.figures (Finset.mem_range.mp member)).2.1

theorem ReviewedWeekly.sum_pnl (taken : ReviewedWeekly groups opened journal today k day reviews)
    (unrounded : ∀ i < k, Decimal.TotalsExactly ((reviewed groups (day i)).map (·.pnl))) :
    ∑ i ∈ Finset.range k, (reviews i).pnl.toRat =
      ((groups.filter (closedWithin (7 * k) today)).map fun group => group.pnl.toRat).sum := by
  rw [← taken.sum_reviewed]
  apply Finset.sum_congr rfl
  intro i member
  have counted := Finset.mem_range.mp member
  rw [(Decimal.total_exact (unrounded i counted)).toRat_eq (taken.figures counted).2.2, List.map_map]
  rfl

end Tiling

/-- Weekly reviews tile the calendar. What a review says of the week before is what a review seven days earlier
says of its own, and neither lacks a day. Of the trades closed in the last `7 * k` days each is in exactly one of
`k` reviews taken every seven days; the reviews together count them and those of them that won, and where no sum
is rounded their profits add up to that of them all. -/
theorem Weekly.tiles_calendar (groups : List TradeGroup) (opened : List Date) (journal : List JournalEntry)
    (today : Date) (far : Calendar.firstDay + 20 ≤ today.dayNumber) :
    (∃ earlier, today.before 7 = .ok earlier ∧
      compute groups opened journal today ≠ .error .beforeCalendar ∧
      compute groups opened journal earlier ≠ .error .beforeCalendar ∧
      ∀ review previous, compute groups opened journal today = .ok review →
        compute groups opened journal earlier = .ok previous →
        review.openings.previousWeek = previous.openings.thisWeek ∧
          review.moods.previousWeek = previous.moods.thisWeek) ∧
    ∀ (k : Nat) (day : Nat → Date) (reviews : Nat → Weekly),
      ReviewedWeekly groups opened journal today k day reviews →
        (∀ group ∈ groups, closedWithin (7 * k) today group = true → ∃! i, i < k ∧ group ∈ reviewed groups (day i)) ∧
        ∑ i ∈ Finset.range k, (reviews i).trades = (groups.filter (closedWithin (7 * k) today)).length ∧
        ∑ i ∈ Finset.range k, (reviews i).winners =
          (groups.filter (closedWithin (7 * k) today)).countP (·.isWinner) ∧
        ((∀ i < k, Decimal.TotalsExactly ((reviewed groups (day i)).map (·.pnl))) →
          ∑ i ∈ Finset.range k, (reviews i).pnl.toRat =
            ((groups.filter (closedWithin (7 * k) today)).map fun group => group.pnl.toRat).sum) := by
  constructor
  · obtain ⟨earlier, stepped⟩ : ∃ earlier, today.before 7 = .ok earlier := Date.exists_before (by omega)
    have apart := Date.before_eq_ok.mp stepped
    refine ⟨earlier, stepped, fun failed => compute_fault (by omega) failed rfl,
      fun failed => compute_fault (by omega) failed rfl, fun review previous computed computed' => ?_⟩
    obtain ⟨week, ended, shows⟩ := shows_of_compute computed
    obtain ⟨week', ended', shows'⟩ := shows_of_compute computed'
    have same := (Week.endsOn_of_ending ended).previousContains_eq (Week.endsOn_of_ending ended') apart
    rw [shows.openings, shows.moods, shows'.openings, shows'.moods]
    simp only [OpeningDrift.ofDates, MoodDrift.ofJournal, Week.previousContainsSome, Week.containsSome, same,
      and_self]
  · intro k day reviews taken
    exact ⟨fun group member closed => taken.existsUnique member closed, taken.sum_trades, taken.sum_winners,
      taken.sum_pnl⟩

/-- Six days after 28 February 2024, and the day a week before. -/
def afterLeapDay : Date := ⟨738949, by decide, by decide⟩
def beforeLeapDay : Date := ⟨738942, by decide, by decide⟩

/-- Trades closed on the first and the last days of the two weeks, and one closed before them. -/
def closedAroundLeapDay : List TradeGroup :=
  [⟨"A", "X", "X", "swing", "equity", none, some afterLeapDay, .ofUInt32 30, 2, 2⟩,
    ⟨"A", "Y", "Y", "swing", "equity", none, Date.ofCivil? ⟨2024, 2, 28⟩, .ofUInt32 5, 1, 2⟩,
    ⟨"A", "X", "X", "hold", "equity", none, Date.ofCivil? ⟨2024, 2, 27⟩,
      (Decimal.ofParts? true 125 1).getD .zero, 4, 2⟩,
    ⟨"B", "Z", "Z", "swing", "equity", none, Date.ofCivil? ⟨2024, 2, 21⟩, .ofUInt32 7, 3, 2⟩,
    ⟨"B", "Z", "Z", "hold", "equity", none, Date.ofCivil? ⟨2024, 2, 20⟩, .ofUInt32 100, 9, 2⟩]

/-- Two reviews share the trades of the two weeks, and agree on the one that was opened in the first. -/
theorem leap_day_reviewed_once : Calendar.firstDay + 20 ≤ afterLeapDay.dayNumber ∧
    ∃ after before, Weekly.compute closedAroundLeapDay [beforeLeapDay] [] afterLeapDay = .ok after ∧
      Weekly.compute closedAroundLeapDay [beforeLeapDay] [] beforeLeapDay = .ok before ∧
      after.openings.previousWeek = before.openings.thisWeek ∧ before.trades + after.trades = 4 ∧
      before.winners + after.winners = 3 ∧ before.pnl.toRat + after.pnl.toRat = 59 / 2 := by
  have far : Calendar.firstDay + 20 ≤ afterLeapDay.dayNumber := by decide
  obtain ⟨after, computed⟩ := exists_of_isOk
    (show (Weekly.compute closedAroundLeapDay [beforeLeapDay] [] afterLeapDay).isOk by decide +kernel)
  obtain ⟨before, computed'⟩ := exists_of_isOk
    (show (Weekly.compute closedAroundLeapDay [beforeLeapDay] [] beforeLeapDay).isOk by decide +kernel)
  obtain ⟨⟨earlier, stepped, _, _, drift⟩, tiling⟩ :=
    Weekly.tiles_calendar closedAroundLeapDay [beforeLeapDay] [] afterLeapDay far
  obtain rfl : beforeLeapDay = earlier := Date.ext_dayNumber (Date.before_eq_ok.mp stepped).symm
  have taken : ReviewedWeekly closedAroundLeapDay [beforeLeapDay] [] afterLeapDay 2
      (fun i => if i = 0 then afterLeapDay else beforeLeapDay) (fun i => if i = 0 then after else before) := by
    constructor
    · intro i counted
      obtain rfl | rfl : i = 0 ∨ i = 1 := by omega
      · decide
      · decide
    · intro i counted
      obtain rfl | rfl : i = 0 ∨ i = 1 := by omega
      · exact computed
      · exact computed'
  obtain ⟨_, trades, winners, pnl⟩ := tiling 2 _ _ taken
  have pnl := pnl (by decide +kernel)
  rw [Finset.sum_range_succ', Finset.sum_range_one] at trades winners pnl
  exact ⟨far, after, before, computed, computed', (drift after before computed computed').1,
    trades.trans (by decide +kernel), winners.trans (by decide +kernel), pnl.trans (by decide +kernel)⟩

end Review

end TradeLedger
