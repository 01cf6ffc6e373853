import TradeLedger.Ordered
import TradeLedger.Review.Impulse
import TradeLedger.Review.Strategy
import TradeLedger.Review.Week

/-! The weekly review: the trades closed in the seven days up to today, the best and the
worst of them, the strategy that won most often, the change against the week before and
the impulsive losses. -/
namespace TradeLedger.Review

/-- The review of one week. -/
structure Weekly where
  first : Date
  last : Date
  pnl : Decimal
  trades : Nat
  winners : Nat
  best : Option TradeGroup
  worst : Option TradeGroup
  /-- The worst trade that lost money. -/
  largestMistake : Option TradeGroup
  mostConsistent : Option StrategyRecord
  openings : OpeningDrift
  moods : MoodDrift
  impulses : List Impulse

/-- The trades closed in a week, the latest first; those of one day keep their order. -/
def closedInWeek (week : Week) (groups : List TradeGroup) : List TradeGroup :=
  let closed := groups.filterMap fun group =>
    (group.closed.filter week.contains).map fun date => (date, group)
  (Ordered.sortBy (fun a b => b.1 ≤ a.1) closed).map (·.2)

/-- The first trade whose profit no other one beats. -/
def firstBy (beats : Decimal → Decimal → Bool) (groups : List TradeGroup) :
    Option TradeGroup :=
  groups.foldl
    (fun best group =>
      match best with
      | some best => if beats group.pnl best.pnl then some group else some best
      | none => some group)
    none

/-- The first of the most profitable trades. -/
def best? (groups : List TradeGroup) : Option TradeGroup :=
  firstBy (fun a b => b < a) groups

/-- The first of the least profitable trades. -/
def worst? (groups : List TradeGroup) : Option TradeGroup :=
  firstBy (fun a b => a < b) groups

/-- The review of the week that ends today. -/
def Weekly.compute (groups : List TradeGroup) (opened : List Date)
    (journal : List JournalEntry) (today : Date) : Except Fault Weekly := do
  let week ← Week.ending today
  let closed := closedInWeek week groups
  let losers := closed.filter (·.isLoser)
  let pnl ← Decimal.total (closed.map (·.pnl))
  let records ← StrategyRecord.ofGroups closed
  return {
    first := week.first
    last := week.last
    pnl
    trades := closed.length
    winners := closed.countP (·.isWinner)
    best := best? closed
    worst := worst? closed
    largestMistake := worst? losers
    mostConsistent := StrategyRecord.mostConsistent? records
    openings := .ofDates week opened
    moods := .ofJournal week journal
    impulses := Impulse.ofLosers losers journal }

end TradeLedger.Review
