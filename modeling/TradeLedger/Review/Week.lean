import TradeLedger.Calendar.Date
import TradeLedger.Ledger.Position
import TradeLedger.Ordered

/-! The week under review and the week before it, and how they differ: in the positions
opened and in the moods noted about them. -/
namespace TradeLedger.Review

/-- Seven days and the seven days before them, by their first and last days. -/
structure Week where
  first : Date
  last : Date
  previousFirst : Date
  previousLast : Date
  deriving DecidableEq, Repr

namespace Week

/-- The week that ends on a day. -/
def ending (last : Date) : Except Fault Week := do
  let first ← last.before 6
  let previousLast ← first.before 1
  let previousFirst ← previousLast.before 6
  return ⟨first, last, previousFirst, previousLast⟩

/-- Whether a day is in the week. -/
def contains (week : Week) (date : Date) : Bool := week.first ≤ date && date ≤ week.last

/-- Whether a day is in the week before. -/
def previousContains (week : Week) (date : Date) : Bool :=
  week.previousFirst ≤ date && date ≤ week.previousLast

/-- Whether a day is known and in the week. -/
def containsSome (week : Week) (date : Option Date) : Bool := date.any week.contains

/-- Whether a day is known and in the week before. -/
def previousContainsSome (week : Week) (date : Option Date) : Bool :=
  date.any week.previousContains

end Week

/-- How many positions were opened in each of the two weeks. -/
structure OpeningDrift where
  thisWeek : Nat
  previousWeek : Nat
  deriving DecidableEq, Repr

namespace OpeningDrift

/-- By how many the openings have grown. -/
def difference (drift : OpeningDrift) : Int := (drift.thisWeek : Int) - drift.previousWeek

/-- The openings on these days. -/
def ofDates (week : Week) (opened : List Date) : OpeningDrift :=
  ⟨opened.countP week.contains, opened.countP week.previousContains⟩

end OpeningDrift

/-- How often each mood was noted, and how many entries there were in all. -/
structure Moods where
  counts : OrderedMap String Nat
  entries : Nat

namespace Moods

/-- The counts with one more entry; an entry without a mood counts only as an entry. -/
def add (moods : Moods) (entry : JournalEntry) : Moods :=
  let counts :=
    match entry.mood.filter (· != "") with
    | some mood => moods.counts.insert mood (moods.counts.getD mood 0 + 1)
    | none => moods.counts
  ⟨counts, moods.entries + 1⟩

/-- The moods of some entries. -/
def ofEntries (entries : List JournalEntry) : Moods := entries.foldl add ⟨∅, 0⟩

end Moods

/-- The moods of the two weeks. -/
structure MoodDrift where
  thisWeek : Moods
  previousWeek : Moods

/-- The moods noted about trades opened in each of the two weeks. -/
def MoodDrift.ofJournal (week : Week) (journal : List JournalEntry) : MoodDrift :=
  ⟨.ofEntries (journal.filter fun entry => week.containsSome entry.opened),
    .ofEntries (journal.filter fun entry => week.previousContainsSome entry.opened)⟩

end TradeLedger.Review
