import TradeLedger.Ledger.Position
import TradeLedger.Ordered
import TradeLedger.Text.Uppercase

/-! Impulsive losses: losing trades whose journal entry carries a tag of a risky habit. -/
namespace TradeLedger.Review

/-- The tags of risky habits. -/
def riskyTags : List String := ["fomo", "revenge_trade", "boredom_trade"]

/-- How many impulsive losses are listed. -/
def mostImpulses : Nat := 5

/-- How many characters of a reflection are quoted. -/
def mostReflection : Nat := 200

/-- What a trade and the entries about it have in common. -/
structure TradeKey where
  account : String
  /-- The symbol in upper case. -/
  symbol : String
  strategy : String
  opened : Date
  deriving DecidableEq, Repr

namespace TradeKey

instance : Ord TradeKey :=
  ⟨compareLex (compareOn account) (compareLex (compareOn symbol)
    (compareLex (compareOn strategy) (compareOn opened)))⟩

instance : Std.TransOrd TradeKey :=
  inferInstanceAs (Std.TransCmp (compareLex (compareOn account) (compareLex (compareOn symbol)
    (compareLex (compareOn strategy) (compareOn opened)))))

/-- The key of a trade, if the day on which it was opened is known. -/
def ofGroup? (group : TradeGroup) : Option TradeKey :=
  group.opened.map fun opened => ⟨group.account, Text.upper group.symbol, group.strategy, opened⟩

/-- The key of the trade that an entry is about, if it names the day on which it was opened. -/
def named? (entry : JournalEntry) : Option TradeKey :=
  entry.opened.map fun opened => ⟨entry.account, Text.upper entry.symbol, entry.strategy, opened⟩

end TradeKey

/-- The entries by their trades; of several about one trade the last. -/
def entriesByTrade (journal : List JournalEntry) : OrderedMap TradeKey JournalEntry :=
  .ofList (journal.filterMap fun entry => (TradeKey.named? entry).map fun key => (key, entry))

/-- A losing trade and what its journal entry says. -/
structure Impulse where
  symbol : String
  strategy : String
  tags : List String
  pnl : Decimal
  reflection : String
  deriving DecidableEq, Repr

namespace Impulse

/-- The tags with one more at the end, unless they hold it already. -/
def insertTag (tags : List String) (tag : String) : List String :=
  if tags.contains tag then tags else tags ++ [tag]

/-- The risky tags among some tags, each once, in the order of their first occurrence. -/
def riskyAmong (tags : List String) : List String :=
  (tags.filter riskyTags.contains).foldl insertTag []

/-- What an entry says about a trade, if it carries a risky tag. -/
def quote? (group : TradeGroup) (entry : JournalEntry) : Option Impulse :=
  match riskyAmong entry.tags with
  | [] => none
  | tags => some {
      symbol := group.symbol
      strategy := group.strategy
      tags
      pnl := group.pnl
      reflection := String.ofList ((entry.reflection.getD "").toList.take mostReflection) }

/-- The impulsive loss that a trade is, if its entry carries a risky tag. -/
def ofGroup? (entries : OrderedMap TradeKey JournalEntry) (group : TradeGroup) :
    Option Impulse := do
  quote? group (← entries.get? (← TradeKey.ofGroup? group))

/-- The first impulsive losses among some losing trades. -/
def ofLosers (losers : List TradeGroup) (journal : List JournalEntry) : List Impulse :=
  (losers.filterMap (ofGroup? (entriesByTrade journal))).take mostImpulses

end Impulse

end TradeLedger.Review
