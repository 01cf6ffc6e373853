import TradeLedger.Decimal.Arithmetic
import TradeLedger.Decimal.Quotient
import TradeLedger.Ledger.Position
import TradeLedger.Ordered

/-! How often each strategy wins. -/
namespace TradeLedger.Review

/-- Trades and winners of one strategy, and what they brought. -/
structure Tally where
  trades : Nat
  winners : Nat
  pnl : Decimal
  deriving DecidableEq, Repr

/-- The tally with one more trade. -/
def Tally.add (tally : Tally) (group : TradeGroup) : Except Fault Tally := do
  let pnl ← tally.pnl.add group.pnl
  return ⟨tally.trades + 1, if group.isWinner then tally.winners + 1 else tally.winners, pnl⟩

/-- The record of one strategy. -/
structure StrategyRecord where
  strategy : String
  tally : Tally
  winRate : Decimal
  deriving DecidableEq, Repr

namespace StrategyRecord

/-- The fraction of trades that won. -/
def ofTally (strategy : String) (tally : Tally) : Except Fault StrategyRecord := do
  let winRate ← (Decimal.ofCount tally.winners).div (.ofCount tally.trades)
  return ⟨strategy, tally, winRate⟩

/-- The tallies of all strategies with one more trade. -/
def addGroup (tallies : OrderedMap String Tally) (group : TradeGroup) :
    Except Fault (OrderedMap String Tally) := do
  let tally ← (tallies.getD group.strategy ⟨0, 0, .zero⟩).add group
  return tallies.insert group.strategy tally

/-- The records of the strategies of some trades, in the order of their names. -/
def ofGroups (groups : List TradeGroup) : Except Fault (List StrategyRecord) := do
  let tallies ← groups.foldlM addGroup ∅
  tallies.entries.mapM fun (strategy, tally) => ofTally strategy tally

/-- How many trades a strategy needs before its record counts. -/
def fewestTrades : Nat := 2

/-- The better of two records: the first, unless the second wins more often. -/
def better (best : Option StrategyRecord) (record : StrategyRecord) : Option StrategyRecord :=
  match best with
  | some best => if record.winRate ≤ best.winRate then some best else some record
  | none => some record

/-- The record with the highest win rate among strategies with enough trades; of equal ones
the first. -/
def mostConsistent? (records : List StrategyRecord) : Option StrategyRecord :=
  (records.filter fun record => fewestTrades ≤ record.tally.trades).foldl better none

end StrategyRecord

end TradeLedger.Review
