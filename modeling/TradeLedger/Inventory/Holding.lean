import TradeLedger.Decimal.Arithmetic
import TradeLedger.Decimal.Quotient
import TradeLedger.Ledger.Line

/-! One holding of shares at average cost. A purchase adds to shares and cost; a sale
realizes its proceeds less the average cost of the shares sold. What a sale of more shares
than are held means is a choice of policy. -/
namespace TradeLedger

/-- How sales of shares that are not held are booked. -/
inductive ShortSales where
  /-- The proceeds are profit, and no short position is kept. -/
  | proceedsAsPnl
  /-- They open a short position, and the purchase that covers it realizes the
  difference. -/
  | trackInventory
  deriving DecidableEq, Repr

namespace ShortSales

/-- The policy that a setting names. -/
def ofLabel? (raw : String) : Option ShortSales :=
  match Text.label raw with
  | "proceeds" | "proceeds_as_pnl" => some .proceedsAsPnl
  | "track" | "track_short_inventory" => some .trackInventory
  | _ => none

/-- The full name of a policy. -/
def name : ShortSales → String
  | .proceedsAsPnl => "proceeds_as_pnl"
  | .trackInventory => "track_short_inventory"

end ShortSales

/-- Shares and what they cost. Negative shares are a short position, and the cost is then
the proceeds that still stand behind it. -/
structure Holding where
  shares : Decimal
  cost : Decimal
  deriving DecidableEq, Repr

namespace Holding

/-- No shares at no cost. -/
def flat : Holding := ⟨.zero, .zero⟩

/-- Whether there are no shares. -/
def isFlat (holding : Holding) : Bool := holding.shares.isZero

/-- The cost per share; none when there are no shares. -/
def averageCost (holding : Holding) : Except Fault (Option Decimal) :=
  if holding.isFlat then .ok none
  else (holding.cost.div holding.shares.abs).map some

/-- A holding without shares costs nothing. -/
def settle (holding : Holding) : Holding :=
  if holding.isFlat then { holding with cost := .zero } else holding

/-- Shares and their cost added. -/
def add (holding : Holding) (quantity cost : Decimal) : Except Fault Holding := do
  let shares ← holding.shares.add quantity
  let cost ← holding.cost.add cost
  return ⟨shares, cost⟩

/-- A purchase against a short position: it covers shares at the average proceeds, and
what is left of it opens a long position with its part of the cost. Gives the holding and
the profit of the shares covered. -/
def cover (holding : Holding) (quantity cost : Decimal) : Except Fault (Holding × Decimal) := do
  let covered := quantity.min holding.shares.neg
  let average := (← holding.averageCost).getD .zero
  let basis ← average.mul covered
  let coverCost ← (← cost.mul covered).div quantity
  let remaining ← holding.cost.sub basis
  let shares ← holding.shares.add covered
  let closed := settle ⟨shares, remaining.max .zero⟩
  let rest ← quantity.sub covered
  let holding ←
    if Decimal.zero < rest then do
      let shares ← closed.shares.add rest
      let restCost ← cost.sub coverCost
      let cost ← closed.cost.add restCost
      pure ⟨shares, cost⟩
    else pure closed
  return (holding, ← basis.sub coverCost)

/-- A sale against a long position, of all its shares at most unless short positions are
tracked. Gives the holding and the profit of the shares sold. -/
def sellHeld (policy : ShortSales) (holding : Holding) (quantity proceeds : Decimal) :
    Except Fault (Holding × Decimal) := do
  let average := (← holding.averageCost).getD .zero
  let sold := quantity.min holding.shares
  let basis ← average.mul sold
  if policy = .trackInventory ∧ sold < quantity then
    let closing ← (← proceeds.mul sold).div quantity
    let short ← quantity.sub sold
    let backing ← proceeds.sub closing
    return (⟨short.neg, backing.abs⟩, ← closing.sub basis)
  else
    let pnl ← proceeds.sub basis
    let cost ← holding.cost.sub basis
    let shares ← holding.shares.sub sold
    return (settle ⟨shares.max .zero, cost.max .zero⟩, pnl)

/-- A purchase of `quantity` shares for `cost`. -/
def buy (policy : ShortSales) (holding : Holding) (quantity cost : Decimal) :
    Except Fault (Holding × Option Decimal) := do
  if policy = .trackInventory ∧ holding.shares < Decimal.zero then
    let (holding, pnl) ← holding.cover quantity cost
    return (holding, some pnl)
  else
    return (← holding.add quantity cost, none)

/-- A sale of `quantity` shares for `proceeds`. -/
def sell (policy : ShortSales) (holding : Holding) (quantity proceeds : Decimal) :
    Except Fault (Holding × Option Decimal) := do
  if Decimal.zero < holding.shares then
    let (holding, pnl) ← holding.sellHeld policy quantity proceeds
    return (holding, some pnl)
  else
    match policy with
    | .proceedsAsPnl => return (holding, some proceeds)
    | .trackInventory =>
      let shares ← holding.shares.sub quantity
      let cost ← holding.cost.add proceeds.abs
      return (⟨shares, cost⟩, none)

/-- The holding after one ledger line, and the profit in cents that the line realizes. A
line without a quantity, or one that neither buys nor sells, changes nothing. -/
def apply (policy : ShortSales) (holding : Holding) (action : Action)
    (quantity amount : Decimal) : Except Fault (Holding × Option Decimal) := do
  if quantity.isZero then
    return (holding, none)
  else
    let (holding, pnl) ←
      match action with
      | .buy => holding.buy policy quantity.abs amount.abs
      | .sell | .sellShort => holding.sell policy quantity.abs amount
      | .dividend | .other _ => pure (holding, none)
    return (holding, pnl.map Decimal.roundCents)

end Holding

end TradeLedger
