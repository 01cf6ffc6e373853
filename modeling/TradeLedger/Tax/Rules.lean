import TradeLedger.Decimal.Quotient

/-! The rules by which a year is taxed: the bracket, the length of a long-term holding,
the window of a wash sale and the limit of a deductible loss. -/
namespace TradeLedger.Tax

/-- A bracket of ordinary income, with the rates of short-term and long-term gains in
percent. -/
structure Bracket where
  rate : UInt32
  longTermRate : UInt32
  deriving DecidableEq, Repr

namespace Bracket

/-- The brackets of ordinary income. -/
def table : List Bracket :=
  [⟨10, 0⟩, ⟨12, 0⟩, ⟨22, 15⟩, ⟨24, 15⟩, ⟨32, 15⟩, ⟨35, 15⟩, ⟨37, 20⟩]

/-- The ordinary rate of the bracket that is assumed where none is known. -/
def defaultRate : UInt32 := 22

/-- The bracket with this ordinary rate; the default bracket if there is none. -/
def ofRate (rate : UInt32) : Bracket :=
  (table.find? (·.rate == rate)).getD ⟨defaultRate, 15⟩

/-- The bracket as it is named to the reader. -/
def label (bracket : Bracket) : String := toString bracket.rate.toNat ++ "%"

/-- The rate of short-term gains as a fraction of one. -/
def shortTermFraction (bracket : Bracket) : Except Fault Decimal :=
  (Decimal.ofUInt32 bracket.rate).div .hundred

/-- The rate of long-term gains as a fraction of one. -/
def longTermFraction (bracket : Bracket) : Except Fault Decimal :=
  (Decimal.ofUInt32 bracket.longTermRate).div .hundred

end Bracket

/-- The rules of one tax report. -/
structure Rules where
  /-- How many days before or after a loss a repurchase makes it a wash sale. -/
  washSaleDays : Int
  /-- A holding of more days than these is long-term. -/
  longTermDays : Int
  /-- The largest net loss that may be deducted. -/
  lossLimit : Decimal
  bracket : Bracket
  deriving DecidableEq, Repr

namespace Rules

/-- The federal rules of the United States at the default bracket. -/
def us : Rules := ⟨30, 365, .ofUInt32 3000, .ofRate Bracket.defaultRate⟩

/-- The rules at the bracket with this ordinary rate. -/
def withBracket (rules : Rules) (rate : UInt32) : Rules :=
  { rules with bracket := .ofRate rate }

end Rules

end TradeLedger.Tax
