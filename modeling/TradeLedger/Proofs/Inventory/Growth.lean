import TradeLedger.Proofs.Decimal.Cents
import TradeLedger.Proofs.Inventory.Bound
import TradeLedger.Proofs.Inventory.Run

/-! How far a book can grow. Each line adds its quantity to the shares of one holding and its
amount to what the costs of all holdings and the profits realized so far come to, so that after so
many lines neither is larger than so many times the largest figure of a line. -/
namespace TradeLedger

open Decimal

/-- The figures of a line are those of a trade: no more than a thousand million millions, and a
quantity that is not zero is not below `least` either. -/
structure LedgerLine.Moderate (least : ℚ) (line : LedgerLine) : Prop where
  amount : |line.amount.toRat| ≤ 10 ^ 15
  quantity : |line.quantity.toRat| ≤ 10 ^ 15
  least : line.quantity.toRat = 0 ∨ least ≤ |line.quantity.toRat|

namespace Book

variable {policy : ShortSales} {book next final : Book} {dated : DatedLine} {lines : List DatedLine}
  {b e least : ℚ}

/-- The costs of all holdings, without their signs. -/
def costs (book : Book) : ℚ := book.total fun holding => |holding.cost.toRat|

/-- No holding has more than `b` shares, and all costs together are no more than `b`. -/
structure Within (b : ℚ) (book : Book) : Prop where
  shares : ∀ key, |(book.holding key).shares.toRat| ≤ b
  costs : book.costs ≤ b

theorem within_empty (nonneg : 0 ≤ b) : Within b ∅ :=
  ⟨fun key => by rw [holding_empty, Holding.flat, toRat_zero, abs_zero]; exact nonneg, nonneg⟩

theorem abs_cost_le (book : Book) (key : HoldingKey) : |(book.holding key).cost.toRat| ≤ book.costs :=
  OrderedMap.le_total _ (fun _ => abs_nonneg _) (by simp [Holding.flat])

theorem costs_insert (book : Book) (key : HoldingKey) (after : Holding) :
    Book.costs (book.insert key after) =
      book.costs - |(book.holding key).cost.toRat| + |after.cost.toRat| :=
  OrderedMap.total_insert _ (by simp [Holding.flat])

/-- A book that has not grown too far leaves every posting its room. -/
theorem Within.calm (within : Within b book) (moderate : dated.line.Moderate least) (positive : 0 < least)
    (small : e ≤ 3) (room : 20 + 2 / least + 5 * 10 ^ 15 + 4 * b ≤ e * 10 ^ 28) :
    Calm e (book.holding (keyOf dated)) dated.line.quantity dated.line.amount := by
  refine ⟨small, ?_⟩
  have shares := within.shares (keyOf dated)
  have cost := (book.abs_cost_le (keyOf dated)).trans within.costs
  have quotient : 2 / |dated.line.quantity.toRat| ≤ 2 / least := by
    rcases moderate.least with none | enough
    · rw [none, abs_zero, div_zero]
      positivity
    · gcongr
  linarith [moderate.amount, moderate.quantity]

/-- What is realized, without signs. -/
def gains (realized : List Realized) : ℚ := (realized.map fun one => |one.pnl.toRat|).sum

theorem gains_append (early late : List Realized) : gains (early ++ late) = gains early + gains late := by
  rw [gains, List.map_append, List.sum_append]
  rfl

theorem gains_toList_le (date : Date) (profit : Option Decimal) :
    gains (profit.map fun pnl => (⟨date, pnl.roundCents⟩ : Realized)).toList ≤
      |Holding.gain profit| + 1 / 200 := by
  cases profit with
  | none => norm_num [gains]
  | some pnl =>
    have near := abs_le_add_of_near pnl.abs_roundCents_sub_le
    simpa [gains] using near

/-- One line adds no more than the largest figures of a line. -/
theorem post_grows {realized : Option Realized} (within : Within b book)
    (moderate : dated.line.Moderate least)
    (calm : Calm e (book.holding (keyOf dated)) dated.line.quantity dated.line.amount)
    (posted : book.post policy dated = .ok (next, realized)) :
    (∀ key, |(next.holding key).shares.toRat| ≤ b + 2 * 10 ^ 15) ∧
      gains realized.toList + next.costs ≤ book.costs + 2 * 10 ^ 15 := by
  obtain ⟨after, profit, rfl, rfl, posting⟩ := post_posts posted
  have small := calm.small
  constructor
  · have changed : |after.shares.toRat| ≤ b + 2 * 10 ^ 15 := by
      linarith [posting.abs_shares_le calm, moderate.quantity, within.shares (keyOf dated)]
    refine forall_holding_insert (P := fun holding => |holding.shares.toRat| ≤ b + 2 * 10 ^ 15) changed ?_ (keyOf dated)
    intro key
    linarith [within.shares key]
  · have rounded := gains_toList_le dated.date profit
    rw [costs_insert]
    linarith [posting.abs_gain_add_cost_le calm, moderate.amount]

theorem gains_nonneg (realized : List Realized) : 0 ≤ gains realized :=
  List.sum_nonneg fun x member => by
    obtain ⟨one, _, rfl⟩ := List.mem_map.mp member
    exact abs_nonneg _

theorem Within.post {realized : Option Realized} (within : Within b book)
    (moderate : dated.line.Moderate least)
    (calm : Calm e (book.holding (keyOf dated)) dated.line.quantity dated.line.amount)
    (posted : book.post policy dated = .ok (next, realized)) : Within (b + 2 * 10 ^ 15) next := by
  obtain ⟨shares, sums⟩ := post_grows within moderate calm posted
  exact ⟨shares, by linarith [within.costs, gains_nonneg realized.toList]⟩

/-- The room that one more line takes. -/
theorem Within.succ {k : ℕ} (within : Within (2 * 10 ^ 15 * k + 2 * 10 ^ 15) book) :
    Within (2 * 10 ^ 15 * (k + 1 : ℕ)) book := by
  push_cast
  rwa [mul_add_one]

end Book

end TradeLedger
