import TradeLedger.Proofs.Inventory.Run

/-! What every holding keeps along a run. Without shares nothing is left of the cost; where the
proceeds of unheld shares are profit, neither shares nor cost fall below zero; and where short
positions are tracked the cost stays above zero as long as no covering purchase rounds the product
that splits its cost. -/
namespace TradeLedger

open Decimal

namespace Holding

variable {policy : ShortSales} {before after : Holding} {quantity amount : Decimal} {action : Action}
  {profit : Option Decimal}

/-- The signs of shares and cost that hold under every rounding. -/
structure Sound (policy : ShortSales) (holding : Holding) : Prop where
  settled : holding.shares.toRat = 0 → holding.cost.toRat = 0
  owned : policy = .proceedsAsPnl → 0 ≤ holding.shares.toRat ∧ 0 ≤ holding.cost.toRat

theorem sound_flat : Sound policy flat :=
  ⟨fun _ => toRat_zero, fun _ => ⟨toRat_zero.ge, toRat_zero.ge⟩⟩

/-- A holding with shares on a side that the policy allows only has to keep its cost. -/
private theorem Sound.of_ne (held : after.shares.toRat ≠ 0)
    (owned : policy = .proceedsAsPnl → 0 ≤ after.shares.toRat ∧ 0 ≤ after.cost.toRat) : Sound policy after :=
  ⟨fun none => absurd none held, owned⟩

private theorem Sound.of_closed (shares : after.shares.toRat = 0) (cost : after.cost.toRat = 0) :
    Sound policy after :=
  ⟨fun _ => cost, fun _ => ⟨shares.ge, cost.ge⟩⟩

private theorem not_proceeds (tracked : policy = .trackInventory) : ¬policy = .proceedsAsPnl := by
  rw [tracked]
  intro other
  cases other

theorem Posting.sound (posting : Posting policy before quantity amount action after profit)
    (sound : before.Sound policy) : after.Sound policy := by
  cases posting with
  | idle => exact sound
  | bought traded covers shares cost =>
    have long : 0 ≤ before.shares.toRat := by
      cases policy with
      | proceedsAsPnl => exact (sound.owned rfl).1
      | trackInventory => exact covers rfl
    rw [← toRat_abs] at shares
    have owned := shares.pos_of_add (by rw [toRat_abs]; linarith)
    refine .of_ne owned.ne' fun untracked => ⟨owned.le, cost.nonneg ?_⟩
    have paid := (sound.owned untracked).2
    positivity
  | covered traded tracked owed part_eq average share left realized =>
    cases left with
    | short part shares owed rest cost => exact .of_ne owed.ne fun untracked => absurd untracked (not_proceeds tracked)
    | closed whole shares cost => exact .of_closed shares cost
    | turned beyond shares owned cost =>
      exact .of_ne owned.ne' fun untracked => absurd untracked (not_proceeds tracked)
  | sold sale traded owned part_eq enough average left realized =>
    cases left with
    | long part shares owned rest cost =>
      exact .of_ne owned.ne' fun _ => ⟨owned.le, by rw [cost]; exact le_max_right ..⟩
    | closed whole shares cost => exact .of_closed shares cost
  | soldThrough sale tracked owned part_eq beyond average share shares owed rest cost realized =>
    exact .of_ne owed.ne fun untracked => absurd untracked (not_proceeds tracked)
  | proceeds => exact sound
  | shorted sale traded tracked unowned shares owed cost =>
    exact .of_ne owed.ne fun untracked => absurd untracked (not_proceeds tracked)

/-- If the line covers a short position, the product that splits its cost between the shares it
covers and the others is exact. -/
def CoverUnrounded (holding : Holding) (line : LedgerLine) : Prop :=
  line.action = .buy → holding.shares.toRat < 0 →
    IsExact (line.amount.abs.mul (line.quantity.abs.min holding.shares.neg))
      (line.amount.abs.toRat * (line.quantity.abs.min holding.shares.neg).toRat)

instance (holding : Holding) (line : LedgerLine) : Decidable (holding.CoverUnrounded line) :=
  inferInstanceAs (Decidable (_ → _ → _))

/-- With that product exact, a purchase that turns a short position around pays no more for the
shares it covers than it pays at all. -/
theorem Posting.cost_nonneg {line : LedgerLine}
    (posting : Posting policy before line.quantity line.amount line.action after profit)
    (unrounded : before.CoverUnrounded line) (nonneg : 0 ≤ before.cost.toRat) : 0 ≤ after.cost.toRat := by
  generalize acted : line.action = action at posting
  cases posting with
  | idle => exact nonneg
  | bought traded covers shares cost => exact cost.nonneg (by positivity)
  | covered traded tracked owed part_eq average share left realized =>
    cases left with
    | short part shares owed rest cost => exact cost ▸ le_max_right ..
    | closed whole shares cost => exact cost.ge
    | turned beyond shares owned cost =>
      rw [part_eq] at share
      have few : (line.quantity.abs.min before.shares.neg).toRat ≤ line.quantity.abs.toRat := by
        rw [toRat_min]
        exact min_le_left ..
      have paid := prorate_le (by rwa [toRat_abs]) few (by rw [toRat_abs]; positivity) share
        (unrounded acted owed)
      rw [toRat_abs] at paid
      exact cost.nonneg (by linarith)
  | sold sale traded owned part_eq enough average left realized =>
    cases left with
    | long part shares owned rest cost => exact cost ▸ le_max_right ..
    | closed whole shares cost => exact cost.ge
  | soldThrough sale tracked owned part_eq beyond average share shares owed rest cost realized =>
    exact cost ▸ abs_nonneg _
  | proceeds => exact nonneg
  | shorted sale traded tracked unowned shares owed cost => exact cost.nonneg (by positivity)

end Holding

namespace Book

variable {policy : ShortSales} {lines : List LedgerLine} {posted : List DatedLine} {book : Book}
  {early : List Realized}

/-- No purchase of a run that covers a short position rounds the product that splits its cost. -/
def CoversUnrounded (policy : ShortSales) (posted : List DatedLine) : Prop :=
  Throughout policy (fun book dated => (book.holding (keyOf dated)).CoverUnrounded dated.line) ∅ posted

instance (policy : ShortSales) (posted : List DatedLine) : Decidable (CoversUnrounded policy posted) :=
  inferInstanceAs (Decidable (Throughout ..))

theorem postAll_sound (ran : postAll policy ∅ posted = .ok (book, early)) (key : HoldingKey) :
    (book.holding key).Sound policy := by
  have always : Throughout policy (fun _ _ => True) ∅ posted := Along.always ..
  refine always.keeps (motive := fun book => ∀ key, (book.holding key).Sound policy)
    (fun book dated next first sound _ post => ?_) (fun _ => Holding.sound_flat) ran key
  obtain ⟨after, profit, rfl, _, posting⟩ := post_posts post
  exact forall_holding_insert (posting.sound (sound _)) sound (keyOf dated)

theorem postAll_cost_nonneg (unrounded : CoversUnrounded policy posted)
    (ran : postAll policy ∅ posted = .ok (book, early)) (key : HoldingKey) :
    0 ≤ (book.holding key).cost.toRat := by
  refine unrounded.keeps (motive := fun book => ∀ key, 0 ≤ (book.holding key).cost.toRat)
    (fun book dated next first nonneg unrounded post => ?_) (fun _ => toRat_zero.ge) ran key
  obtain ⟨after, profit, rfl, _, posting⟩ := post_posts post
  have changed := posting.cost_nonneg unrounded (nonneg _)
  exact forall_holding_insert (P := fun holding => 0 ≤ holding.cost.toRat) changed nonneg (keyOf dated)

/-- Whatever lines a run has posted so far, every holding of the book keeps the invariant of the
inventory. -/
theorem run_keeps_inventory {final : Book} {realized : List Realized}
    (ran : run policy ∅ lines = .ok (final, realized)) (first : posted <+: equityByDate lines) :
    ∃ book early, postAll policy ∅ posted = .ok (book, early) ∧ ∀ key,
      ((book.holding key).shares.toRat = 0 → (book.holding key).cost.toRat = 0) ∧
      (policy = .proceedsAsPnl → 0 ≤ (book.holding key).shares.toRat ∧ 0 ≤ (book.holding key).cost.toRat) ∧
      (policy = .trackInventory → CoversUnrounded policy (equityByDate lines) →
        0 ≤ (book.holding key).cost.toRat) := by
  obtain ⟨book, early, begun⟩ := postAll_prefix first ran
  refine ⟨book, early, begun, fun key => ⟨?_, ?_, ?_⟩⟩
  · exact (postAll_sound begun key).settled
  · exact (postAll_sound begun key).owned
  · intro _ unrounded
    exact postAll_cost_nonneg (Along.of_prefix first unrounded) begun key

/-- Three shares sold short and five bought the day after: the purchase covers the three and keeps
two. -/
def turningLines : List LedgerLine :=
  [⟨"A", "X", "X", .equity, Date.ofDayNumber? 2, .buy, .ofUInt32 5, .ofUInt32 30⟩,
    ⟨"A", "X", "X", .equity, Date.ofDayNumber? 1, .sellShort, .ofUInt32 3, .ofUInt32 12⟩]

theorem turning_run_keeps_inventory :
    (∃ final realized, run .trackInventory ∅ turningLines = .ok (final, realized)) ∧
      CoversUnrounded .trackInventory (equityByDate turningLines) ∧
      ∃ book early, postAll .trackInventory ∅ (equityByDate turningLines) = .ok (book, early) ∧
        ∀ key, 0 ≤ (book.holding key).cost.toRat := by
  have unrounded : CoversUnrounded .trackInventory (equityByDate turningLines) := by decide +kernel
  obtain ⟨⟨final, realized⟩, ran⟩ := exists_of_isOk (show (run .trackInventory ∅ turningLines).isOk by
    decide +kernel)
  obtain ⟨book, early, posted, kept⟩ := run_keeps_inventory ran (List.prefix_refl _)
  exact ⟨⟨final, realized, ran⟩, unrounded, book, early, posted, fun key => (kept key).2.2 rfl unrounded⟩

end Book

end TradeLedger
