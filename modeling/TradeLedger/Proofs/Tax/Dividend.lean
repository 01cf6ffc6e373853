import TradeLedger.Proofs.Decimal.Congruence
import TradeLedger.Proofs.Decimal.Totals
import TradeLedger.Proofs.Inventory.Separation
import TradeLedger.Proofs.Ordered.Parts
import TradeLedger.Tax.Dividend

/-! Dividends by holding. Each account and symbol that pays has one row, which adds up its own lines and no
others. Rows are ordered by their totals and then by their holdings, so they are known from the lines
in any order. -/
namespace TradeLedger.Tax

open Decimal

/-- The latest of dates of which some may not be known. -/
def IsLatest (last : Option Date) (dates : List (Option Date)) : Prop :=
  last.elim (∀ date ∈ dates, date = none) fun last => some last ∈ dates ∧ ∀ date, some date ∈ dates → date ≤ last

namespace IsLatest

variable {last other : Option Date} {dates dates' : List (Option Date)}

theorem nil : IsLatest none [] := fun _ member => absurd member List.not_mem_nil

/-- With one more date, the later of the two is the latest. -/
theorem add (latest : IsLatest last dates) (date : Option Date) :
    IsLatest (DividendRow.later last date) (dates ++ [date]) := by
  cases last with
  | none =>
    have unknown : ∀ date ∈ dates, date = none := latest
    cases date with
    | none =>
      intro date member
      rcases List.mem_append.mp member with earlier | own
      · exact unknown date earlier
      · exact List.mem_singleton.mp own
    | some date =>
      refine ⟨by simp, fun probe member => ?_⟩
      rcases List.mem_append.mp member with earlier | own
      · cases unknown _ earlier
      · cases List.mem_singleton.mp own
        exact Int.le_refl _
  | some last =>
    obtain ⟨listed, latest⟩ := latest
    cases date with
    | none =>
      refine ⟨List.mem_append_left _ listed, fun probe member => latest probe ?_⟩
      simpa using member
    | some date =>
      rw [DividendRow.later]
      split
      case isTrue earlier =>
        refine ⟨List.mem_append_left _ listed, fun probe member => ?_⟩
        rcases List.mem_append.mp member with before | own
        · exact latest probe before
        · cases List.mem_singleton.mp own
          exact Int.le_of_lt earlier
      case isFalse later =>
        refine ⟨by simp, fun probe member => ?_⟩
        rcases List.mem_append.mp member with before | own
        · exact Int.le_trans (latest probe before) (Int.not_lt.mp later)
        · cases List.mem_singleton.mp own
          exact Int.le_refl _

/-- The latest date is known from the dates in any order. -/
theorem unique (left : IsLatest last dates) (right : IsLatest other dates') (same : dates.Perm dates') :
    last = other := by
  cases last with
  | none =>
    cases other with
    | none => rfl
    | some other => exact (left _ (same.mem_iff.mpr right.1)).symm
  | some last =>
    cases other with
    | none => exact right _ (same.mem_iff.mp left.1)
    | some other =>
      have below := right.2 last (same.mem_iff.mp left.1)
      have above := left.2 other (same.mem_iff.mpr right.1)
      exact congrArg some (Date.ext_dayNumber (Int.le_antisymm below above))

end IsLatest

namespace DividendRow

/-- The holding that a line pays for, by its symbol as it is written. -/
def keyOf (line : LedgerLine) : HoldingKey := ⟨line.account, line.symbol⟩

/-- The lines that pay for a holding. -/
def paidTo (key : HoldingKey) (lines : List LedgerLine) : List LedgerLine := lines.filter fun line => keyOf line = key

theorem paidTo_concat (key : HoldingKey) (lines : List LedgerLine) (line : LedgerLine) :
    paidTo key (lines ++ [line]) = if keyOf line = key then paidTo key lines ++ [line] else paidTo key lines := by
  rw [paidTo, List.filter_append, paidTo]
  by_cases own : keyOf line = key <;> simp [own]

/-- The holding of a row. -/
def key (row : DividendRow) : HoldingKey := ⟨row.account, row.symbol⟩

/-- The row of a holding before any payment. -/
def unpaid (key : HoldingKey) : DividendRow := ⟨key.account, key.symbol, .zero, 0, none⟩

/-- The row adds up the payments to a holding. -/
structure AddsUp (row : DividendRow) (key : HoldingKey) (lines : List LedgerLine) : Prop where
  holding : row.key = key
  total : row.total.toRat = ((paidTo key lines).map fun line => line.amount.toRat).sum
  count : row.count = (paidTo key lines).length
  lastDate : IsLatest row.lastDate ((paidTo key lines).map LedgerLine.date)

/-- The rows add up the lines: every holding that is paid has a row, and each row is that of its holding. -/
structure RowsAddUp (rows : OrderedMap HoldingKey DividendRow) (lines : List LedgerLine) : Prop where
  keys : ∀ key, key ∈ rows.keys ↔ ∃ line ∈ lines, keyOf line = key
  rows : ∀ key, (rows.getD key (unpaid key)).AddsUp key lines

theorem rowsAddUp_empty : RowsAddUp ∅ [] where
  keys key := by
    constructor
    · intro member
      cases member
    · rintro ⟨_, member, _⟩
      cases member
  rows key := ⟨rfl, toRat_zero, rfl, .nil⟩

/-- Adding the payment to the row of its holding is exact. -/
def LineExact (rows : OrderedMap HoldingKey DividendRow) (line : LedgerLine) : Prop :=
  (rows.getD (keyOf line) (unpaid (keyOf line))).total.AddsExactly line.amount

instance (rows : OrderedMap HoldingKey DividendRow) (line : LedgerLine) : Decidable (LineExact rows line) :=
  inferInstanceAs (Decidable (AddsExactly ..))

theorem add_exact {row : DividendRow} {line : LedgerLine} (unrounded : row.total.AddsExactly line.amount) :
    ∃ next, row.add line = .ok next ∧
      ∀ lines, row.AddsUp (keyOf line) lines → next.AddsUp (keyOf line) (lines ++ [line]) := by
  obtain ⟨total, added, value⟩ := unrounded
  refine ⟨_, by rw [add, added]; rfl, fun lines before => ?_⟩
  constructor
  · exact before.holding
  all_goals rw [paidTo_concat, if_pos rfl]
  · rw [value, before.total, List.map_append, List.sum_append, List.map_singleton, List.sum_singleton]
  · rw [before.count, List.length_append, List.length_singleton]
  · rw [List.map_append, List.map_singleton]
    exact before.lastDate.add line.date

theorem AddsUp.of_other {row : DividendRow} {key : HoldingKey} {lines : List LedgerLine} {line : LedgerLine}
    (before : row.AddsUp key lines) (other : keyOf line ≠ key) : row.AddsUp key (lines ++ [line]) := by
  obtain ⟨holding, total, count, lastDate⟩ := before
  constructor
  · exact holding
  all_goals rw [paidTo_concat, if_neg other]
  · exact total
  · exact count
  · exact lastDate

variable {rows : OrderedMap HoldingKey DividendRow} {lines others : List LedgerLine}

theorem addLine_exact {line : LedgerLine} (unrounded : LineExact rows line) :
    ∃ next, addLine rows line = .ok next ∧ ∀ lines, RowsAddUp rows lines → RowsAddUp next (lines ++ [line]) := by
  obtain ⟨row, added, addsUp⟩ := add_exact unrounded
  refine ⟨rows.insert (keyOf line) row, ?_, fun lines before => ⟨fun key => ?_, fun key => ?_⟩⟩
  · rw [addLine]
    change ((rows.getD (keyOf line) (unpaid (keyOf line))).add line >>= fun row =>
      pure (rows.insert (keyOf line) row)) = _
    rw [added]
    rfl
  · rw [OrderedMap.mem_keys_insert, before.keys]
    simp [or_comm, eq_comm, or_and_right, exists_or]
  · rw [OrderedMap.getD_insert]
    by_cases own : key = keyOf line
    · rw [if_pos own, own]
      exact addsUp lines (before.rows _)
    · rw [if_neg own]
      exact (before.rows key).of_other (Ne.symm own)

/-- No payment is rounded when it is added to its row. -/
def HoldingsExactly (lines : List LedgerLine) : Prop := Along addLine LineExact ∅ lines

instance (lines : List LedgerLine) : Decidable (HoldingsExactly lines) := Along.decidable _ _

theorem addLines_exact (unrounded : HoldingsExactly lines) :
    ∃ rows, lines.foldlM addLine ∅ = .ok rows ∧ RowsAddUp rows lines := by
  obtain ⟨rows, added, addsUp⟩ := unrounded.exists_foldlM
    (motive := fun rows lines final => ∀ earlier, RowsAddUp rows earlier → RowsAddUp final (earlier ++ lines))
    (fun rows earlier before => by rwa [List.append_nil])
    (fun rows line here => by
      obtain ⟨next, stepped, addsUp⟩ := addLine_exact here
      refine ⟨next, stepped, fun rest final later earlier before => ?_⟩
      rw [List.append_cons]
      exact later _ (addsUp earlier before))
  exact ⟨rows, added, addsUp [] rowsAddUp_empty⟩

/-- The payments that rows count for a holding. -/
def countFor (holding : HoldingKey) (list : List DividendRow) : ℕ :=
  (list.map fun row => if row.key = holding then row.count else 0).sum

/-- Rows come by their totals, the largest first, and by their holdings where totals are equal. -/
def Precedes (a b : DividendRow) : Prop :=
  b.total.toRat < a.total.toRat ∨ a.total.toRat = b.total.toRat ∧ compare a.key b.key = .lt

/-- A list of rows that adds up the lines: every holding that is paid has one row, each row is that of its
holding, and they are in order. -/
structure ListAddsUp (list : List DividendRow) (lines : List LedgerLine) : Prop where
  once : (list.map key).Nodup
  listed : ∀ holding, holding ∈ list.map key ↔ ∃ line ∈ lines, keyOf line = holding
  rows : ∀ row ∈ list, row.AddsUp row.key lines
  ordered : list.Pairwise Precedes

theorem RowsAddUp.of_mem_entries (addsUp : RowsAddUp rows lines) {entry : HoldingKey × DividendRow}
    (member : entry ∈ rows.entries) : entry.2.AddsUp entry.1 lines := by
  have row := addsUp.rows entry.1
  rwa [OrderedMap.getD, OrderedMap.get?_of_mem_entries member] at row

theorem RowsAddUp.map_key_values (addsUp : RowsAddUp rows lines) : rows.values.map key = rows.keys := by
  rw [OrderedMap.values, OrderedMap.keys, List.map_map]
  exact List.map_congr_left fun entry member => (addsUp.of_mem_entries member).holding

theorem ofLines_exact (unrounded : HoldingsExactly lines) :
    ∃ list, ofLines lines = .ok list ∧ ListAddsUp list lines := by
  obtain ⟨rows, added, addsUp⟩ := addLines_exact unrounded
  let rank (row : DividendRow) : ℚᵒᵈ := OrderDual.toDual row.total.toRat
  have sorted : ofLines lines = .ok (Ordered.sortBy (Ordered.byRank rank) rows.values) := by
    have byTotal : (fun a b : DividendRow => decide (b.total ≤ a.total)) = Ordered.byRank rank := by
      funext a b
      rw [Ordered.byRank, decide_eq_decide, le_iff]
      exact Iff.rfl
    rw [ofLines, added, ← byTotal]
    rfl
  have ascending : rows.values.Pairwise fun a b => compare a.key b.key = .lt := by
    have keys : (rows.values.map key).Pairwise fun a b => compare a b = .lt := by
      rw [addsUp.map_key_values]
      exact List.pairwise_map.mpr rows.ascending
    exact List.pairwise_map.mp keys
  refine ⟨_, sorted, ?_, fun holding => ?_, fun row member => ?_, ?_⟩
  · rw [((Ordered.sortBy_perm _ _).map key).nodup_iff, addsUp.map_key_values]
    exact OrderedMap.nodup_keys rows
  · rw [((Ordered.sortBy_perm _ _).map key).mem_iff, addsUp.map_key_values, addsUp.keys]
  · obtain ⟨entry, listed, rfl⟩ := List.mem_map.mp (Ordered.mem_sortBy.mp member)
    have row := addsUp.of_mem_entries listed
    rwa [row.holding]
  · exact (Ordered.pairwise_sortBy_of_pairwise rank ascending).imp fun {a b} order => order

namespace ListAddsUp

variable {list list' : List DividendRow}

/-- What each row sums over its own lines, all rows sum over all lines. -/
theorem sum_rows {M : Type} [AddCommMonoid M] (addsUp : ListAddsUp list lines) (f : DividendRow → M)
    (g : LedgerLine → M) (each : ∀ row ∈ list, f row = ((paidTo row.key lines).map g).sum) :
    (list.map f).sum = (lines.map g).sum := by
  have parts := sum_parts_of_nodup keyOf g addsUp.once fun line member => (addsUp.listed _).mpr ⟨line, member, rfl⟩
  rw [← parts, List.map_map]
  exact congrArg List.sum (List.map_congr_left each)

theorem sum_total (addsUp : ListAddsUp list lines) :
    (list.map fun row => row.total.toRat).sum = (lines.map fun line => line.amount.toRat).sum :=
  addsUp.sum_rows _ _ fun row member => (addsUp.rows row member).total

theorem sum_count (addsUp : ListAddsUp list lines) : (list.map DividendRow.count).sum = lines.length := by
  rw [addsUp.sum_rows _ (fun _ => 1) fun row member => by rw [(addsUp.rows row member).count]; simp]
  simp

theorem countFor_eq (addsUp : ListAddsUp list lines) (holding : HoldingKey) :
    countFor holding list = (paidTo holding lines).length := by
  have ones : ∀ lines : List LedgerLine,
      (lines.map fun line => if keyOf line = holding then 1 else 0).sum = (paidTo holding lines).length := by
    intro lines
    induction lines with
    | nil => rfl
    | cons line lines ih =>
      rw [List.map_cons, List.sum_cons, ih, paidTo, paidTo, List.filter_cons]
      by_cases own : keyOf line = holding <;> simp [own, add_comm]
  rw [countFor, ← ones]
  refine addsUp.sum_rows _ _ fun row member => ?_
  have own : ∀ line ∈ paidTo row.key lines,
      (if keyOf line = holding then 1 else 0) = if row.key = holding then 1 else 0 := by
    intro line paid
    rw [of_decide_eq_true (List.mem_filter.mp paid).2]
  rw [List.map_congr_left own, (addsUp.rows row member).count]
  split <;> simp

end ListAddsUp

/-- Rows that show the same numbers. -/
structure SameFigures (a b : DividendRow) : Prop where
  account : a.account = b.account
  symbol : a.symbol = b.symbol
  total : SameValue a.total b.total
  count : a.count = b.count
  lastDate : a.lastDate = b.lastDate

theorem AddsUp.same {a b : DividendRow} {holding : HoldingKey} (left : a.AddsUp holding lines)
    (right : b.AddsUp holding others) (same : lines.Perm others) : a.SameFigures b where
  account := congrArg HoldingKey.account (left.holding.trans right.holding.symm)
  symbol := congrArg HoldingKey.symbol (left.holding.trans right.holding.symm)
  total := left.total.trans ((((same.filter _).map _).sum_eq).trans right.total.symm)
  count := left.count.trans ((same.filter _).length_eq.trans right.count.symm)
  lastDate := left.lastDate.unique right.lastDate ((same.filter _).map _)

/-- What shows of a row. -/
def figures (row : DividendRow) : ℚ × HoldingKey × Nat × Option Date :=
  (row.total.toRat, row.key, row.count, row.lastDate)

theorem figures_eq_iff {a b : DividendRow} : a.figures = b.figures ↔ a.SameFigures b := by
  simp only [figures, key, Prod.mk.injEq, HoldingKey.mk.injEq]
  constructor
  · rintro ⟨total, ⟨account, symbol⟩, count, lastDate⟩
    exact ⟨account, symbol, total, count, lastDate⟩
  · rintro ⟨account, symbol, total, count, lastDate⟩
    exact ⟨total, ⟨account, symbol⟩, count, lastDate⟩

namespace ListAddsUp

variable {list list' : List DividendRow}

theorem mem_figures (left : ListAddsUp list lines) (right : ListAddsUp list' others) (same : lines.Perm others)
    {shown : ℚ × HoldingKey × Nat × Option Date} (member : shown ∈ list.map figures) : shown ∈ list'.map figures := by
  obtain ⟨row, listed, rfl⟩ := List.mem_map.mp member
  obtain ⟨line, pays, own⟩ := (left.listed row.key).mp (List.mem_map_of_mem listed)
  obtain ⟨row', listed', holding⟩ := List.mem_map.mp ((right.listed row.key).mpr ⟨line, same.mem_iff.mp pays, own⟩)
  have alike := (left.rows row listed).same (holding ▸ right.rows row' listed') same
  exact List.mem_map.mpr ⟨row', listed', (figures_eq_iff.mpr alike).symm⟩

/-- Lines in any order are added up to rows of the same figures, in the same order. -/
theorem same (left : ListAddsUp list lines) (right : ListAddsUp list' others) (same : lines.Perm others) :
    List.Forall₂ SameFigures list list' := by
  let before (x y : ℚ × HoldingKey × Nat × Option Date) : Prop := y.1 < x.1 ∨ x.1 = y.1 ∧ compare x.2.1 y.2.1 = .lt
  have irrefl : Std.Irrefl before := ⟨fun x less => by
    have self : compare x.2.1 x.2.1 = .eq := Std.ReflCmp.compare_self
    rcases less with less | ⟨_, less⟩
    · exact lt_irrefl _ less
    · rw [self] at less
      cases less⟩
  have antisymm : Std.Antisymm before := ⟨fun x y less more => by
    rcases less with less | ⟨level, less⟩ <;> rcases more with more | ⟨level', more⟩
    · exact absurd less more.not_gt
    · exact absurd less (level' ▸ lt_irrefl _)
    · exact absurd more (level ▸ lt_irrefl _)
    · rw [Std.OrientedCmp.gt_of_lt less] at more
      cases more⟩
  have equal : list.map figures = list'.map figures :=
    List.Pairwise.eq_of_mem_iff (r := before) (List.pairwise_map.mpr left.ordered) (List.pairwise_map.mpr right.ordered)
      fun {x} => ⟨left.mem_figures right same, right.mem_figures left same.symm⟩
  rw [← List.forall₂_eq_eq_eq, List.forall₂_map_left_iff, List.forall₂_map_right_iff] at equal
  exact equal.imp fun {a b} shown => figures_eq_iff.mp shown

end ListAddsUp

end DividendRow

end TradeLedger.Tax
