import Mathlib.Data.String.Basic
import Mathlib.Order.WithBot
import TradeLedger.Proofs.Inventory.Separation
import TradeLedger.Proofs.Series.Days
import TradeLedger.Proofs.Series.Overlay
import TradeLedger.Proofs.Store.Reading

/-! Dates written in other ways. A ledger line is of the day that its date writes, but the store lists the lines
by the text itself. Lines of one day come back as they were stored if their dates are written alike; otherwise the
one with the lower text comes first, even if it was stored last. Which of two trades comes first shows on a curve,
so dates may be respelled without a change to any curve if and only if the texts of each day compare among
themselves as they did before. -/
namespace TradeLedger.Store

/-- Where a cell is listed: nothing first, then texts by their characters. -/
def TextCell.rank : TextCell → WithBot String
  | none => ⊥
  | some text => text

theorem TextCell.isLE_compare {cell other : TextCell} : (compare cell other).isLE ↔ cell.rank ≤ other.rank := by
  cases cell with
  | none => cases other <;> simp [compare, rank]
  | some text =>
    cases other with
    | none => simp [compare, rank]
    | some text' =>
      simp only [rank, WithBot.coe_le_coe]
      change (compare text text').isLE ↔ text ≤ text'
      exact Ordering.isLE_iff_ne_gt.trans compare_le_iff_le

/-- Both cells write one day. -/
def SameDay (cell other : TextCell) : Prop := ∃ day, readDate cell = some day ∧ readDate other = some day

/-- The row with another cell for its date. -/
def LineRow.dated (row : LineRow) (cell : TextCell) : LineRow := { row with date := cell }

@[simp] theorem LineRow.date_dated (row : LineRow) (cell : TextCell) : (row.dated cell).date = cell := rfl

/-- The row with the same date in another spelling. -/
def LineRow.Respelled (row other : LineRow) : Prop :=
  other = row.dated other.date ∧ readDate other.date = readDate row.date

/-- The cells of each day compare among themselves as those that stand for them. -/
def AlikeOnEachDay (cells others : List TextCell) : Prop :=
  (cells.zip others).Pairwise fun pair other =>
    SameDay pair.1 other.1 → (compare pair.1 other.1).isLE = (compare pair.2 other.2).isLE

namespace LineRow

theorem Respelled.line_eq {row other : LineRow} (respelled : row.Respelled other) : other.line = row.line := by
  obtain ⟨same, day⟩ := respelled
  unfold readDate at day
  rw [same]
  simp only [dated, line, ImportedRow.toLine, day]

theorem Respelled.isReadable_iff {row other : LineRow} (respelled : row.Respelled other) :
    other.IsReadable ↔ row.IsReadable := by
  rw [respelled.1]
  rfl

end LineRow

namespace Database

/-- The curve of the stored lines, if they can be read. -/
def curve? (database : Database) (policy : ShortSales) (positions : List Position) (scope : Scope) (today : Date) :
    Option (Except Fault Curve) :=
  (database.tradeLines .all).toOption.map fun lines => Curve.reconstruct policy lines positions scope today

variable {database changed : Database}

theorem orderBy_date (rows : List LineRow) :
    orderBy (compareOn LineRow.date) rows = Ordered.sortBy (Ordered.byRank fun row => row.date.rank) rows := by
  unfold orderBy
  apply congrArg (Ordered.sortBy · rows)
  funext row other
  apply Bool.eq_iff_iff.mpr
  rw [Ordered.byRank, decide_eq_true_eq]
  exact TextCell.isLE_compare

theorem filter_orderBy (keep : LineRow → Bool) (rows : List LineRow) :
    (orderBy (compareOn LineRow.date) rows).filter keep = orderBy (compareOn LineRow.date) (rows.filter keep) := by
  rw [orderBy_date, orderBy_date, (Ordered.orders_byRank _).filter_sortBy]

/-- Rows are listed as they stand if and only if their dates ascend. -/
theorem orderBy_eq_self {rows : List LineRow} : orderBy (compareOn LineRow.date) rows = rows ↔
    rows.Pairwise fun row other => (compare row.date other.date).isLE := by
  simp only [TextCell.isLE_compare, orderBy_date]
  constructor
  · intro listed
    rw [← listed]
    exact Ordered.pairwise_sortBy _ rows
  · intro ascending
    rw [Ordered.sortBy_eq_insertionSort]
    exact ascending.insertionSort_eq

/-- Rows of one day keep the order in which they were stored if and only if their texts ascend. -/
theorem days_keep_order_iff (rows : List LineRow) :
    (∀ day : Date, (orderBy (compareOn LineRow.date) rows).filter (fun row => readDate row.date = some day) =
      rows.filter fun row => readDate row.date = some day) ↔
    rows.Pairwise fun row other => SameDay row.date other.date → (compare row.date other.date).isLE := by
  simp only [filter_orderBy, orderBy_eq_self, List.pairwise_filter, decide_eq_true_eq]
  constructor
  · intro days
    apply List.pairwise_iff_forall_sublist.mpr
    rintro row other both ⟨day, first, second⟩
    exact List.pairwise_iff_forall_sublist.mp (days day) both first second
  · exact fun ascending day => ascending.imp fun level first second => level ⟨day, first, second⟩

theorem curve?_of_unreadable (unreadable : ¬∀ row ∈ database.lines.rows, row.IsReadable) (policy : ShortSales)
    (positions : List Position) (scope : Scope) (today : Date) :
    database.curve? policy positions scope today = none := by
  cases answered : database.tradeLines .all with
  | error cause => simp [curve?, answered, Except.toOption]
  | ok lines => exact absurd (exists_tradeLines_iff.mp ⟨lines, answered⟩) unreadable

section Pairs

variable {pairs : List (LineRow × LineRow)} (respelled : ∀ pair ∈ pairs, pair.1.Respelled pair.2)
  (alike : pairs.Pairwise fun pair other => SameDay pair.1.date other.1.date →
    (compare pair.1.date other.1.date).isLE = (compare pair.2.date other.2.date).isLE)

include respelled alike

/-- Respelled rows have the same lines on each day if the texts of the day compare as they did. -/
theorem lines_respelled (day : Date) :
    ((orderBy (compareOn LineRow.date) (pairs.map Prod.fst)).map LineRow.line).filter
        (fun line => line.date = some day) =
      ((orderBy (compareOn LineRow.date) (pairs.map Prod.snd)).map LineRow.line).filter
        fun line => line.date = some day := by
  let onDay (row : LineRow) : Bool := readDate row.date = some day
  have days : pairs.filter (onDay ∘ Prod.snd) = pairs.filter (onDay ∘ Prod.fst) := by
    apply List.filter_congr
    intro pair member
    simp only [Function.comp_apply, onDay, (respelled pair member).2]
  obtain ⟨listed, perm, order, order'⟩ := @orderBy_pairs (pairs.filter (onDay ∘ Prod.fst)) (by
    apply List.pairwise_filter.mpr
    refine alike.imp fun level first second => level ⟨day, ?_, ?_⟩
    · simpa [onDay] using first
    · simpa [onDay] using second)
  have lines : listed.map (fun pair => pair.2.line) = listed.map fun pair => pair.1.line :=
    List.map_congr_left fun pair member =>
      (respelled pair (List.mem_of_mem_filter (perm.mem_iff.mp member))).line_eq
  rw [List.filter_map, List.filter_map]
  change ((orderBy _ (pairs.map Prod.fst)).filter onDay).map _ = ((orderBy _ (pairs.map Prod.snd)).filter onDay).map _
  rw [filter_orderBy, filter_orderBy, List.filter_map, List.filter_map, days, order, order', List.map_map, List.map_map]
  exact lines.symm

/-- The curves are the same if the texts of each day compare as they did. -/
theorem curve_respelled (rows : database.lines.rows = pairs.map Prod.fst)
    (rows' : changed.lines.rows = pairs.map Prod.snd) (policy : ShortSales) (positions : List Position)
    (scope : Scope) (today : Date) :
    database.curve? policy positions scope today = changed.curve? policy positions scope today := by
  have readable_iff : (∀ row ∈ changed.lines.rows, row.IsReadable) ↔
      ∀ row ∈ database.lines.rows, row.IsReadable := by
    rw [rows, rows', List.forall_mem_map, List.forall_mem_map]
    exact forall₂_congr fun pair member => (respelled pair member).isReadable_iff
  by_cases readable : ∀ row ∈ database.lines.rows, row.IsReadable
  · have days := lines_respelled respelled alike
    rw [← rows, ← rows'] at days
    rw [curve?, curve?, tradeLines_of_readable readable, tradeLines_of_readable (readable_iff.mpr readable)]
    exact congrArg some (Curve.reconstruct_congr policy positions scope today days)
  · rw [curve?_of_unreadable readable, curve?_of_unreadable (mt readable_iff.mp readable)]

end Pairs

end Database

/-! ## Two trades among other rows -/

namespace TwoTrades

open Database

/-- A purchase of one share for 10. -/
def bought : LineRow :=
  ⟨some "A", some "X", none, some "equity", none, some "buy", .real (.ofInt 1), .real (.ofInt (-10))⟩

/-- The sale of the share for 15. -/
def sold : LineRow :=
  ⟨some "A", some "X", none, some "equity", none, some "sell", .real (.ofInt 1), .real (.ofInt 15)⟩

/-- The line is about shares that change hands. -/
structure IsTrade (line : LedgerLine) : Prop where
  equity : line.instrument = .equity
  quantity : line.quantity.isZero = false

instance (line : LedgerLine) : Decidable (IsTrade line) :=
  decidable_of_iff (_ ∧ _) ⟨fun both => ⟨both.1, both.2⟩, fun trade => ⟨trade.equity, trade.quantity⟩⟩

/-- The line on another day. -/
def onDay (line : LedgerLine) (day : Date) : LedgerLine := { line with date := some day }

theorem line_dated {row : LineRow} {cell : TextCell} {day : Date} (written : readDate cell = some day) :
    (row.dated cell).line = onDay row.line day := by
  unfold readDate at written
  simp only [LineRow.dated, LineRow.line, ImportedRow.toLine, onDay, written]

section Trades

variable {policy : ShortSales} {x y : LedgerLine} {day : Date} {held after : Holding} {pnl : Decimal}
  {early late : Option Decimal}

theorem addLine_of_trade (days : DailyFlows) (trade : IsTrade x) :
    days.addLine (onDay x day) = .ok (days.insert day (days.on day)) := by
  have moves : ¬((onDay x day).instrument = .equity ∧ (onDay x day).quantity.isZero = true) := by
    simp [onDay, trade.quantity]
  have cash : (days.on day).addCash (onDay x day) = .ok (days.on day) := Flows.addCash_equity trade.equity _
  change (if _ ∧ _ then _ else _ : Except Fault DailyFlows) = _
  rw [if_neg moves, cash]
  rfl

theorem equityByDate_of_trades (first : IsTrade x) (second : IsTrade y) :
    equityByDate [onDay x day, onDay y day] = [⟨day, onDay x day⟩, ⟨day, onDay y day⟩] := by
  have level : day ≤ day := Int.le_refl _
  simp [equityByDate, DatedLine.ofEquity?, onDay, first.equity, second.equity, Ordered.sortBy, Ordered.insertBy, level]

theorem postAll_of_trades (first : Holding.flat.apply policy x.action x.quantity x.amount = .ok (held, early))
    (second : held.apply policy y.action y.quantity y.amount = .ok (after, late)) :
    Holding.postAll policy .flat [⟨day, onDay x day⟩, ⟨day, onDay y day⟩] =
      .ok (after, (early.toList ++ late.toList).map (⟨day, ·⟩)) := by
  have one : Holding.flat.post policy ⟨day, onDay x day⟩ = .ok (held, early.map (⟨day, ·⟩)) := by
    simp only [Holding.post, onDay, first, ok_bind]
    rfl
  have two : held.post policy ⟨day, onDay y day⟩ = .ok (after, late.map (⟨day, ·⟩)) := by
    simp only [Holding.post, onDay, second, ok_bind]
    rfl
  refine Holding.postAll_cons.mpr ⟨held, _, _, one, Holding.postAll_cons.mpr ⟨after, _, _, two, rfl, rfl⟩, ?_⟩
  cases early <;> cases late <;> rfl

theorem addLines_of_trades (first : IsTrade x) (second : IsTrade y) :
    [onDay x day, onDay y day].foldlM DailyFlows.addLine ∅ = .ok (OrderedMap.insert ∅ day Flows.zero) := by
  simp only [List.foldlM_cons, addLine_of_trade _ first, addLine_of_trade _ second, ok_bind, List.foldlM_nil,
    DailyFlows.on, OrderedMap.getD_insert, if_pos, OrderedMap.insert_insert_self]
  rfl

theorem realizedByDate_of_trades (first : IsTrade x) (second : IsTrade y)
    (keys : HoldingKey.ofLine y = HoldingKey.ofLine x)
    (ran : Holding.postAll policy .flat [⟨day, onDay x day⟩, ⟨day, onDay y day⟩] = .ok (after, [⟨day, pnl⟩]))
    (sum : Decimal.zero.add pnl = .ok pnl) :
    realizedByDate policy [onDay x day, onDay y day] = .ok (OrderedMap.insert ∅ day pnl) := by
  have own : ∀ dated ∈ [⟨day, onDay x day⟩, ⟨day, onDay y day⟩],
      Book.keyOf dated = HoldingKey.ofLine (onDay x day) := by
    simpa [Book.keyOf] using show HoldingKey.ofLine (onDay y day) = HoldingKey.ofLine (onDay x day) from keys
  have alone : ∃ book, Book.postAll policy ∅ [⟨day, onDay x day⟩, ⟨day, onDay y day⟩] = .ok (book, [⟨day, pnl⟩]) :=
    (Book.postAll_alone own).mpr ⟨after, ran⟩
  obtain ⟨book, posted⟩ := alone
  rw [realizedByDate, Book.run, equityByDate_of_trades first second, posted, ok_bind]
  change ((Decimal.zero.add pnl >>= fun sum => pure (OrderedMap.insert ∅ day sum)) >>= pure) = _
  rw [sum]
  rfl

theorem addEquity_of_trades (sum : Decimal.zero.add pnl = .ok pnl) :
    DailyFlows.addEquity (OrderedMap.insert ∅ day Flows.zero) (day, pnl) =
      .ok (OrderedMap.insert ∅ day { Flows.zero with equity := pnl }) := by
  have nothing : DailyFlows.on (OrderedMap.insert ∅ day Flows.zero) day = .zero := by
    simp [DailyFlows.on, OrderedMap.getD_insert]
  simp only [DailyFlows.addEquity, nothing]
  change (Decimal.zero.add pnl >>= fun sum => _) = _
  rw [sum, ok_bind, OrderedMap.insert_insert_self]
  rfl

/-- The flows of a day with two trades of a holding that realize one profit. -/
theorem ofLines_of_trades (first : IsTrade x) (second : IsTrade y) (keys : HoldingKey.ofLine y = HoldingKey.ofLine x)
    (ran : Holding.postAll policy .flat [⟨day, onDay x day⟩, ⟨day, onDay y day⟩] = .ok (after, [⟨day, pnl⟩]))
    (sum : Decimal.zero.add pnl = .ok pnl) :
    DailyFlows.ofLines policy [onDay x day, onDay y day] =
      .ok (OrderedMap.insert ∅ day { Flows.zero with equity := pnl }) := by
  rw [DailyFlows.ofLines, addLines_of_trades first second, ok_bind,
    realizedByDate_of_trades first second keys ran sum, ok_bind]
  change (DailyFlows.addEquity _ (day, pnl) >>= pure) = _
  rw [addEquity_of_trades sum]
  rfl

/-- A profit that is the same when it is added to nothing and rounded to cents. -/
structure IsPlain (pnl : Decimal) : Prop where
  sum : Decimal.zero.add pnl = .ok pnl
  added : Flows.zero.add { Flows.zero with equity := pnl } = .ok { Flows.zero with equity := pnl }
  summed : Flows.total { Flows.zero with equity := pnl } = .ok pnl
  cents : pnl.roundCents = pnl

/-- The curve has the profit as its equity. -/
theorem equity_of_trades (first : IsTrade x) (second : IsTrade y) (keys : HoldingKey.ofLine y = HoldingKey.ofLine x)
    (one : Holding.flat.apply policy x.action x.quantity x.amount = .ok (held, early))
    (two : held.apply policy y.action y.quantity y.amount = .ok (after, late))
    (realized : early.toList ++ late.toList = [pnl]) (plain : IsPlain pnl) (day : Date) :
    (DailyFlows.ofLines policy [onDay x day, onDay y day] >>= fun days => Curve.accumulate .zero days.entries).map
      (·.map CurvePoint.equity) = .ok [pnl] := by
  have ran := @postAll_of_trades policy x y day held after early late one two
  rw [realized] at ran
  have entries : (OrderedMap.insert ∅ day { Flows.zero with equity := pnl }).entries =
      [(day, { Flows.zero with equity := pnl })] := rfl
  rw [ofLines_of_trades first second keys ran plain.sum, ok_bind, entries]
  simp only [Curve.accumulate, Curve.point, plain.added, plain.summed, ok_bind, plain.cents]
  rfl

/-- Sold after the purchase, the share brings what it has gained; sold before, all that is paid for it. -/
theorem equity_of_orders (day : Date) :
    (DailyFlows.ofLines .proceedsAsPnl [onDay bought.line day, onDay sold.line day] >>= fun days =>
        Curve.accumulate .zero days.entries).map (·.map CurvePoint.equity) = .ok [.ofUInt32 5] ∧
      (DailyFlows.ofLines .proceedsAsPnl [onDay sold.line day, onDay bought.line day] >>= fun days =>
        Curve.accumulate .zero days.entries).map (·.map CurvePoint.equity) = .ok [.ofUInt32 15] := by
  have purchase : IsTrade bought.line := by decide +kernel
  have sale : IsTrade sold.line := by decide +kernel
  have keys : HoldingKey.ofLine sold.line = HoldingKey.ofLine bought.line := by decide +kernel
  have buys : Holding.flat.apply .proceedsAsPnl bought.line.action bought.line.quantity bought.line.amount =
      .ok (⟨.ofUInt32 1, .ofUInt32 10⟩, none) := by decide +kernel
  constructor
  · have sells : Holding.apply .proceedsAsPnl ⟨.ofUInt32 1, .ofUInt32 10⟩ sold.line.action sold.line.quantity
        sold.line.amount = .ok (.flat, some (.ofUInt32 5)) := by decide +kernel
    exact equity_of_trades purchase sale keys buys sells rfl ⟨by decide, by decide, by decide, by decide⟩ day
  · have sells : Holding.flat.apply .proceedsAsPnl sold.line.action sold.line.quantity sold.line.amount =
        .ok (.flat, some (.ofUInt32 15)) := by decide +kernel
    exact equity_of_trades sale purchase keys.symm sells buys rfl ⟨by decide, by decide, by decide, by decide⟩ day

end Trades

section Tables

variable {α : Type} {front middle back : List α} {first second : α} {cellOf : α → TextCell} {day : Date}

/-- The purchase and the sale, each at some mark, among rows without anything else. -/
def tradesAmong (front : List α) (first : α) (middle : List α) (second : α) (back : List α) : List (LineRow × α) :=
  front.map (LineRow.blank, ·) ++ (bought, first) :: (middle.map (LineRow.blank, ·) ++ (sold, second) ::
    back.map (LineRow.blank, ·))

/-- The rows with a date for each mark. -/
def datedRows (cellOf : α → TextCell) (marked : List (LineRow × α)) : List LineRow :=
  marked.map fun mark => mark.1.dated (cellOf mark.2)

theorem map_date_datedRows (cellOf : α → TextCell) (marked : List (LineRow × α)) :
    (datedRows cellOf marked).map LineRow.date = (marked.map Prod.snd).map cellOf := by
  simp [datedRows]

theorem map_snd_tradesAmong :
    (tradesAmong front first middle second back).map Prod.snd = front ++ first :: (middle ++ second :: back) := by
  simp [tradesAmong, Function.comp_def]

theorem forall_mem_tradesAmong {holds : LineRow × α → Prop} (blank : ∀ mark, holds (.blank, mark))
    (trades : holds (bought, first) ∧ holds (sold, second)) :
    ∀ mark ∈ tradesAmong front first middle second back, holds mark := by
  simp [tradesAmong, or_imp, forall_and, blank, trades]

theorem datedRows_readable :
    ∀ row ∈ datedRows cellOf (tradesAmong front first middle second back), row.IsReadable := by
  rw [datedRows, List.forall_mem_map]
  exact forall_mem_tradesAmong (fun _ => ⟨rfl, rfl⟩) ⟨⟨rfl, rfl⟩, rfl, rfl⟩

/-- Whether the line of a row is in the account of the trades. -/
def inAccount (row : LineRow) : Bool := (Scope.account "A").contains row.line.account row.line.symbol

theorem datedRows_inAccount : (datedRows cellOf (tradesAmong front first middle second back)).filter inAccount =
    [bought.dated (cellOf first), sold.dated (cellOf second)] := by
  have blank : ∀ cell, inAccount (LineRow.blank.dated cell) = false := fun _ => rfl
  have trade : ∀ cell, inAccount (bought.dated cell) = true ∧ inAccount (sold.dated cell) = true :=
    fun _ => ⟨rfl, rfl⟩
  simp [datedRows, tradesAmong, List.filter_map, Function.comp_def, blank, trade]

/-- The sale realizes the less if it comes after the purchase. -/
theorem curve_of_trades (level : readDate (cellOf first) = some day) (level' : readDate (cellOf second) = some day) :
    ((ofLineRows (datedRows cellOf (tradesAmong front first middle second back))).curve?
        .proceedsAsPnl [] (.account "A") day).map (·.map (·.map CurvePoint.equity)) =
      some (.ok [if (compare (cellOf first) (cellOf second)).isLE then .ofUInt32 5 else .ofUInt32 15]) := by
  have listed : Curve.linesIn (.account "A") ((orderBy (compareOn LineRow.date)
      (datedRows cellOf (tradesAmong front first middle second back))).map LineRow.line) =
      (orderBy (compareOn LineRow.date) [bought.dated (cellOf first), sold.dated (cellOf second)]).map
        LineRow.line := by
    rw [Curve.linesIn, List.filter_map]
    change ((orderBy _ _).filter inAccount).map _ = _
    rw [filter_orderBy, datedRows_inAccount]
  rw [curve?, tradeLines_of_readable (by rw [rows_ofLineRows]; exact datedRows_readable), rows_ofLineRows]
  change some ((Curve.reconstruct ..).map _) = _
  rw [Curve.reconstruct_nil, Curve.realized, listed]
  by_cases ordered : (compare (cellOf first) (cellOf second)).isLE
  · have order : orderBy (compareOn LineRow.date) [bought.dated (cellOf first), sold.dated (cellOf second)] =
        [bought.dated (cellOf first), sold.dated (cellOf second)] := if_pos ordered
    rw [if_pos ordered, order, List.map_cons, List.map_singleton, line_dated level, line_dated level']
    exact congrArg some (equity_of_orders day).1
  · have order : orderBy (compareOn LineRow.date) [bought.dated (cellOf first), sold.dated (cellOf second)] =
        [sold.dated (cellOf second), bought.dated (cellOf first)] := if_neg ordered
    rw [if_neg ordered, order, List.map_cons, List.map_singleton, line_dated level, line_dated level']
    exact congrArg some (equity_of_orders day).2

end Tables

end TwoTrades

namespace Database

open TwoTrades

/-- Where two cells of a day compare otherwise than before, a purchase and a sale with these dates show it. -/
theorem alike_of_curves {cells others : List TextCell} (days : others.map readDate = cells.map readDate)
    (same : ∀ database changed : Database, database.lines.rows.map LineRow.date = cells →
      changed.lines.rows.map LineRow.date = others →
      List.Forall₂ LineRow.Respelled database.lines.rows changed.lines.rows → ∀ policy positions scope today,
        database.curve? policy positions scope today = changed.curve? policy positions scope today) :
    AlikeOnEachDay cells others := by
  have length : cells.length = others.length := by simpa using (congrArg List.length days).symm
  have respelled : ∀ pair ∈ cells.zip others, readDate pair.2 = readDate pair.1 := by
    apply List.map_inj_left.mp
    calc (cells.zip others).map (readDate ∘ Prod.snd)
        = others.map readDate := by rw [← List.map_map, List.map_snd_zip length.ge]
      _ = (cells.zip others).map (readDate ∘ Prod.fst) := by rw [days, ← List.map_map, List.map_fst_zip length.le]
  apply List.pairwise_iff_forall_sublist.mpr
  rintro pair other both ⟨day, first, second⟩
  have first' := (respelled pair (both.subset (by simp))).trans first
  have second' := (respelled other (both.subset (by simp))).trans second
  obtain ⟨_, _, zipped, ahead, behind⟩ := List.cons_sublist_iff.mp both
  obtain ⟨front, between, rfl⟩ := List.append_of_mem ahead
  obtain ⟨between', back, rfl⟩ := List.append_of_mem (List.singleton_sublist.mp behind)
  let marked := tradesAmong front pair (between ++ between') other back
  have marks : marked.map Prod.snd = cells.zip others := by simp [marked, map_snd_tradesAmong, zipped]
  have rows : List.Forall₂ LineRow.Respelled (datedRows Prod.fst marked) (datedRows Prod.snd marked) := by
    unfold datedRows
    rw [List.forall₂_map_left_iff, List.forall₂_map_right_iff, List.forall₂_same]
    intro mark member
    exact ⟨rfl, respelled mark.2 (marks ▸ List.mem_map_of_mem member)⟩
  have curves := same (ofLineRows (datedRows Prod.fst marked)) (ofLineRows (datedRows Prod.snd marked))
    (by rw [rows_ofLineRows, map_date_datedRows, marks, List.map_fst_zip length.le])
    (by rw [rows_ofLineRows, map_date_datedRows, marks, List.map_snd_zip length.ge])
    (by simpa using rows) .proceedsAsPnl [] (.account "A") day
  have equity := congrArg (Option.map (Except.map (List.map CurvePoint.equity))) curves
  rw [curve_of_trades first second, curve_of_trades first' second'] at equity
  have told : ∀ ahead ahead' : Bool, (if ahead then Decimal.ofUInt32 5 else .ofUInt32 15) =
      (if ahead' then .ofUInt32 5 else .ofUInt32 15) → ahead = ahead' := by decide
  exact told _ _ (by simpa using equity)

/-- What shows of the way in which the dates of some rows are written. Rows of one day keep the order in which they
were stored if and only if their texts ascend. If the dates are respelled, every table with these dates keeps its
curves if and only if the texts of each day compare among themselves as they did. -/
theorem curves_respelled_iff (rows : List LineRow) (others : List TextCell)
    (days : others.map readDate = rows.map fun row => readDate row.date) :
    ((∀ day : Date, (orderBy (compareOn LineRow.date) rows).filter (fun row => readDate row.date = some day) =
        rows.filter fun row => readDate row.date = some day) ↔
      rows.Pairwise fun row other => SameDay row.date other.date → (compare row.date other.date).isLE) ∧
    ((∀ database changed : Database, database.lines.rows.map LineRow.date = rows.map LineRow.date →
        changed.lines.rows.map LineRow.date = others →
        List.Forall₂ LineRow.Respelled database.lines.rows changed.lines.rows →
        ∀ policy positions scope today,
          database.curve? policy positions scope today = changed.curve? policy positions scope today) ↔
      AlikeOnEachDay (rows.map LineRow.date) others) := by
  have cells : others.map readDate = (rows.map LineRow.date).map readDate := by rw [days, List.map_map]; rfl
  refine ⟨days_keep_order_iff rows, alike_of_curves cells, fun alike => ?_⟩
  rintro database changed dates rfl respelled
  obtain ⟨length, each⟩ := List.forall₂_iff_zip.mp respelled
  rw [← dates, AlikeOnEachDay, List.zip_map, List.pairwise_map] at alike
  exact curve_respelled (fun pair member => each member) alike (List.map_fst_zip length.le).symm
    (List.map_snd_zip length.ge).symm

/-- With the sale of the day dated in another layout the curve shows all that was paid as profit. -/
theorem slashes_hide_the_cost :
    LineRow.Respelled (sold.dated (some "2024-01-02")) (sold.dated (some "01/02/2024")) ∧
      ((ofLineRows [bought.dated (some "2024-01-02"), sold.dated (some "2024-01-02")]).curve?
        .proceedsAsPnl [] .all ⟨9, by decide, by decide⟩).map (·.map Curve.total) = some (.ok (.ofUInt32 5)) ∧
      ((ofLineRows [bought.dated (some "2024-01-02"), sold.dated (some "01/02/2024")]).curve?
        .proceedsAsPnl [] .all ⟨9, by decide, by decide⟩).map (·.map Curve.total) = some (.ok (.ofUInt32 15)) := by
  exact ⟨⟨rfl, by decide +kernel⟩, by decide +kernel, by decide +kernel⟩

/-- A time of day after the date of the sale leaves it where it was. -/
theorem time_of_day_keeps_curves : readDate (some "2024-01-02 15:30") = readDate (some "2024-01-02") ∧
    ∀ policy positions scope today,
      (ofLineRows [bought.dated (some "2024-01-02"), sold.dated (some "2024-01-02")]).curve?
          policy positions scope today =
        (ofLineRows [bought.dated (some "2024-01-02"), sold.dated (some "2024-01-02 15:30")]).curve?
          policy positions scope today := by
  have level : readDate (some "2024-01-02 15:30") = readDate (some "2024-01-02") := by decide +kernel
  refine ⟨level, (curves_respelled_iff [bought.dated (some "2024-01-02"), sold.dated (some "2024-01-02")]
    [some "2024-01-02", some "2024-01-02 15:30"] (by simp [level])).2.mpr ?_ _ _ ?_ ?_ ?_⟩
  · have alike : (compare (some "2024-01-02") (some "2024-01-02")).isLE =
        (compare (some "2024-01-02") (some "2024-01-02 15:30")).isLE := by decide +kernel
    simpa [AlikeOnEachDay] using fun _ => alike
  · simp
  · simp
  · simp [LineRow.Respelled, LineRow.dated, level]

end Database

end TradeLedger.Store
