import Mathlib.Algebra.Order.Group.Unbundled.Int
import Mathlib.Data.List.Perm.Basic
import Mathlib.Order.Bounds.Basic
import TradeLedger.Proofs.Decimal.Value
import TradeLedger.Tax.WashSale

/-! Which losses are wash sales. A position is named by its index in the list, so that a loss is never its own
repurchase while an identical twin of it may be. A loss is flagged once if some other position of the list is a
repurchase, with the first of them, and the flag repeats the loss. So what the flags say of the losses depends on
which positions there are and not on their order. -/
namespace TradeLedger.Tax

/-- What a flag says of the loss. -/
structure Loss where
  account : String
  symbol : String
  closed : Date
  pnl : Decimal
  strategy : String
  deriving DecidableEq

/-- The loss that a position would be, if its last day is known. -/
def Loss.ofGroup? (group : TradeGroup) : Option Loss :=
  group.closed.map fun closed => ⟨group.account, group.symbol, closed, group.pnl, group.strategy⟩

namespace WashSale

/-- The loss that is flagged. -/
def loss (flag : WashSale) : Loss := ⟨flag.account, flag.symbol, flag.lossClosed, flag.lossPnl, flag.lossStrategy⟩

/-- The other position was opened on the same symbol, in the same account and within the window around the
day on which this one was closed. -/
def Repurchases (window : Int) (loss other : TradeGroup) : Prop :=
  other.account = loss.account ∧ other.symbol = loss.symbol ∧
    ∃ closed opened, loss.closed = some closed ∧ other.opened = some opened ∧
      |opened.dayNumber - closed.dayNumber| ≤ window

/-- The position at an index is a loss, for which the one at another index is a repurchase. -/
def Washes (window : Int) (groups : List TradeGroup) (index place : Nat) : Prop :=
  ∃ loss other, groups[index]? = some loss ∧ groups[place]? = some other ∧ place ≠ index ∧
    loss.pnl.toRat < 0 ∧ Repurchases window loss other

/-- What a flag says of the loss and of the repurchase. -/
structure Pairs (flag : WashSale) (loss other : TradeGroup) : Prop where
  account : flag.account = loss.account
  symbol : flag.symbol = loss.symbol
  lossClosed : loss.closed = some flag.lossClosed
  lossPnl : flag.lossPnl = loss.pnl
  lossStrategy : flag.lossStrategy = loss.strategy
  repurchased : other.opened = some flag.repurchased
  repurchaseStrategy : flag.repurchaseStrategy = other.strategy
  daysBetween : flag.daysBetween = flag.repurchased.dayNumber - flag.lossClosed.dayNumber

/-- Some of these positions is a repurchase for the loss. -/
def isRepurchased (window : Int) (loss : TradeGroup) (others : List TradeGroup) : Bool :=
  loss.closed.any fun closed => others.any fun other => (pair? window loss closed other).isSome

/-- The position is a loss for which another position of the list is a repurchase. -/
def isWashed (window : Int) (groups : List TradeGroup) (loss : TradeGroup) : Bool :=
  loss.isLoser && isRepurchased window loss (groups.erase loss)

variable {window : Int} {groups shuffled : List TradeGroup} {group loss other : TradeGroup} {flag : WashSale}
  {index : Nat}

theorem pair_eq_some_iff {closed : Date} (known : loss.closed = some closed) :
    pair? window loss closed other = some flag ↔ Repurchases window loss other ∧ flag.Pairs loss other := by
  constructor
  · intro paired
    obtain ⟨opened, opens, paired⟩ := Option.bind_eq_some_iff.mp paired
    dsimp only at paired
    split at paired
    case isTrue met =>
      obtain ⟨account, symbol, within⟩ := met
      cases paired
      rw [← Int.abs_eq_natAbs] at within
      exact ⟨⟨account, symbol, closed, opened, known, opens, within⟩, ⟨rfl, rfl, known, rfl, rfl, opens, rfl, rfl⟩⟩
    case isFalse => cases paired
  · rintro ⟨⟨account, symbol, closed', opened, known', opens, within⟩, pairs⟩
    obtain rfl : closed = closed' := Option.some.inj (known.symm.trans known')
    rw [Int.abs_eq_natAbs] at within
    have sameClosed : closed = flag.lossClosed := Option.some.inj (known.symm.trans pairs.lossClosed)
    have sameOpened : opened = flag.repurchased := Option.some.inj (opens.symm.trans pairs.repurchased)
    have days : opened.daysSince closed = flag.daysBetween := by
      rw [pairs.daysBetween, Date.daysSince, sameClosed, sameOpened]
    refine Option.bind_eq_some_iff.mpr ⟨opened, opens, ?_⟩
    dsimp only
    rw [if_pos ⟨account, symbol, within⟩]
    obtain ⟨⟩ := flag
    simp only [Option.some.injEq, WashSale.mk.injEq]
    exact ⟨pairs.account.symm, pairs.symbol.symm, sameClosed, pairs.lossPnl.symm, pairs.lossStrategy.symm, sameOpened,
      pairs.repurchaseStrategy.symm, days⟩

/-- Every repurchase has its flag. -/
theorem exists_pairs (again : Repurchases window loss other) : ∃ flag : WashSale, flag.Pairs loss other := by
  obtain ⟨_, _, closed, opened, known, opens, _⟩ := again
  exact ⟨⟨loss.account, loss.symbol, closed, loss.pnl, loss.strategy, opened, other.strategy,
    opened.dayNumber - closed.dayNumber⟩, ⟨rfl, rfl, known, rfl, rfl, opens, rfl, rfl⟩⟩

/-- A search through the positions with their indices finds the first one that answers. -/
theorem findSome_zipIdx_eq_some_iff {answer : TradeGroup × Nat → Option WashSale} :
    groups.zipIdx.findSome? answer = some flag ↔ ∃ place other, groups[place]? = some other ∧
      answer (other, place) = some flag ∧ ∀ earlier < place, ∀ one, groups[earlier]? = some one →
        answer (one, earlier) = none := by
  have places : ∀ i, groups.zipIdx[i]? = groups[i]?.map fun one => (one, i) := fun i => by
    rw [List.getElem?_zipIdx, Nat.zero_add]
  rw [List.findSome?_eq_some_iff]
  constructor
  · rintro ⟨before, ⟨other, place⟩, after, split, answered, silent⟩
    have here := places before.length
    rw [split, List.getElem?_append_right (le_refl _), Nat.sub_self, List.getElem?_cons_zero, eq_comm,
      Option.map_eq_some_iff] at here
    obtain ⟨one, listed, same⟩ := here
    cases same
    refine ⟨before.length, other, listed, answered, fun earlier first one listed => silent _ ?_⟩
    have there := places earlier
    rw [split, List.getElem?_append_left first, listed] at there
    exact List.mem_of_getElem? there
  · rintro ⟨place, other, listed, answered, silent⟩
    have here := places place
    rw [listed, Option.map_some] at here
    obtain ⟨inside, found⟩ := List.getElem?_eq_some_iff.mp here
    refine ⟨groups.zipIdx.take place, (other, place), groups.zipIdx.drop (place + 1), ?_, answered, ?_⟩
    · rw [← found, List.cons_getElem_drop_succ, List.take_append_drop]
    · intro one taken
      obtain ⟨earlier, there⟩ := List.mem_iff_getElem?.mp taken
      rw [List.getElem?_take] at there
      split at there
      case isFalse => cases there
      case isTrue first =>
        rw [places, Option.map_eq_some_iff] at there
        obtain ⟨one, listed, rfl⟩ := there
        exact silent earlier first one listed

theorem washes_iff {place : Nat} (here : groups[index]? = some loss) (there : groups[place]? = some other) :
    Washes window groups index place ↔ place ≠ index ∧ loss.pnl.toRat < 0 ∧ Repurchases window loss other := by
  constructor
  · rintro ⟨loss', other', here', there', rest⟩
    cases here.symm.trans here'
    cases there.symm.trans there'
    exact rest
  · exact fun rest => ⟨loss, other, here, there, rest⟩

/-- What the search asks of the position at a place. -/
theorem answers_iff {closed : Date} {place : Nat} (known : loss.closed = some closed) :
    (if place = index then none else pair? window loss closed other) = some flag ↔
      place ≠ index ∧ Repurchases window loss other ∧ flag.Pairs loss other := by
  by_cases same : place = index
  · simp [same]
  · rw [if_neg same, pair_eq_some_iff known, and_iff_right same]

/-- A position is flagged with the first repurchase there is for it. -/
theorem flag_eq_some_iff (here : groups[index]? = some loss) :
    flag? window groups loss index = some flag ↔ ∃ place other, groups[place]? = some other ∧
      IsLeast {place | Washes window groups index place} place ∧ flag.Pairs loss other := by
  constructor
  · intro flagged
    obtain ⟨closed, known, flagged⟩ := Option.bind_eq_some_iff.mp flagged
    dsimp only at flagged
    split at flagged
    case isFalse => cases flagged
    case isTrue loses =>
      obtain ⟨place, other, there, answered, silent⟩ := findSome_zipIdx_eq_some_iff.mp flagged
      obtain ⟨elsewhere, again, pairs⟩ := (answers_iff known).mp answered
      have losing := TradeGroup.isLoser_iff.mp loses
      refine ⟨place, other, there, ⟨(washes_iff here there).mpr ⟨elsewhere, losing, again⟩, ?_⟩, pairs⟩
      -- A repurchase at an earlier place would have answered the search.
      intro earlier washes
      by_contra! first
      have ⟨_, one, _, listed, _⟩ := washes
      obtain ⟨apart, _, again⟩ := (washes_iff here listed).mp washes
      obtain ⟨flag, pairs⟩ := exists_pairs again
      cases ((answers_iff known).mpr ⟨apart, again, pairs⟩).symm.trans (silent earlier first one listed)
  · rintro ⟨place, other, there, ⟨washes, least⟩, pairs⟩
    obtain ⟨elsewhere, loses, again⟩ := (washes_iff here there).mp washes
    have known := pairs.lossClosed
    refine Option.bind_eq_some_iff.mpr ⟨_, known, ?_⟩
    dsimp only
    rw [if_pos (TradeGroup.isLoser_iff.mpr loses), findSome_zipIdx_eq_some_iff]
    refine ⟨place, other, there, (answers_iff known).mpr ⟨elsewhere, again, pairs⟩, fun earlier first one listed => ?_⟩
    by_contra found
    obtain ⟨flag, answered⟩ := Option.ne_none_iff_exists'.mp found
    obtain ⟨apart, again, _⟩ := (answers_iff known).mp answered
    have before := least ((washes_iff here listed).mpr ⟨apart, loses, again⟩)
    omega

/-- If there is any, it is flagged. -/
theorem exists_flag (here : groups[index]? = some loss) (washed : ∃ place, Washes window groups index place) :
    ∃ flag, flag? window groups loss index = some flag := by
  classical
  have ⟨_, other, _, there, _⟩ := Nat.find_spec washed
  obtain ⟨_, _, again⟩ := (washes_iff here there).mp (Nat.find_spec washed)
  obtain ⟨flag, pairs⟩ := exists_pairs again
  exact ⟨flag, (flag_eq_some_iff here).mpr
    ⟨_, other, there, ⟨Nat.find_spec washed, fun place washes => Nat.find_min' washed washes⟩, pairs⟩⟩

theorem Pairs.loss_eq (pairs : flag.Pairs group other) : Loss.ofGroup? group = some flag.loss := by
  rw [Loss.ofGroup?, pairs.lossClosed, WashSale.loss, pairs.account, pairs.symbol, pairs.lossPnl, pairs.lossStrategy]
  rfl

theorem loss_of_flag (here : groups[index]? = some group) (flagged : flag? window groups group index = some flag) :
    Loss.ofGroup? group = some flag.loss := by
  obtain ⟨_, _, _, _, pairs⟩ := (flag_eq_some_iff here).mp flagged
  exact pairs.loss_eq

/-- The other positions of a list are those at other places. -/
theorem mem_erase_iff (here : groups[index]? = some group) :
    other ∈ groups.erase group ↔ ∃ place ≠ index, groups[place]? = some other := by
  obtain ⟨inside, rfl⟩ := List.getElem?_eq_some_iff.mp here
  have both : (groups[index] :: groups.erase groups[index]).Perm (groups[index] :: groups.eraseIdx index) :=
    (List.perm_cons_erase (List.getElem_mem inside)).symm.trans (List.getElem_cons_eraseIdx_perm inside).symm
  rw [both.cons_inv.mem_iff, List.mem_eraseIdx_iff_getElem?]

theorem isWashed_iff : isWashed window groups loss = true ↔
    loss.pnl.toRat < 0 ∧ ∃ other ∈ groups.erase loss, Repurchases window loss other := by
  rw [isWashed, isRepurchased, Bool.and_eq_true, TradeGroup.isLoser_iff, Option.any_eq_true]
  refine and_congr_right fun _ => ?_
  constructor
  · rintro ⟨closed, known, again⟩
    obtain ⟨other, listed, paired⟩ := List.any_eq_true.mp again
    obtain ⟨flag, paired⟩ := Option.isSome_iff_exists.mp paired
    exact ⟨other, listed, ((pair_eq_some_iff known).mp paired).1⟩
  · rintro ⟨other, listed, again⟩
    obtain ⟨flag, pairs⟩ := exists_pairs again
    have paired := (pair_eq_some_iff pairs.lossClosed).mpr ⟨again, pairs⟩
    exact ⟨_, pairs.lossClosed, List.any_eq_true.mpr ⟨other, listed, by rw [paired]; rfl⟩⟩

theorem isSome_flag (window : Int) (here : groups[index]? = some group) :
    (flag? window groups group index).isSome = isWashed window groups group := by
  rw [Bool.eq_iff_iff, Option.isSome_iff_exists, isWashed_iff]
  simp only [mem_erase_iff here]
  constructor
  · rintro ⟨flag, flagged⟩
    obtain ⟨place, other, there, ⟨washes, _⟩, _⟩ := (flag_eq_some_iff here).mp flagged
    obtain ⟨elsewhere, loses, again⟩ := (washes_iff here there).mp washes
    exact ⟨loses, other, ⟨place, elsewhere, there⟩, again⟩
  · rintro ⟨loses, other, ⟨place, elsewhere, there⟩, again⟩
    exact exists_flag here ⟨place, (washes_iff here there).mpr ⟨elsewhere, loses, again⟩⟩

/-- A list whose images all exist is the list of the images that do. -/
theorem map_eq_filterMap {α β γ : Type} {f : α → β} {g : γ → Option β} {xs : List α} {ys : List γ}
    (same : xs.map (fun x => some (f x)) = ys.map g) : xs.map f = ys.filterMap g := by
  have known := congrArg (List.filterMap id) same
  rw [List.filterMap_map, List.filterMap_map] at known
  rw [← List.filterMap_eq_map]
  exact known

/-- The wash sales of a list of positions. -/
def washed (window : Int) (groups : List TradeGroup) : List TradeGroup := groups.filter (isWashed window groups)

/-- The flags repeat the wash sales, one for one. -/
theorem map_loss_detect (window : Int) (groups : List TradeGroup) :
    (detect window groups).map (fun flag => some flag.loss) = (washed window groups).map Loss.ofGroup? := by
  have each : ∀ one ∈ groups.zipIdx, (flag? window groups one.1 one.2).map (fun flag => some flag.loss) =
      (Option.guard (isWashed window groups) one.1).map Loss.ofGroup? := by
    rintro ⟨group, index⟩ listed
    have here := List.mk_mem_zipIdx_iff_getElem?.mp listed
    have same := isSome_flag window here
    cases flagged : flag? window groups group index with
    | none =>
      rw [flagged] at same
      simp [Option.guard, ← same]
    | some flag =>
      rw [flagged] at same
      simp [Option.guard, ← same, loss_of_flag here flagged]
  have withoutPlaces : ∀ of : TradeGroup → Option (Option Loss),
      (groups.zipIdx.filterMap fun one => of one.1) = groups.filterMap of := by
    intro of
    conv_rhs => rw [← List.zipIdx_map_fst 0 groups, List.filterMap_map]
    rfl
  calc (detect window groups).map (fun flag => some flag.loss)
      = groups.zipIdx.filterMap fun one => (flag? window groups one.1 one.2).map fun flag => some flag.loss :=
        List.map_filterMap
    _ = groups.zipIdx.filterMap fun one => (Option.guard (isWashed window groups) one.1).map Loss.ofGroup? :=
        List.filterMap_congr each
    _ = (groups.filterMap (Option.guard (isWashed window groups))).map Loss.ofGroup? := by
        rw [List.map_filterMap]
        exact withoutPlaces fun group => (Option.guard (isWashed window groups) group).map Loss.ofGroup?
    _ = (washed window groups).map Loss.ofGroup? := by rw [List.filterMap_eq_filter, washed]

/-- So do those of a year. -/
theorem map_loss_inYear (window : Int) (groups : List TradeGroup) (year : Int) :
    (inYear year (detect window groups)).map (fun flag => some flag.loss) =
      ((washed window groups).filter fun group => group.closed.map Date.year = some year).map Loss.ofGroup? := by
  let within (loss : Option Loss) : Bool := loss.any fun loss => loss.closed.year == year
  have flags := congrArg (List.filter within) (map_loss_detect window groups)
  rw [List.filter_map, List.filter_map] at flags
  have sameYear : (washed window groups).filter (within ∘ Loss.ofGroup?) =
      (washed window groups).filter fun group => group.closed.map Date.year = some year := by
    apply List.filter_congr
    intro group _
    cases known : group.closed <;> simp [within, Loss.ofGroup?, known, beq_eq_decide]
  rw [sameYear] at flags
  exact flags

/-- Which positions are wash sales does not depend on their order. -/
theorem washed_perm (window : Int) (same : groups.Perm shuffled) :
    (washed window groups).Perm (washed window shuffled) := by
  have alike : isWashed window groups = isWashed window shuffled := by
    funext group
    rw [Bool.eq_iff_iff, isWashed_iff, isWashed_iff]
    simp only [(same.erase group).mem_iff]
  rw [washed, washed, alike]
  exact same.filter _

/-- Nor does what their flags say of them. -/
theorem map_loss_inYear_perm (same : groups.Perm shuffled) (year : Int) :
    ((inYear year (detect window groups)).map WashSale.loss).Perm
      ((inYear year (detect window shuffled)).map WashSale.loss) := by
  rw [map_eq_filterMap (map_loss_inYear window groups year), map_eq_filterMap (map_loss_inYear window shuffled year)]
  exact ((washed_perm window same).filter _).filterMap _

end WashSale

end TradeLedger.Tax
