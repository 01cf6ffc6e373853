import Mathlib.Data.List.NodupEquivFin
import TradeLedger.Proofs.Tax.WashSale

/-! Which repurchase a flag names, and how flags grow. A wider window or further positions in the list may change
the repurchase that comes first, but they never clear a loss. -/
namespace TradeLedger.Tax.WashSale

/-- The flags of a list, each with the index of its loss. -/
def marks (window : Int) (groups : List TradeGroup) : List (Nat × WashSale) :=
  groups.zipIdx.filterMap fun (loss, index) => (flag? window groups loss index).map fun flag => (index, flag)

variable {window wider : Int} {groups larger : List TradeGroup} {loss other : TradeGroup} {flag : WashSale}
  {index : Nat}

theorem mem_marks_iff : (index, flag) ∈ marks window groups ↔
    ∃ loss, groups[index]? = some loss ∧ flag? window groups loss index = some flag := by
  rw [marks, List.mem_filterMap]
  constructor
  · rintro ⟨⟨loss, place⟩, listed, flagged⟩
    obtain ⟨_, flagged, same⟩ := Option.map_eq_some_iff.mp flagged
    cases same
    exact ⟨loss, List.mk_mem_zipIdx_iff_getElem?.mp listed, flagged⟩
  · rintro ⟨loss, here, flagged⟩
    exact ⟨(loss, index), List.mk_mem_zipIdx_iff_getElem?.mpr here, by simp [flagged]⟩

theorem map_snd_marks (window : Int) (groups : List TradeGroup) :
    (marks window groups).map Prod.snd = detect window groups := by
  rw [marks, detect, List.map_filterMap]
  simp only [Option.map_map, Function.comp_def, Option.map_id']

/-- The indices ascend. -/
theorem marks_ascending (window : Int) (groups : List TradeGroup) :
    ((marks window groups).map Prod.fst).Pairwise (· < ·) := by
  have places : (groups.zipIdx.map Prod.snd).Pairwise (· < ·) := by
    rw [List.zipIdx_map_snd]
    exact List.pairwise_lt_range'
  rw [List.pairwise_map] at places ⊢
  refine places.filterMap _ fun one next before flag marked flag' marked' => ?_
  obtain ⟨_, _, rfl⟩ := Option.map_eq_some_iff.mp marked
  obtain ⟨_, _, rfl⟩ := Option.map_eq_some_iff.mp marked'
  exact before

/-- A loss is marked if there is any repurchase for it. -/
theorem mem_map_marks_iff :
    index ∈ (marks window groups).map Prod.fst ↔ ∃ place, Washes window groups index place := by
  constructor
  · intro marked
    obtain ⟨⟨index, flag⟩, listed, rfl⟩ := List.mem_map.mp marked
    obtain ⟨loss, here, flagged⟩ := mem_marks_iff.mp listed
    obtain ⟨place, _, _, ⟨washes, _⟩, _⟩ := (flag_eq_some_iff here).mp flagged
    exact ⟨place, washes⟩
  · intro washed
    have ⟨_, loss, _, here, _⟩ := washed
    obtain ⟨flag, flagged⟩ := exists_flag here washed
    exact List.mem_map.mpr ⟨(index, flag), mem_marks_iff.mpr ⟨loss, here, flagged⟩, rfl⟩

theorem Repurchases.mono (wide : window ≤ wider) (again : Repurchases window loss other) :
    Repurchases wider loss other := by
  obtain ⟨account, symbol, closed, opened, known, opens, within⟩ := again
  exact ⟨account, symbol, closed, opened, known, opens, within.trans wide⟩

/-- A repurchase stays one, wherever the two positions come to stand in a larger list. -/
theorem Washes.mono {place : Nat} {moved : Nat ↪o Nat} (wide : window ≤ wider)
    (kept : ∀ index, groups[index]? = larger[moved index]?) (washes : Washes window groups index place) :
    Washes wider larger (moved index) (moved place) := by
  obtain ⟨loss, other, here, there, elsewhere, loses, again⟩ := washes
  rw [kept] at here there
  exact ⟨loss, other, here, there, moved.injective.ne elsewhere, loses, again.mono wide⟩

theorem isWashed_mono (wide : window ≤ wider) (kept : groups.Sublist larger)
    (washed : isWashed window groups loss = true) : isWashed wider larger loss = true := by
  obtain ⟨loses, other, listed, again⟩ := isWashed_iff.mp washed
  exact isWashed_iff.mpr ⟨loses, other, (kept.erase loss).mem listed, again.mono wide⟩

/-- The flags of the losses stay, in their order. -/
theorem map_loss_detect_sublist (wide : window ≤ wider) (kept : groups.Sublist larger) :
    ((detect window groups).map WashSale.loss).Sublist ((detect wider larger).map WashSale.loss) := by
  have grown : (washed window groups).Sublist (washed wider larger) :=
    (List.monotone_filter_right groups fun _ => isWashed_mono wide kept).trans (kept.filter _)
  rw [map_eq_filterMap (map_loss_detect window groups), map_eq_filterMap (map_loss_detect wider larger)]
  exact grown.filterMap _

/-- Each loss is flagged at most once, in the order of the list, if some other position is a repurchase, and the
flag names the first one. A wider window and further positions only add flags. -/
theorem detect_flags_first_repurchase (window : Int) (groups : List TradeGroup) :
    (marks window groups).map Prod.snd = detect window groups ∧
      ((marks window groups).map Prod.fst).Pairwise (· < ·) ∧
      (∀ index, index ∈ (marks window groups).map Prod.fst ↔ ∃ place, Washes window groups index place) ∧
      (∀ index flag, (index, flag) ∈ marks window groups ↔
        ∃ loss other place, groups[index]? = some loss ∧ groups[place]? = some other ∧
          IsLeast {place | Washes window groups index place} place ∧ flag.Pairs loss other) ∧
      ∀ (wider : Int) (larger : List TradeGroup) (moved : Nat ↪o Nat), window ≤ wider →
        (∀ index, groups[index]? = larger[moved index]?) →
        (∀ index ∈ (marks window groups).map Prod.fst, moved index ∈ (marks wider larger).map Prod.fst) ∧
        ((detect window groups).map WashSale.loss).Sublist ((detect wider larger).map WashSale.loss) := by
  refine ⟨map_snd_marks window groups, marks_ascending window groups, fun index => mem_map_marks_iff,
    fun index flag => ?_, fun wider larger moved wide kept => ⟨fun index marked => ?_, ?_⟩⟩
  · rw [mem_marks_iff]
    constructor
    · rintro ⟨loss, here, flagged⟩
      obtain ⟨place, other, there, least, pairs⟩ := (flag_eq_some_iff here).mp flagged
      exact ⟨loss, other, place, here, there, least, pairs⟩
    · rintro ⟨loss, other, place, here, there, least, pairs⟩
      exact ⟨loss, here, (flag_eq_some_iff here).mpr ⟨place, other, there, least, pairs⟩⟩
  · obtain ⟨place, washes⟩ := mem_map_marks_iff.mp marked
    exact mem_map_marks_iff.mpr ⟨moved place, washes.mono wide kept⟩
  · exact map_loss_detect_sublist wide (List.sublist_iff_exists_orderEmbedding_getElem?_eq.mpr ⟨moved, kept⟩)

/-- Two equal losses, each closed within a month of the day on which the other was opened. -/
def twinLosses : List TradeGroup :=
  let loss : TradeGroup := ⟨"A", "X", "X", "swing", "equity", Date.ofCivil? ⟨2024, 11, 1⟩, Date.ofCivil? ⟨2024, 11, 20⟩,
    (Decimal.ofParts? true 5025 2).getD .zero, 19, 2⟩
  [loss, loss]

/-- The two losses, with a purchase before them and a position of another account between them. -/
def twinLossesAmong : List TradeGroup :=
  let bought : TradeGroup := ⟨"A", "X", "X", "hold", "equity", Date.ofCivil? ⟨2024, 12, 25⟩, none, .ofUInt32 7, 30, 1⟩
  [bought] ++ twinLosses.take 1 ++ [{ bought with account := "B" }] ++ twinLosses.drop 1

/-- Each of the two has a repurchase, the other one, and keeps a flag when the purchase comes first. -/
theorem twin_losses_flagged :
    (marks 30 twinLosses).map Prod.fst = [0, 1] ∧
      (∃ place, Washes 30 twinLosses 0 place) ∧ (∃ place, Washes 30 twinLosses 1 place) ∧
      1 ∈ (marks 40 twinLossesAmong).map Prod.fst ∧ 3 ∈ (marks 40 twinLossesAmong).map Prod.fst ∧
      ((detect 30 twinLosses).map WashSale.loss).Sublist ((detect 40 twinLossesAmong).map WashSale.loss) := by
  obtain ⟨_, _, flagged_iff, _, grows⟩ := detect_flags_first_repurchase 30 twinLosses
  have flagged : (marks 30 twinLosses).map Prod.fst = [0, 1] := by decide +kernel
  have kept : ∀ index, twinLosses[index]? = twinLossesAmong[2 * index + 1]?
    | 0 => rfl
    | 1 => rfl
    | _ + 2 => rfl
  obtain ⟨stay, losses⟩ := grows 40 twinLossesAmong
    (OrderEmbedding.ofStrictMono (fun index => 2 * index + 1) fun _ _ before => by dsimp only; omega) (by decide) kept
  exact ⟨flagged, (flagged_iff 0).mp (by simp [flagged]), (flagged_iff 1).mp (by simp [flagged]),
    stay 0 (by simp [flagged]), stay 1 (by simp [flagged]), losses⟩

end TradeLedger.Tax.WashSale
