import TradeLedger.Proofs.Ordered.Map
import TradeLedger.Proofs.Ordered.Parts
import TradeLedger.Proofs.Review.Weeks
import TradeLedger.Review.Impulse

/-! Impulsive losses. A losing trade is one if the last journal entry about it carries a risky tag; the first five of
them are listed, each with what that entry says. Entries about no losing trade do not matter, and neither do those
that are followed by an entry about the same trade. -/
namespace TradeLedger.Review

variable {losers : List TradeGroup} {journal longer : List JournalEntry} {group : TradeGroup}
  {entry other : JournalEntry} {impulse : Impulse}

instance : Std.LawfulEqOrd TradeKey where
  eq_of_compare {a b} same := by
    have parts := same
    change compareLex (compareOn TradeKey.account) (compareLex (compareOn TradeKey.symbol)
      (compareLex (compareOn TradeKey.strategy) (compareOn TradeKey.opened))) a b = .eq at parts
    rw [compareLex_eq_eq, compareLex_eq_eq, compareLex_eq_eq] at parts
    obtain ⟨account, symbol, strategy, opened⟩ := parts
    have account : a.account = b.account := Std.LawfulEqOrd.eq_of_compare account
    have symbol : a.symbol = b.symbol := Std.LawfulEqOrd.eq_of_compare symbol
    have strategy : a.strategy = b.strategy := Std.LawfulEqOrd.eq_of_compare strategy
    have opened : a.opened = b.opened := Std.LawfulEqOrd.eq_of_compare opened
    cases a
    cases b
    cases account
    cases symbol
    cases strategy
    cases opened
    rfl

/-- An entry is about a trade if it names its account, its symbol in any case, its strategy and the day on which it
was opened, which has to be known. -/
structure IsAbout (entry : JournalEntry) (group : TradeGroup) : Prop where
  account : entry.account = group.account
  symbol : Text.upper entry.symbol = Text.upper group.symbol
  strategy : entry.strategy = group.strategy
  opened : ∃ day, entry.opened = some day ∧ group.opened = some day

theorem isAbout_iff : IsAbout entry group ↔
    ∃ key, TradeKey.ofGroup? group = some key ∧ TradeKey.named? entry = some key := by
  constructor
  · rintro ⟨account, symbol, strategy, day, entered, opened⟩
    refine ⟨⟨group.account, Text.upper group.symbol, group.strategy, day⟩, ?_, ?_⟩
    · rw [TradeKey.ofGroup?, opened]
      rfl
    · rw [TradeKey.named?, entered, account, symbol, strategy]
      rfl
  · rintro ⟨key, grouped, entered⟩
    obtain ⟨day, opened, rfl⟩ := Option.map_eq_some_iff.mp grouped
    obtain ⟨day', entered, same⟩ := Option.map_eq_some_iff.mp entered
    injection same with account symbol strategy days
    exact ⟨account, symbol, strategy, day, days ▸ entered, opened⟩

instance (entry : JournalEntry) (group : TradeGroup) : Decidable (IsAbout entry group) :=
  decidable_of_iff (entry.account = group.account ∧ Text.upper entry.symbol = Text.upper group.symbol ∧
      entry.strategy = group.strategy ∧ group.opened.isSome ∧ entry.opened = group.opened) <| by
    constructor
    · rintro ⟨account, symbol, strategy, known, same⟩
      obtain ⟨day, opened⟩ := Option.isSome_iff_exists.mp known
      exact ⟨account, symbol, strategy, day, same.trans opened, opened⟩
    · rintro ⟨account, symbol, strategy, day, entered, opened⟩
      exact ⟨account, symbol, strategy, by rw [opened]; rfl, entered.trans opened.symm⟩

/-- The last entry about a trade. -/
def lastAbout? (journal : List JournalEntry) (group : TradeGroup) : Option JournalEntry :=
  (journal.filter fun entry => IsAbout entry group).getLast?

theorem lastAbout?_cons (entry : JournalEntry) (journal : List JournalEntry) (group : TradeGroup) :
    lastAbout? (entry :: journal) group =
      if IsAbout entry group then some ((lastAbout? journal group).getD entry) else lastAbout? journal group := by
  unfold lastAbout?
  by_cases about : IsAbout entry group
  · rw [if_pos about, List.filter_cons_of_pos (by simpa using about), List.getLast?_cons]
  · rw [if_neg about, List.filter_cons_of_neg (by simpa using about)]

theorem exists_lastAbout? (member : other ∈ journal) (about : IsAbout other group) :
    ∃ entry, lastAbout? journal group = some entry := by
  have listed : other ∈ journal.filter fun entry => IsAbout entry group :=
    List.mem_filter.mpr ⟨member, decide_eq_true about⟩
  exact ⟨_, List.getLast?_eq_getLast_of_ne_nil (List.ne_nil_of_mem listed)⟩

/-- The last entry about a trade carries a risky tag. -/
def isImpulsive (journal : List JournalEntry) (group : TradeGroup) : Bool :=
  (lastAbout? journal group).any fun entry => entry.tags.any riskyTags.contains

/-- The look-up by trades finds the last entry. -/
theorem get?_entriesByTrade (journal : List JournalEntry) (group : TradeGroup) :
    (TradeKey.ofGroup? group).bind (entriesByTrade journal).get? = lastAbout? journal group := by
  cases grouped : TradeKey.ofGroup? group with
  | none =>
    have nothing : journal.filter (fun entry => IsAbout entry group) = [] := by
      rw [List.filter_eq_nil_iff]
      intro entry _ about
      obtain ⟨key, same, _⟩ := isAbout_iff.mp (of_decide_eq_true about)
      rw [grouped] at same
      cases same
    rw [lastAbout?, nothing]
    rfl
  | some key =>
    have about : ∀ entry, TradeKey.named? entry = some key ↔ IsAbout entry group := by
      intro entry
      rw [isAbout_iff, grouped]
      simp
    rw [Option.bind_some, entriesByTrade, OrderedMap.get?_ofList, filter_keyed, List.getLast?_map, Option.map_map]
    simp only [about]
    exact Option.map_id'

namespace Impulse

theorem ofGroup?_eq (journal : List JournalEntry) (group : TradeGroup) :
    ofGroup? (entriesByTrade journal) group = (lastAbout? journal group).bind (quote? group) := by
  rw [← get?_entriesByTrade, Option.bind_assoc]
  rfl

/-- The tags with one more. -/
theorem riskyAmong_concat (tags : List String) (tag : String) :
    riskyAmong (tags ++ [tag]) = if riskyTags.contains tag then insertTag (riskyAmong tags) tag else riskyAmong tags := by
  rw [riskyAmong, List.filter_append, List.foldl_append]
  cases risky : riskyTags.contains tag with
  | true => rw [List.filter_cons_of_pos risky]; rfl
  | false => rw [List.filter_cons_of_neg (Bool.eq_false_iff.mp risky)]; rfl

/-- The risky tags are listed once each, in the order in which they occur first. -/
structure RiskyTags (listed tags : List String) : Prop where
  mem_iff : ∀ tag, tag ∈ listed ↔ tag ∈ tags ∧ tag ∈ riskyTags
  nodup : listed.Nodup
  ordered : listed.Pairwise fun a b => tags.idxOf a < tags.idxOf b

theorem RiskyTags.of_ordered {listed tags : List String} (mem_iff : ∀ tag, tag ∈ listed ↔ tag ∈ tags ∧ tag ∈ riskyTags)
    (ordered : listed.Pairwise fun a b => tags.idxOf a < tags.idxOf b) : RiskyTags listed tags :=
  ⟨mem_iff, ordered.imp fun less same => less.ne (congrArg tags.idxOf same), ordered⟩

theorem riskyTags_riskyAmong (tags : List String) : RiskyTags (riskyAmong tags) tags := by
  induction tags using List.reverseRecOn with
  | nil => exact .of_ordered (by simp [riskyAmong]) .nil
  | append_singleton tags tag ih =>
    have kept : (riskyAmong tags).Pairwise fun a b => (tags ++ [tag]).idxOf a < (tags ++ [tag]).idxOf b :=
      ih.ordered.imp_of_mem fun {a b} first second less => by
        rw [List.idxOf_append_of_mem ((ih.mem_iff a).mp first).1, List.idxOf_append_of_mem ((ih.mem_iff b).mp second).1]
        exact less
    rw [riskyAmong_concat]
    by_cases risky : tag ∈ riskyTags
    · rw [if_pos (List.contains_iff_mem.mpr risky), insertTag]
      by_cases known : tag ∈ riskyAmong tags
      · rw [if_pos (List.contains_iff_mem.mpr known)]
        have before := ((ih.mem_iff tag).mp known).1
        refine .of_ordered (fun probe => ?_) kept
        rw [ih.mem_iff, List.mem_append, List.mem_singleton]
        exact and_congr_left' ⟨.inl, fun either => either.elim id fun same => same ▸ before⟩
      · have fresh : tag ∉ tags := fun before => known ((ih.mem_iff tag).mpr ⟨before, risky⟩)
        rw [if_neg (by simpa using known)]
        refine .of_ordered (fun probe => ?_)
          (List.pairwise_append.mpr ⟨kept, List.pairwise_singleton .., fun a first b last => ?_⟩)
        · rw [List.mem_append, List.mem_append, ih.mem_iff, List.mem_singleton, or_and_right]
          exact or_congr_right ⟨fun same => ⟨same, same ▸ risky⟩, And.left⟩
        · have before := ((ih.mem_iff a).mp first).1
          rw [List.mem_singleton.mp last, List.idxOf_append_of_mem before, List.idxOf_append_of_notMem fresh]
          exact (List.idxOf_lt_length_of_mem before).trans_le (Nat.le_add_right ..)
    · rw [if_neg (by simpa using risky)]
      refine .of_ordered (fun probe => ?_) kept
      rw [ih.mem_iff, List.mem_append, List.mem_singleton, or_and_right]
      exact (or_iff_left fun (both : probe = tag ∧ probe ∈ riskyTags) => risky (both.1 ▸ both.2)).symm

/-- The longest beginning of a text that is not longer than what is quoted. -/
structure Quotation (quoted text : String) : Prop where
  begins : quoted.toList <+: text.toList
  short : quoted.length ≤ 200
  longest : ∀ start : String, start.toList <+: text.toList → start.length ≤ 200 → start.toList <+: quoted.toList

theorem quotation_take (text : String) : Quotation (String.ofList (text.toList.take mostReflection)) text where
  begins := by
    rw [String.toList_ofList]
    exact List.take_prefix ..
  short := by
    rw [String.length_ofList]
    exact List.length_take_le ..
  longest := by
    intro start begins short
    rw [String.toList_ofList]
    exact List.prefix_take_iff.mpr ⟨begins, short⟩

/-- An impulsive loss shows the trade, and the risky tags and the beginning of the reflection of an entry. -/
structure Shows (impulse : Impulse) (group : TradeGroup) (entry : JournalEntry) : Prop where
  symbol : impulse.symbol = group.symbol
  strategy : impulse.strategy = group.strategy
  pnl : impulse.pnl = group.pnl
  tags : RiskyTags impulse.tags entry.tags
  reflection : Quotation impulse.reflection (entry.reflection.getD "")

theorem riskyAmong_eq_nil_iff (tags : List String) : riskyAmong tags = [] ↔ tags.any riskyTags.contains = false := by
  rw [List.eq_nil_iff_forall_not_mem, List.any_eq_false]
  simp only [(riskyTags_riskyAmong tags).mem_iff, not_and, List.contains_iff_mem]

/-- An entry is quoted if it carries a risky tag. -/
theorem quote?_spec (group : TradeGroup) (entry : JournalEntry) :
    if entry.tags.any riskyTags.contains then ∃ impulse, quote? group entry = some impulse ∧ impulse.Shows group entry
    else quote? group entry = none := by
  rw [quote?]
  cases listed : riskyAmong entry.tags with
  | nil =>
    rw [(riskyAmong_eq_nil_iff _).mp listed]
    rfl
  | cons tag tags =>
    have risky : entry.tags.any riskyTags.contains = true := by
      rw [← Bool.not_eq_false, ← riskyAmong_eq_nil_iff, listed]
      exact List.cons_ne_nil tag tags
    rw [if_pos risky]
    exact ⟨_, rfl, rfl, rfl, rfl, listed ▸ riskyTags_riskyAmong entry.tags, quotation_take _⟩

/-- All impulsive losses among some trades, in their order. -/
theorem forall₂_impulsive (losers : List TradeGroup) (journal : List JournalEntry) :
    List.Forall₂ (fun group impulse => ∃ entry ∈ lastAbout? journal group, impulse.Shows group entry)
      (losers.filter (isImpulsive journal)) (losers.filterMap (ofGroup? (entriesByTrade journal))) := by
  induction losers with
  | nil => exact .nil
  | cons group losers ih =>
    have own := ofGroup?_eq journal group
    cases found : lastAbout? journal group with
    | none =>
      rw [List.filter_cons_of_neg (by simp [isImpulsive, found]), List.filterMap_cons_none (by rw [own, found]; rfl)]
      exact ih
    | some entry =>
      rw [found, Option.bind_some] at own
      have quoted := quote?_spec group entry
      split at quoted
      case isTrue risky =>
        obtain ⟨impulse, quoted, shown⟩ := quoted
        rw [List.filter_cons_of_pos (by rwa [isImpulsive, found]), List.filterMap_cons_some (own.trans quoted)]
        exact .cons ⟨entry, found, shown⟩ ih
      case isFalse harmless =>
        rw [List.filter_cons_of_neg (by rwa [isImpulsive, found]), List.filterMap_cons_none (own.trans quoted)]
        exact ih

end Impulse

/-- An entry does not matter among those that follow if it is about none of the trades, or if one of them is about the
same trade. -/
def Harmless (losers : List TradeGroup) (entry : JournalEntry) (later : List JournalEntry) : Prop :=
  (∀ group ∈ losers, ¬IsAbout entry group) ∨
    ∃ other ∈ later, ∃ key, TradeKey.named? entry = some key ∧ TradeKey.named? other = some key

/-- A journal into which entries that do not matter were inserted anywhere. -/
inductive Inserted (losers : List TradeGroup) : List JournalEntry → List JournalEntry → Prop
  | nil : Inserted losers [] []
  | keep (entry : JournalEntry) {journal longer : List JournalEntry} (rest : Inserted losers journal longer) :
      Inserted losers (entry :: journal) (entry :: longer)
  | insert (entry : JournalEntry) {journal longer : List JournalEntry} (harmless : Harmless losers entry longer)
      (rest : Inserted losers journal longer) : Inserted losers journal (entry :: longer)

/-- The last entry about a losing trade stays the last. -/
theorem lastAbout?_inserted (inserted : Inserted losers journal longer) (member : group ∈ losers) :
    lastAbout? longer group = lastAbout? journal group := by
  induction inserted with
  | nil => rfl
  | keep entry rest ih => rw [lastAbout?_cons, lastAbout?_cons, ih]
  | @insert entry journal longer harmless rest ih =>
    rw [lastAbout?_cons, ← ih]
    split
    case isTrue about =>
      rcases harmless with none | ⟨other, later, key, entered, entered'⟩
      · exact absurd about (none group member)
      · obtain ⟨key', grouped, same⟩ := isAbout_iff.mp about
        obtain rfl := Option.some.inj (entered.symm.trans same)
        obtain ⟨last, found⟩ := exists_lastAbout? later (isAbout_iff.mpr ⟨key, grouped, entered'⟩)
        rw [found, Option.getD_some]
    case isFalse => rfl

namespace Impulse

/-- Impulsive losses are found completely up to the first five. In the order of the losing trades these are the trades
of which the last journal entry with the same account, symbol in upper case, strategy and known day of opening
carries a risky tag. Each is listed with the risky tags of that entry, once each and in the order in which they occur
first, and with the longest beginning of its reflection of 200 characters or fewer. Entries may be inserted into
the journal that are about none of the trades, or that are followed by one about the same trade. -/
theorem ofLosers_complete (losers : List TradeGroup) (journal : List JournalEntry) :
    List.Forall₂ (fun group impulse => ∃ entry ∈ lastAbout? journal group, impulse.Shows group entry)
      ((losers.filter (isImpulsive journal)).take 5) (ofLosers losers journal) ∧
    ∀ longer, Inserted losers journal longer → ofLosers losers longer = ofLosers losers journal := by
  refine ⟨List.forall₂_take 5 (forall₂_impulsive losers journal), fun longer inserted => ?_⟩
  have same : losers.filterMap (ofGroup? (entriesByTrade longer)) = losers.filterMap (ofGroup? (entriesByTrade journal)) :=
    List.filterMap_congr fun group member => by rw [ofGroup?_eq, ofGroup?_eq, lastAbout?_inserted inserted member]
  rw [ofLosers, ofLosers, same]

/-- A losing trade, an entry about a trade, and the entry about that one that counts. -/
def lostAt (symbol : String) (opened : Option Date) : TradeGroup :=
  ⟨"A", symbol, symbol, "swing", "equity", opened, none, (Decimal.ofUInt32 9).neg, 1, 2⟩

def notedOn (symbol : String) (opened : Option Date) (tags : List String) : JournalEntry :=
  ⟨"A", symbol, "swing", opened, none, tags, some "trop tôt"⟩

def riskyNote : JournalEntry :=
  notedOn "STRASSE" (some afterLeapDay) ["revenge_trade", "plan", "fomo", "revenge_trade"]

/-- Losing trades; the day of the last one is not known. -/
def soldAtLoss : List TradeGroup :=
  [lostAt "straße" (some afterLeapDay), lostAt "X" (some afterLeapDay), lostAt "X" none]

/-- The last entry about the second trade is harmless, unlike an earlier one. -/
def notedLosses : List JournalEntry :=
  [notedOn "X" (some afterLeapDay) ["fomo"], riskyNote, notedOn "X" (some afterLeapDay) ["plan"]]

/-- A harmless entry about the first trade before the risky one, and one without a day at the end. -/
def notedMore : List JournalEntry :=
  notedOn "Straße" (some afterLeapDay) [] :: notedLosses ++ [notedOn "X" none ["fomo"]]

/-- The first trade is the only impulsive loss, with the added entries and without them. -/
theorem sold_at_loss_complete : ∃ impulse, ofLosers soldAtLoss notedLosses = [impulse] ∧
    ofLosers soldAtLoss notedMore = [impulse] ∧ impulse.tags = ["revenge_trade", "fomo"] ∧
    impulse.reflection.length ≤ 200 ∧ "trop tôt".toList <+: impulse.reflection.toList := by
  obtain ⟨listed, added⟩ := ofLosers_complete soldAtLoss notedLosses
  have impulsive : (soldAtLoss.filter (isImpulsive notedLosses)).take 5 = [lostAt "straße" (some afterLeapDay)] := by
    decide +kernel
  rw [impulsive, List.forall₂_cons_left_iff] at listed
  obtain ⟨impulse, rest, ⟨entry, last, shown⟩, none, answered⟩ := listed
  obtain rfl := List.forall₂_nil_left_iff.mp none
  have risky : lastAbout? notedLosses (lostAt "straße" (some afterLeapDay)) = some riskyNote := by decide +kernel
  obtain rfl := Option.some.inj (risky.symm.trans last)
  have inserted : Inserted soldAtLoss notedLosses notedMore := by
    refine .insert _ (.inr ⟨riskyNote, by decide +kernel, ⟨"A", "STRASSE", "swing", afterLeapDay⟩, ?_, ?_⟩)
      (.keep _ (.keep _ (.keep _ (.insert _ (.inl ?_) .nil))))
    · decide +kernel
    · decide +kernel
    · decide +kernel
  have tags : (ofLosers soldAtLoss notedLosses).map (·.tags) = [["revenge_trade", "fomo"]] := by decide +kernel
  rw [show ofLosers soldAtLoss notedLosses = [impulse] from answered] at tags
  exact ⟨impulse, answered, (added notedMore inserted).trans answered, List.singleton_inj.mp tags,
    shown.reflection.short, shown.reflection.longest _ (by decide +kernel) (by decide +kernel)⟩

end Impulse

end TradeLedger.Review
