import TradeLedger.Proofs.Store.Insertion
import TradeLedger.Proofs.Store.Lines
import TradeLedger.Proofs.Text.Fields
import TradeLedger.Review.Impulse

/-! The journal stored and read back. The tags of an entry are stored as one text with commas between them, so a tag
with a comma comes back as several. Entries whose tags have none come back as they were, if their moods are not blank
and their tags are trimmed and not empty, and the impulsive losses that they show are the same. -/
namespace TradeLedger

open Text

/-- The entry as it is read back from the store: every tag falls apart at its commas, and a blank mood and blank tags
are dropped. -/
def JournalEntry.asStored (entry : JournalEntry) : JournalEntry :=
  { entry with
    mood := entry.mood.filter fun mood => trim mood != ""
    tags := ((entry.tags.flatMap splitCommas).map trim).filter (· != "") }

/-- No tag of the entry has a comma. -/
def JournalEntry.CommaFree (entry : JournalEntry) : Prop := ∀ tag ∈ entry.tags, ',' ∉ tag.toList

/-- The mood is not blank, and the tags are trimmed and not empty. -/
structure JournalEntry.Tidy (entry : JournalEntry) : Prop where
  mood : ∀ mood ∈ entry.mood, trim mood ≠ ""
  tags : ∀ tag ∈ entry.tags, tag ≠ "" ∧ Trimmed tag.toList

instance (entry : JournalEntry) : Decidable entry.CommaFree :=
  inferInstanceAs (Decidable (∀ tag ∈ entry.tags, ',' ∉ tag.toList))

instance (entry : JournalEntry) : Decidable entry.Tidy :=
  decidable_of_iff ((∀ mood ∈ entry.mood, trim mood ≠ "") ∧ ∀ tag ∈ entry.tags, tag ≠ "" ∧ Trimmed tag.toList)
    ⟨fun ⟨mood, tags⟩ => ⟨mood, tags⟩, fun ⟨mood, tags⟩ => ⟨mood, tags⟩⟩

namespace Store

theorem JournalRow.read_ofEntry (entry : JournalEntry) : (ofEntry entry).read = entry.asStored := by
  have tags : ((splitCommas (joinCommas entry.tags)).map trim).filter (· != "") =
      ((entry.tags.flatMap splitCommas).map trim).filter (· != "") := by
    cases entry.tags with
    | nil => decide +kernel
    | cons tag tags => rw [splitCommas_joinCommas (List.cons_ne_nil tag tags)]
  simp only [read, ofEntry, Option.getD_some, readDate_dateCell, tags, JournalEntry.asStored]

end Store

namespace JournalEntry

variable {entry : JournalEntry}

/-- No tag that is read back has a comma. -/
theorem commaFree_asStored (entry : JournalEntry) : entry.asStored.CommaFree := by
  intro tag member
  obtain ⟨field, divided, rfl⟩ := List.mem_map.mp (List.mem_of_mem_filter member)
  obtain ⟨whole, _, inside⟩ := List.mem_flatMap.mp divided
  intro comma
  rw [trim, String.toList_ofList] at comma
  exact not_comma_mem_of_mem_splitCommas inside (mem_of_mem_trimChars comma)

/-- A tidy entry is read back as it was exactly if none of its tags has a comma. -/
theorem Tidy.asStored_eq_iff (tidy : entry.Tidy) : entry.asStored = entry ↔ entry.CommaFree := by
  constructor
  · intro same
    rw [← same]
    exact commaFree_asStored entry
  · intro free
    have mood : (entry.mood.filter fun mood => trim mood != "") = entry.mood := by
      cases noted : entry.mood with
      | none => rfl
      | some mood => exact Option.filter_some_pos (by simpa using tidy.mood mood noted)
    have divided : entry.tags.flatMap splitCommas = entry.tags := by
      rw [List.flatMap_congr fun tag member => splitCommas_of_not_mem (free tag member), List.flatMap_singleton']
    have trimmed : entry.tags.map trim = entry.tags := by
      rw [List.map_congr_left fun tag member => trim_of_trimmed (tidy.tags tag member).2, List.map_id']
    have kept : entry.tags.filter (· != "") = entry.tags :=
      List.filter_eq_self.mpr fun tag member => by simpa using (tidy.tags tag member).1
    rw [asStored, mood, divided, trimmed, kept]

end JournalEntry

namespace Store.Database

open Review

variable {journal : List JournalEntry}

/-- Entries go into an empty database, if there are numbers for them, and come out again in their order. -/
theorem journalEntries_insertEntries (room : (journal.length : ℤ) ≤ Table.greatestId) :
    ∃ database, insertEntries ∅ journal = .ok database ∧
      database.journalEntries .all = .ok (journal.map JournalEntry.asStored) := by
  have space : (∅ : Database).journal.lastId + journal.length ≤ Table.greatestId := by
    have fresh : (∅ : Database).journal.lastId = 0 := rfl
    rwa [fresh, zero_add]
  obtain ⟨database, inserted, behind⟩ := insertEntries_appends space
  refine ⟨database, inserted, ?_⟩
  have rows : database.journal.rows = journal.map JournalRow.ofEntry := behind
  rw [journalEntries_all, rows, List.map_map]
  congr 1
  exact List.map_congr_left fun entry _ => JournalRow.read_ofEntry entry

/-- Tidy entries are read back as they were stored, with their tags in order, exactly if no tag has a comma. The
impulsive losses that the stored journal shows are then those of the journal. -/
theorem journal_stored_iff (room : (journal.length : ℤ) ≤ Table.greatestId)
    (tidy : ∀ entry ∈ journal, entry.Tidy) :
    ∃ database stored, insertEntries ∅ journal = .ok database ∧ database.journalEntries .all = .ok stored ∧
      (stored = journal ↔ ∀ entry ∈ journal, entry.CommaFree) ∧
      ((∀ entry ∈ journal, entry.CommaFree) →
        ∀ losers, Impulse.ofLosers losers stored = Impulse.ofLosers losers journal) := by
  obtain ⟨database, inserted, read⟩ := journalEntries_insertEntries room
  have same : journal.map JournalEntry.asStored = journal.map id ↔ ∀ entry ∈ journal, entry.CommaFree :=
    List.map_inj_left.trans (forall₂_congr fun entry member => (tidy entry member).asStored_eq_iff)
  rw [List.map_id] at same
  refine ⟨database, _, inserted, read, same, fun free losers => ?_⟩
  rw [same.mpr free]

/-- An entry about a trade opened in the year 10000. -/
def taggedWith (tags : List String) : JournalEntry :=
  ⟨"A", "xyz", "swing", Date.ofDayNumber? 3652060, some " calm ", tags, some ""⟩

/-- A loss that the entry is about. -/
def taggedLoss : TradeGroup :=
  ⟨"A", "XYZ", "XYZ", "swing", "stock", Date.ofDayNumber? 3652060, none, .neg (.ofUInt32 5), 1, 2⟩

/-- Tags without commas come back, repeated ones and none at all included, and make the loss an impulsive one. -/
theorem plain_tags_stored :
    ∃ database stored, insertEntries ∅ [taggedWith [], taggedWith ["no plan", "fomo", "no plan"]] = .ok database ∧
      database.journalEntries .all = .ok stored ∧
      stored = [taggedWith [], taggedWith ["no plan", "fomo", "no plan"]] ∧
      (Impulse.ofLosers [taggedLoss] stored).map (·.tags) = [["fomo"]] := by
  obtain ⟨database, stored, inserted, read, same, impulses⟩ :=
    @journal_stored_iff [taggedWith [], taggedWith ["no plan", "fomo", "no plan"]] (by decide) (by decide +kernel)
  refine ⟨database, stored, inserted, read, same.mpr (by decide +kernel), ?_⟩
  rw [impulses (by decide +kernel)]
  decide +kernel

/-- A tag with a comma comes back as two, and one of them makes the loss an impulsive one. -/
theorem comma_makes_impulse :
    (taggedWith ["fomo,late"]).Tidy ∧
      ∃ database stored, insertEntries ∅ [taggedWith ["fomo,late"]] = .ok database ∧
        database.journalEntries .all = .ok stored ∧ stored ≠ [taggedWith ["fomo,late"]] ∧
        Impulse.ofLosers [taggedLoss] [taggedWith ["fomo,late"]] = [] ∧
        (Impulse.ofLosers [taggedLoss] stored).map (·.tags) = [["fomo"]] := by
  obtain ⟨database, inserted, read⟩ := @journalEntries_insertEntries [taggedWith ["fomo,late"]] (by decide)
  exact ⟨by decide +kernel, database, _, inserted, read, by decide +kernel, by decide +kernel, by decide +kernel⟩

end Store.Database

end TradeLedger
