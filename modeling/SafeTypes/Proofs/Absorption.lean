import SafeTypes.Proofs.LogAccounting

/-! Entering a catalog over what is there already. The records that the catalog leaves are its own
last ones, whatever stood under their names before, and no other entry is touched. So a second pass
leaves the table as it was, although on its way it brings back records that later entries of the
catalog replace again. -/
namespace SafeTypes

namespace Table

variable {Value : Type}

/-- Writing the same entries again changes nothing. On the way the values can change, but the last
write to each name is the same, and no name is new. -/
theorem insertAll_insertAll_self (table : Table Value) (writes : List (String × Value)) :
    (table.insertAll writes).insertAll writes = table.insertAll writes := by
  have hOnce := (lastWins_entries table).insertAll writes
  have hTwice := hOnce.insertAll writes
  have hNames : ((table.entries ++ writes ++ writes).map Prod.fst).eraseDups =
      ((table.entries ++ writes).map Prod.fst).eraseDups := by
    have hKnown : (writes.map Prod.fst).removeAll
        ((table.entries ++ writes).map Prod.fst) = [] := by
      simp +contextual [List.removeAll, List.filter_eq_nil_iff]
    rw [List.map_append, List.eraseDups_append, hKnown, List.eraseDups_nil, List.append_nil]
  refine LastWins.unique hTwice ⟨hOnce.order.trans hNames.symm, ?_⟩
  intro name
  rw [hOnce.value, lastWrite_append (table.entries ++ writes), lastWrite_append, ← Option.or_assoc,
    Option.or_self]

theorem filter_put {kept : String → Bool} {name : String} (h : kept name = false) (value : Value)
    (entries : List (String × Value)) :
    (put name value entries).filter (fun entry => kept entry.1) =
      entries.filter fun entry => kept entry.1 := by
  induction entries with
  | nil => simp [put, h]
  | cons entry rest ih =>
      by_cases hName : entry.1 = name
      · simp [put, hName, h]
      · simp [put, hName, List.filter_cons, ih]

/-- Entries under names that are not written stay, in their order. -/
theorem filter_insertAll (table : Table Value) (kept : String → Bool)
    {writes : List (String × Value)} (h : ∀ write ∈ writes, kept write.1 = false) :
    (table.insertAll writes).entries.filter (fun entry => kept entry.1) =
      table.entries.filter fun entry => kept entry.1 := by
  induction writes generalizing table with
  | nil => rfl
  | cons write rest ih =>
      rw [List.forall_mem_cons] at h
      have hRest := ih (table.insert write.1 write.2) h.2
      exact hRest.trans (filter_put h.1 write.2 table.entries)

end Table

namespace Roster

/-- Where each name has a record already, each record that is stored is a replacement. -/
theorem map_snd_replacing {entries : Table SafeType} {records : List SafeType}
    (h : ∀ record ∈ records, record.name ∈ entries.names) :
    (replacing entries records).map Prod.snd = records := by
  induction records generalizing entries with
  | nil => rfl
  | cons record rest ih =>
      rw [List.forall_mem_cons] at h
      obtain ⟨previous, hPrevious⟩ := Table.mem_names_iff.1 h.1
      have hRest : ∀ other ∈ rest,
          other.name ∈ (entries.insert record.name record).names := by
        intro other hOther
        rw [Table.names_insert, if_pos h.1]
        exact h.2 other hOther
      rw [replacing, hPrevious, List.map_append, ih hRest]
      rfl

theorem answer_enterCatalog_of_sound {roster : Roster} (h : roster.isClosed = false)
    {catalog : Catalog} (hCatalog : ∀ entry ∈ catalog, ¬ entry.IsDefective) :
    roster.answer (.enterCatalog catalog) =
      (roster.storeAll (catalog.map Catalog.Entry.record), none) :=
  answer_of_sound h nofun hCatalog

/-- The writes of a catalog. -/
theorem entries_storeAll_catalog (roster : Roster) (catalog : Catalog) :
    (roster.storeAll (catalog.map Catalog.Entry.record)).entries =
      roster.entries.insertAll (catalog.map fun entry => (entry.name, entry.record)) := by
  rw [entries_storeAll, List.map_map]
  rfl

/-- Each name of a catalog has the record of its last entry, whatever it had before. -/
theorem get?_storeAll_catalog (roster : Roster) {catalog : Catalog} {entry : Catalog.Entry}
    (h : entry ∈ catalog) :
    (roster.storeAll (catalog.map Catalog.Entry.record)).entries.get? entry.name =
      (catalog.findRev? fun other => other.name = entry.name).map Catalog.Entry.record := by
  rw [entries_storeAll_catalog, Table.get?_insertAll, Table.lastWrite_map]
  cases hLast : catalog.findRev? fun other => other.name = entry.name with
  | some last => rfl
  | none =>
      rw [List.findRev?_eq_find?_reverse] at hLast
      simpa using List.find?_eq_none.1 hLast entry (List.mem_reverse.2 h)

theorem mem_names_storeAll_catalog (roster : Roster) {catalog : Catalog} {entry : Catalog.Entry}
    (h : entry ∈ catalog) :
    entry.name ∈ (roster.storeAll (catalog.map Catalog.Entry.record)).entries.names := by
  rw [entries_storeAll_catalog, ((Table.lastWins_entries _).insertAll _).order, List.mem_eraseDups,
    List.map_append, List.map_map]
  exact List.mem_append_right _ (List.mem_map_of_mem h)

/-- A sound catalog decides what stands under its names and touches nothing else. What it stores
under a name is the record of the last entry of that name, so it is the same for every roster that
the catalog is entered into, and a second pass leaves all records and their order as they are. The
second pass replaces one record for each entry. The replacements of a name begin with its last
record and lead from there through all its records again. -/
theorem enterCatalog_absorbs {roster : Roster} (hOpen : roster.isClosed = false)
    {catalog : Catalog} (hCatalog : ∀ entry ∈ catalog, ¬ entry.IsDefective) :
    let first := roster.answer (.enterCatalog catalog)
    let second := first.1.answer (.enterCatalog catalog)
    (first.2 = none ∧ second.2 = none ∧ second.1.entries = first.1.entries ∧
      ∃ replaced, second.1.log = first.1.log ++ Log.ofParts replaced [] ∧
        replaced.map Prod.snd = catalog.map Catalog.Entry.record ∧
        ∀ name, (replaced.filter fun pair => pair.2.name = name) = Log.successions
          ((first.1.entries.get? name).toList ++
            (catalog.map Catalog.Entry.record).filter fun record => record.name = name)) ∧
    (∀ entry ∈ catalog,
      first.1.entries.get? entry.name =
        (catalog.findRev? fun other => other.name = entry.name).map Catalog.Entry.record ∧
      ∀ other : Roster, other.isClosed = false →
        (other.answer (.enterCatalog catalog)).1.entries.get? entry.name =
          first.1.entries.get? entry.name) ∧
    (first.1.entries.entries.filter fun entry => entry.1 ∉ catalog.map Catalog.Entry.name) =
      roster.entries.entries.filter fun entry => entry.1 ∉ catalog.map Catalog.Entry.name := by
  intro first second
  have hFirst : first = _ := answer_enterCatalog_of_sound hOpen hCatalog
  have hFirstOpen : first.1.isClosed = false := by rw [hFirst, isClosed_storeAll, hOpen]
  have hSecond : second = _ := answer_enterCatalog_of_sound hFirstOpen hCatalog
  have hFirstEntries : first.1.entries =
      roster.entries.insertAll (catalog.map fun entry => (entry.name, entry.record)) := by
    rw [hFirst, entries_storeAll_catalog]
  have hNames : ∀ record ∈ catalog.map Catalog.Entry.record,
      record.name ∈ first.1.entries.names := by
    intro record hRecord
    obtain ⟨entry, hEntry, rfl⟩ := List.mem_map.1 hRecord
    rw [hFirst]
    exact roster.mem_names_storeAll_catalog hEntry
  refine ⟨⟨by rw [hFirst], by rw [hSecond], ?_, _, ?_, map_snd_replacing hNames, ?_⟩, ?_, ?_⟩
  · rw [hSecond, entries_storeAll_catalog, hFirstEntries, Table.insertAll_insertAll_self]
  · rw [hSecond]
    exact first.1.log_storeAll _
  · intro name
    exact filter_replacing _ _ name
  · intro entry hEntry
    have hStored := roster.get?_storeAll_catalog hEntry
    rw [hFirst]
    refine ⟨hStored, ?_⟩
    intro other hOther
    rw [answer_enterCatalog_of_sound hOther hCatalog, other.get?_storeAll_catalog hEntry, hStored]
  · rw [hFirstEntries]
    refine Table.filter_insertAll _ (fun name => name ∉ catalog.map Catalog.Entry.name) ?_
    intro write hWrite
    obtain ⟨entry, hEntry, rfl⟩ := List.mem_map.1 hWrite
    simpa using ⟨entry, hEntry, rfl⟩

/-- A catalog with a name three times, entered into a roster that knows this name and another one. -/
theorem enterCatalog_absorbs_repeated :
    let catalog : Catalog := [⟨.named "b", ["T"], none⟩, ⟨.named "b", [], none⟩,
      ⟨.ofClass ⟨"c", {}, []⟩, [], none⟩, ⟨.named "b", ["U"], none⟩]
    let roster := ({} : Roster).run [.enterName "b" ["Z"], .enterName "a" []]
    let first := roster.answer (.enterCatalog catalog)
    let second := first.1.answer (.enterCatalog catalog)
    second.1.entries = first.1.entries ∧
      first.1.entries.entries = [("b", ⟨"b", ["U"]⟩), ("a", ⟨"a", []⟩), ("c", ⟨"c", []⟩)] ∧
      ∃ replaced, second.1.log = first.1.log ++ Log.ofParts replaced [] ∧
        (replaced.filter fun pair => pair.2.name = "b") = [(⟨"b", ["U"]⟩, ⟨"b", ["T"]⟩),
          (⟨"b", ["T"]⟩, ⟨"b", []⟩), (⟨"b", []⟩, ⟨"b", ["U"]⟩)] := by
  intro catalog roster first second
  have hOpen : roster.isClosed = false := rfl
  have hSound : ∀ entry ∈ catalog, ¬ entry.IsDefective := by decide
  obtain ⟨⟨_, _, hEntries, replaced, hLog, _, hChain⟩, _, _⟩ := enterCatalog_absorbs hOpen hSound
  refine ⟨hEntries, by decide, replaced, hLog, (hChain "b").trans (by decide)⟩

end Roster

end SafeTypes
