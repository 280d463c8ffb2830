import SafeTypes.Proofs.Acceptance
import SafeTypes.Proofs.AssemblyOrder

/-! Names of records as keys of tables. Nothing checks that a record stands under its own name. It
holds since every way into a table writes a record under its name, and since a merge takes over
whole entries. Only a table that is given from outside can break it. -/
namespace SafeTypes

namespace Table

/-- Each record stands under its own name. -/
def HasOwnNames (table : Table SafeType) : Prop :=
  ∀ name record, table.get? name = some record → record.name = name

theorem hasOwnNames_empty : HasOwnNames empty := by
  intro name record h
  rw [get?_empty] at h
  cases h

theorem HasOwnNames.insert {table : Table SafeType} (h : table.HasOwnNames) (record : SafeType) :
    (table.insert record.name record).HasOwnNames := by
  intro name found hFound
  rw [get?_insert] at hFound
  split at hFound
  · next hName =>
      cases hFound
      exact hName.symm
  · exact h name found hFound

theorem HasOwnNames.insertAll {table : Table SafeType} (h : table.HasOwnNames)
    {writes : List (String × SafeType)} (hWrites : ∀ write ∈ writes, write.2.name = write.1) :
    (table.insertAll writes).HasOwnNames := by
  induction writes generalizing table with
  | nil => exact h
  | cons write rest ih =>
      rw [List.forall_mem_cons] at hWrites
      have hNext := h.insert write.2
      rw [hWrites.1] at hNext
      exact ih hNext hWrites.2

theorem hasOwnNames_ofList {writes : List (String × SafeType)}
    (h : ∀ write ∈ writes, write.2.name = write.1) : (ofList writes).HasOwnNames :=
  hasOwnNames_empty.insertAll h

theorem HasOwnNames.name_of_mem_entries {table : Table SafeType} (h : table.HasOwnNames)
    {entry : String × SafeType} (hEntry : entry ∈ table.entries) : entry.2.name = entry.1 :=
  h entry.1 entry.2 (mem_entries_iff.1 hEntry)

/-- The names of the records are those of the table, so none of them comes twice. -/
theorem HasOwnNames.nodup_map_name {table : Table SafeType} (h : table.HasOwnNames) :
    (table.entries.map fun entry => entry.2.name).Nodup := by
  have hNames : (table.entries.map fun entry => entry.2.name) = table.names :=
    List.map_congr_left fun entry hEntry => h.name_of_mem_entries hEntry
  rw [hNames]
  exact table.nodup_names

end Table

namespace Roster

/-- A call writes the records of accepted entries, and these have the names of the entries. -/
theorem hasOwnNames_answer {roster : Roster} (h : roster.entries.HasOwnNames) (call : Call) :
    (roster.answer call).1.entries.HasOwnNames := by
  rw [entries_answer]
  apply h.insertAll
  intro write hWrite
  obtain ⟨entry, _, rfl⟩ := List.mem_map.1 hWrite
  rfl

theorem hasOwnNames_run {roster : Roster} (h : roster.entries.HasOwnNames) (calls : List Call) :
    (roster.run calls).entries.HasOwnNames := by
  induction calls generalizing roster with
  | nil => exact h
  | cons call rest ih => exact ih (hasOwnNames_answer h call)

theorem eq_entries_of_table? {roster : Roster} {table : Table SafeType}
    (h : roster.table? = some table) : table = roster.entries := by
  rw [table?] at h
  split at h
  · cases h
    rfl
  · cases h

end Roster

theorem MutationFacts.hasOwnNames_ofNames (immutable mutableNames : List String) :
    (ofNames immutable mutableNames).immutable.HasOwnNames := by
  apply Table.hasOwnNames_ofList
  intro write hWrite
  obtain ⟨name, _, rfl⟩ := List.mem_map.1 hWrite
  rfl

/-- Of the three sources only the immutable types could bring in a record under another name. -/
theorem Registry.hasOwnNames_safe_ofSources (catalog : Catalog) (flags : Flags)
    {mutability : MutationFacts} (h : mutability.immutable.HasOwnNames) :
    (ofSources catalog flags mutability).safe.HasOwnNames := by
  apply Table.hasOwnNames_ofList
  intro write hWrite
  rw [Assembly.writes, List.mem_append, List.mem_append] at hWrite
  rcases hWrite with (hImmutable | hListed) | hCatalog
  · exact h.name_of_mem_entries hImmutable
  · obtain ⟨name, _, rfl⟩ := List.mem_map.1 hListed
    rfl
  · obtain ⟨entry, _, rfl⟩ := List.mem_map.1 hCatalog
    rfl

/-- Each key is the name of its record, and no two records have the same name. This holds of a
roster after every run of calls, of the table that it is closed with, and of every registry that
is made with a sound catalog and with immutable types under their own names. Immutable types that
are given by their names or listed by a flag are such types. -/
theorem Registry.keys_name_records (calls : List Roster.Call) {catalog : Catalog}
    (hCatalog : ∀ entry ∈ catalog, ¬ entry.IsDefective) (flags : Flags)
    {mutability : MutationFacts}
    (hImmutable : ∀ name record,
      mutability.immutable.get? name = some record → record.name = name) :
    let roster := ({} : Roster).run calls
    (roster.entries.HasOwnNames ∧
      (roster.entries.entries.map fun entry => entry.2.name).Nodup ∧
      ∀ table, roster.table? = some table → table.HasOwnNames) ∧
    (∃ registry, (assemble catalog flags mutability).1 = .ok registry ∧
      registry.safe.HasOwnNames ∧
      (registry.safe.entries.map fun entry => entry.2.name).Nodup) ∧
    (∀ immutable mutableNames,
      (MutationFacts.ofNames immutable mutableNames).immutable.HasOwnNames) ∧
    ∀ others mutableNames,
      (MutationFacts.ofFlags others mutableNames).immutable.HasOwnNames := by
  intro roster
  have hRoster : roster.entries.HasOwnNames :=
    Roster.hasOwnNames_run Table.hasOwnNames_empty calls
  have hAssemble := fst_assemble catalog flags mutability
  rw [Catalog.firstDefect?_eq_none_iff.2 hCatalog] at hAssemble
  have hSafe := hasOwnNames_safe_ofSources catalog flags hImmutable
  refine ⟨⟨hRoster, hRoster.nodup_map_name, ?_⟩, ⟨_, hAssemble, hSafe, hSafe.nodup_map_name⟩,
    MutationFacts.hasOwnNames_ofNames, ?_⟩
  · intro table hTable
    rw [Roster.eq_entries_of_table? hTable]
    exact hRoster
  · intro others mutableNames
    exact MutationFacts.hasOwnNames_ofNames _ mutableNames

/-- A class and a name that are registered over each other, and a catalog that replaces an immutable
record with parameters by one of its own. -/
theorem Registry.keys_name_records_overwritten :
    let roster := ({} : Roster).run [.enterName "m.Box" ["P"],
      .enterClass ⟨"m.Box", { genericOver := some ["T"] }, []⟩ ["T"], .enterNames ["a", "m.Box"]]
    roster.entries.HasOwnNames ∧
    ∃ registry,
      (assemble [⟨.named "b", ["Q"], none⟩] (.ofList [(Flags.knownThreadSafe, "a,b")])
        (.ofLists [("b", ⟨"b", ["R"]⟩), ("c", ⟨"c", []⟩)] [])).1 = .ok registry ∧
      registry.safe.HasOwnNames ∧
      (registry.safe.entries.map fun entry => entry.2.name).Nodup := by
  intro roster
  have hSound : ∀ entry ∈ ([⟨.named "b", ["Q"], none⟩] : Catalog), ¬ entry.IsDefective := by decide
  have hImmutable : (MutationFacts.ofLists [("b", ⟨"b", ["R"]⟩), ("c", ⟨"c", []⟩)]
      []).immutable.HasOwnNames := Table.hasOwnNames_ofList (by decide)
  have hKeys := keys_name_records [.enterName "m.Box" ["P"],
    .enterClass ⟨"m.Box", { genericOver := some ["T"] }, []⟩ ["T"], .enterNames ["a", "m.Box"]]
    hSound (.ofList [(Flags.knownThreadSafe, "a,b")]) hImmutable
  exact ⟨hKeys.1.1, hKeys.2.1⟩

/-- A record that is given under another name keeps its place, unless a later source has the name. -/
example : (Registry.ofSources [⟨.named "b", [], none⟩] .empty
    (.ofLists [("a", ⟨"x", []⟩), ("b", ⟨"y", []⟩)] [])).safe.entries =
      [("a", ⟨"x", []⟩), ("b", ⟨"b", []⟩)] := by
  decide

end SafeTypes
