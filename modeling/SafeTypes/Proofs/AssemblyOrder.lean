import SafeTypes.Proofs.RosterRun
import SafeTypes.Registry

/-! The making of a registry. The table of the roster is written over the immutable types,
and this comes to one pass over the three sources in which the last write to a name wins.
What can go wrong on the way is decided by the catalog alone. -/
namespace SafeTypes

theorem Roster.enterNames_of_open {roster : Roster} (h : roster.isClosed = false)
    (names : List String) :
    roster.enterNames names =
      (roster.storeAll (names.map fun name => SafeType.mk name []), none) := by
  have hCall : Call.enterNames names ≠ .close := nofun
  have hAnswer : roster.enterNames names = _ :=
    answer_of_sound h hCall fun _ => Call.not_isDefective_enterNames
  rw [hAnswer, Call.entries, List.map_map]
  rfl

namespace Assembly

/-- The writes of one pass over the sources: the immutable types, the names that the flags
list, and the catalog. -/
def writes (catalog : Catalog) (names : List String) (immutable : Table SafeType) :
    List (String × SafeType) :=
  immutable.entries ++ (names.map fun name => (name, SafeType.mk name [])) ++
    catalog.map fun entry => (entry.name, entry.record)

/-- The roster that the listed names and the sound part of the catalog are entered into. -/
def roster (catalog : Catalog) (names : List String) : Roster :=
  ({} : Roster).storeAll
    ((names.map fun name => SafeType.mk name []) ++ catalog.soundPart.map Catalog.Entry.record)

/-- The listed names are all entered, and the catalog then decides whether the roster is closed
and written over the immutable types. -/
theorem make_eq (catalog : Catalog) (names : List String) (immutable : Table SafeType) :
    make catalog names immutable =
      match catalog.firstDefect? with
      | some defect => ⟨.error (.defective defect), (roster catalog names).log⟩
      | none => .finish immutable (roster catalog names) := by
  have hNew : ({} : Roster).isClosed = false := rfl
  have hNames := Roster.enterNames_of_open hNew names
  have hOpen := Roster.isClosed_storeAll {} (names.map fun name => SafeType.mk name [])
  have hCatalog := Roster.enterCatalog_of_open hOpen catalog
  rw [← Roster.storeAll_append] at hCatalog
  simp only [make, hNames, hCatalog]
  cases catalog.firstDefect? with
  | some defect => rfl
  | none => rfl

theorem lastWins_roster {catalog : Catalog} (h : catalog.firstDefect? = none)
    (names : List String) :
    (roster catalog names).entries.LastWins
      ((names.map fun name => (name, SafeType.mk name [])) ++
        catalog.map fun entry => (entry.name, entry.record)) := by
  have hLog := Table.lastWins_ofList
    (((names.map fun name => SafeType.mk name []) ++ catalog.map Catalog.Entry.record).map
      SafeType.write)
  rw [Table.ofList, ← Roster.entries_storeAll {}, List.map_append, List.map_map,
    List.map_map] at hLog
  rw [roster, Catalog.soundPart_eq_self (Catalog.firstDefect?_eq_none_iff.1 h)]
  exact hLog

/-- The writes of the roster stand behind the immutable types, as if it had no table of its
own. -/
theorem overlay_roster {catalog : Catalog} (h : catalog.firstDefect? = none)
    (names : List String) (immutable : Table SafeType) :
    immutable.overlay (roster catalog names).entries =
      .ofList (writes catalog names immutable) := by
  have hMerged := (Table.lastWins_entries immutable).overlay (lastWins_roster h names)
  rw [← List.append_assoc] at hMerged
  exact hMerged.eq_ofList

/-- The making of the table ends with the first defect of the catalog, or with the table
that one pass over the sources gives. -/
theorem outcome_make (catalog : Catalog) (names : List String) (immutable : Table SafeType) :
    (make catalog names immutable).outcome =
      match catalog.firstDefect? with
      | some defect => .error (.defective defect)
      | none => .ok (.ofList (writes catalog names immutable)) := by
  rw [make_eq]
  cases hDefect : catalog.firstDefect? with
  | some defect => rfl
  | none => simp only [finish, Roster.entries_close, overlay_roster hDefect]

theorem lastWrite_writes (catalog : Catalog) (names : List String)
    (immutable : Table SafeType) (key : String) :
    Table.lastWrite (writes catalog names immutable) key =
      match catalog.findRev? fun entry => entry.name = key with
      | some entry => some entry.record
      | none => if key ∈ names then some ⟨key, []⟩ else immutable.get? key := by
  rw [writes, Table.lastWrite_append, Table.lastWrite_append, Table.lastWrite_map,
    Table.lastWrite_map_names, ← (Table.lastWins_entries immutable).value]
  cases catalog.findRev? fun entry => entry.name = key with
  | some entry => rfl
  | none => by_cases h : key ∈ names <;> simp [h]

theorem map_fst_writes (catalog : Catalog) (names : List String) (immutable : Table SafeType) :
    (writes catalog names immutable).map Prod.fst =
      immutable.names ++ names ++ catalog.map Catalog.Entry.name := by
  simp [writes, Table.names, Function.comp_def]

/-- Assembly is one last-wins pass. With a sound catalog the table is the one that a single
new table becomes when the immutable types, the listed names and the catalog are written
into it in this order. The last entry of the catalog for a name counts before a listed name,
and this before an immutable type, and each name stays where it first came. -/
theorem make_onePass (catalog : Catalog) (names : List String) (immutable : Table SafeType)
    (hCatalog : ∀ entry ∈ catalog, ¬ entry.IsDefective) :
    ∃ safe, (make catalog names immutable).outcome = .ok safe ∧
      safe = .ofList (immutable.entries ++ (names.map fun name => (name, ⟨name, []⟩)) ++
        catalog.map fun entry => (entry.name, entry.record)) ∧
      safe.names = (immutable.names ++ names ++ catalog.map Catalog.Entry.name).eraseDups ∧
      (∀ key, key ∈ safe.names ↔
        key ∈ immutable.names ∨ key ∈ names ∨ ∃ entry ∈ catalog, entry.name = key) ∧
      ∀ key, safe.get? key =
        match catalog.findRev? fun entry => entry.name = key with
        | some entry => some entry.record
        | none => if key ∈ names then some ⟨key, []⟩ else immutable.get? key := by
  have hOutcome := outcome_make catalog names immutable
  rw [Catalog.firstDefect?_eq_none_iff.2 hCatalog] at hOutcome
  have hLog := Table.lastWins_ofList (writes catalog names immutable)
  have hNames := hLog.order
  rw [map_fst_writes] at hNames
  refine ⟨_, hOutcome, rfl, hNames, ?_, ?_⟩
  · intro key
    rw [hNames, List.mem_eraseDups]
    simp only [List.mem_append, List.mem_map, or_assoc]
  · intro key
    rw [hLog.value, lastWrite_writes]

/-- A name from each pair of sources, one that is listed twice, and an immutable type under
a name that is not its own. -/
theorem make_onePass_overlapping :
    ∃ safe, (make
        [⟨.ofClass ⟨"m.Box", { genericOver := some ["T"] }, []⟩, ["T", "T"], none⟩,
          ⟨.named "a", ["P"], none⟩, ⟨.named "m.Box", [], none⟩]
        ["a", "b", "a"] (.ofList [("b", ⟨"x", ["Q"]⟩), ("c", ⟨"y", []⟩)])).outcome = .ok safe ∧
      safe.entries = [("b", ⟨"b", []⟩), ("c", ⟨"y", []⟩), ("a", ⟨"a", ["P"]⟩),
        ("m.Box", ⟨"m.Box", []⟩)] := by
  obtain ⟨safe, hOutcome, hSafe, _⟩ := make_onePass
    [⟨.ofClass ⟨"m.Box", { genericOver := some ["T"] }, []⟩, ["T", "T"], none⟩,
      ⟨.named "a", ["P"], none⟩, ⟨.named "m.Box", [], none⟩]
    ["a", "b", "a"] (.ofList [("b", ⟨"x", ["Q"]⟩), ("c", ⟨"y", []⟩)]) (by decide)
  refine ⟨safe, hOutcome, ?_⟩
  rw [hSafe]
  decide

end Assembly

namespace Registry

/-- The registry that a sound catalog leads to. -/
def ofSources (catalog : Catalog) (flags : Flags) (mutability : MutationFacts) : Registry where
  safe := .ofList (Assembly.writes catalog (flags.listOf Flags.knownThreadSafe)
    mutability.immutable)
  unsafeNames := mutability.mutableNames

theorem fst_assemble (catalog : Catalog) (flags : Flags) (mutability : MutationFacts) :
    (assemble catalog flags mutability).1 =
      match catalog.firstDefect? with
      | some defect => .error (.defective defect)
      | none => .ok (ofSources catalog flags mutability) := by
  rw [assemble, Assembly.outcome_make]
  cases catalog.firstDefect? with
  | some defect => rfl
  | none => rfl

/-- A registry is made exactly if the catalog is sound. Otherwise the answer is the defect
of the first defective entry, which is the same for all flags and all mutable types, and
says which requested parameters that class does not declare. -/
theorem assemble_error_iff_defective (catalog : Catalog) (flags : Flags)
    (mutability : MutationFacts) :
    ((∃ refusal, (assemble catalog flags mutability).1 = .error refusal) ↔
      ∃ entry ∈ catalog, entry.IsDefective) ∧
    ((∃ registry, (assemble catalog flags mutability).1 = .ok registry) ↔
      ∀ entry ∈ catalog, ¬ entry.IsDefective) ∧
    ∀ refusal, (assemble catalog flags mutability).1 = .error refusal →
      refusal.diagnostic.kind = .catalogDefect ∧
      (∃ before entry after target, catalog = before ++ entry :: after ∧
        (∀ earlier ∈ before, ¬ earlier.IsDefective) ∧ entry.IsDefective ∧
        entry.target = .ofClass target ∧
        refusal = .defective
          { typeName := target.qualifiedName
            undeclared := entry.containerOf.eraseDups.filter fun name => name ∉ target.declared
            declared := target.declared }) ∧
      ∀ otherFlags otherMutability,
        (assemble catalog otherFlags otherMutability).1 = .error refusal := by
  simp only [fst_assemble]
  cases hDefect : catalog.firstDefect? with
  | none =>
      have hSound := Catalog.firstDefect?_eq_none_iff.1 hDefect
      refine ⟨⟨?_, ?_⟩, ⟨fun _ => hSound, fun _ => ⟨_, rfl⟩⟩, ?_⟩
      · rintro ⟨refusal, hRefusal⟩
        cases hRefusal
      · rintro ⟨entry, hEntry, hDefective⟩
        exact (hSound entry hEntry hDefective).elim
      · intro refusal hRefusal
        cases hRefusal
  | some defect =>
      obtain ⟨before, entry, after, hSplit, hEntry, hBefore⟩ :=
        Catalog.firstDefect?_eq_some_iff.1 hDefect
      have hMem : entry ∈ catalog := hSplit ▸ List.mem_append_cons_self
      have hDefective : entry.IsDefective := Catalog.Entry.isDefective_of_defect? hEntry
      refine ⟨⟨fun _ => ⟨entry, hMem, hDefective⟩, fun _ => ⟨_, rfl⟩⟩, ⟨?_, ?_⟩, ?_⟩
      · rintro ⟨registry, hRegistry⟩
        cases hRegistry
      · intro hSound
        exact (hSound entry hMem hDefective).elim
      · intro refusal hRefusal
        cases hRefusal
        obtain ⟨target, hTarget, _, rfl⟩ := Catalog.Entry.defect?_eq_some_iff.1 hEntry
        refine ⟨rfl, ⟨before, entry, after, target, hSplit, hBefore, hDefective, hTarget, ?_⟩,
          fun _ _ => rfl⟩
        rw [target.undeclared_eq_filter]

end Registry

end SafeTypes
