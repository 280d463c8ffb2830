import SafeTypes.Proofs.Invocation

/-! What a lookup answers, read off what the user and the catalog say. The registry in
between is not mentioned. -/
namespace SafeTypes

/-- The judgement of a name in words. The last entry of the catalog for the name counts
before the names that the flags list, and these before the names given as mutable. -/
def judgement (catalog : Catalog) (flags : Flags) (mutableNames : List String)
    (name : String) : String :=
  match catalog.findRev? fun entry => entry.name = name with
  | some entry =>
      if entry.containerOf = [] then "safe"
      else "safe if " ++ ", ".intercalate entry.containerOf ++ " safe"
  | none =>
      if name ∈ flags.listOf Flags.knownThreadSafe ∨ name ∈ flags.listOf Flags.knownImmutable
        then "safe"
      else if name ∈ mutableNames then "unsafe"
      else "unknown"

theorem MutationFacts.get?_immutable_ofFlags (flags : Flags) (mutableNames : List String)
    (name : String) :
    (ofFlags flags mutableNames).immutable.get? name =
      if name ∈ flags.listOf Flags.knownImmutable then some ⟨name, []⟩ else none := by
  have hLog := Table.lastWins_ofList
    ((flags.listOf Flags.knownImmutable).map fun name => (name, SafeType.mk name []))
  rw [ofFlags, ofNames, ofLists, hLog.value, Table.lastWrite_map_names]

namespace Registry

theorem verdict_of_some {registry : Registry} {name : String} {record : SafeType}
    (h : registry.safe.get? name = some record) :
    registry.verdict name =
      if record.containerOf = [] then .safe else .safeIf record.containerOf := by
  simp [verdict, h, SafeType.isConditional]

theorem verdict_of_none {registry : Registry} {name : String}
    (h : registry.safe.get? name = none) :
    registry.verdict name = if name ∈ registry.unsafeNames then .notSafe else .unknown := by
  rw [verdict, h]

theorem render_verdict_of_some {registry : Registry} {name : String} {record : SafeType}
    (h : registry.safe.get? name = some record) :
    (registry.verdict name).render =
      if record.containerOf = [] then "safe"
      else "safe if " ++ ", ".intercalate record.containerOf ++ " safe" := by
  rw [verdict_of_some h]
  split <;> rfl

theorem render_verdict_of_none {registry : Registry} {name : String}
    (h : registry.safe.get? name = none) :
    (registry.verdict name).render =
      if name ∈ registry.unsafeNames then "unsafe" else "unknown" := by
  rw [verdict_of_none h]
  split <;> rfl

/-- The record of a name, read off the sources. The order of the listed names does not count. -/
theorem get?_safe_ofSources (catalog : Catalog) (flags : Flags) (mutableNames : List String)
    (name : String) :
    (ofSources catalog flags (.ofFlags flags mutableNames)).safe.get? name =
      match catalog.findRev? fun entry => entry.name = name with
      | some entry => some entry.record
      | none =>
          if name ∈ flags.listOf Flags.knownThreadSafe ∨ name ∈ flags.listOf Flags.knownImmutable
            then some ⟨name, []⟩
          else none := by
  have hSafe : (ofSources catalog flags (.ofFlags flags mutableNames)).safe.get? name = _ :=
    (Table.lastWins_ofList _).value name
  rw [hSafe, Assembly.lastWrite_writes, MutationFacts.get?_immutable_ofFlags]
  cases catalog.findRev? fun entry => entry.name = name with
  | some entry => rfl
  | none =>
      by_cases hExtra : name ∈ flags.listOf Flags.knownThreadSafe
      · simp [hExtra]
      · simp [hExtra]

theorem mem_unsafeNames_ofSources {catalog : Catalog} {flags : Flags}
    {mutableNames : List String} {name : String} :
    name ∈ (ofSources catalog flags (.ofFlags flags mutableNames)).unsafeNames ↔
      name ∈ mutableNames :=
  NameSet.mem_ofList

/-- The verdict of the registry that the sources give is the judgement of the sources. -/
theorem render_verdict_ofSources (catalog : Catalog) (flags : Flags)
    (mutableNames : List String) (name : String) :
    ((ofSources catalog flags (.ofFlags flags mutableNames)).verdict name).render =
      judgement catalog flags mutableNames name := by
  have hSafe := get?_safe_ofSources catalog flags mutableNames name
  rw [judgement]
  cases hEntry : catalog.findRev? fun entry => entry.name = name with
  | some entry =>
      simp only [hEntry] at hSafe
      exact render_verdict_of_some hSafe
  | none =>
      -- A listed name has an unconditional record, whichever of the two flags lists it.
      simp only [hEntry] at hSafe
      by_cases hListed : name ∈ flags.listOf Flags.knownThreadSafe ∨
          name ∈ flags.listOf Flags.knownImmutable
      · rw [if_pos hListed] at hSafe
        rw [render_verdict_of_some hSafe, if_pos rfl, if_pos hListed]
      · rw [if_neg hListed] at hSafe
        rw [render_verdict_of_none hSafe, if_neg hListed]
        simp only [mem_unsafeNames_ofSources]

end Registry

theorem Report.answers_ofSources (catalog : Catalog) (flags : Flags)
    (mutableNames names : List String) :
    answers (.ofSources catalog flags (.ofFlags flags mutableNames)) .plain names =
      String.join (names.map fun name =>
        name ++ ": " ++ judgement catalog flags mutableNames name ++ "\n") := by
  have hAnswer : answer (.ofSources catalog flags (.ofFlags flags mutableNames)) .plain =
      fun name => name ++ ": " ++ judgement catalog flags mutableNames name ++ "\n" := by
    funext name
    rw [answer, Registry.render_verdict_ofSources, Palette.paint]
  rw [answers, hAnswer]

/-- Looking names up succeeds if the flags can be read and the catalog is sound, and writes
one line for each name asked for, in that order. The same holds of each command line that
reads as such a request. -/
theorem Invocation.execute_lookup {items : List String} {flags : Flags}
    (hFlags : Flags.parse items = .ok flags) {catalog : Catalog}
    (hCatalog : ∀ entry ∈ catalog, ¬ entry.IsDefective) (verbosity : Nat)
    (mutableNames names : List String) :
    let lines := names.map fun name =>
      name ++ ": " ++ judgement catalog flags mutableNames name ++ "\n"
    let execution := Invocation.execute catalog .plain
      ⟨verbosity, items, mutableNames, .lookup names⟩
    execution.status = 0 ∧ execution.stdout = String.join lines ∧
    ∀ words clock, CommandLine.parse words =
        .ok ⟨verbosity, items.map some, mutableNames.map some, .lookup names⟩ →
      ∃ stderr, Session.run catalog .plain clock words =
        .ok ⟨0, String.join lines, stderr⟩ := by
  intro lines execution
  have hParse : Flags.parse
      (Invocation.mk verbosity items mutableNames (.lookup names)).flags = .ok flags := hFlags
  have hExecution : execution = _ := execute_of_parse hParse catalog .plain
  rw [Catalog.firstDefect?_eq_none_iff.2 hCatalog] at hExecution
  have hStatus : execution.status = 0 := by rw [hExecution]
  have hStdout : execution.stdout = String.join lines := by
    rw [hExecution]
    exact Report.answers_ofSources catalog flags mutableNames names
  refine ⟨hStatus, hStdout, ?_⟩
  intro words clock hWords
  refine ⟨(execution.transcript clock verbosity).stderr, ?_⟩
  rw [Session.run_of_parse hWords, ← hStatus, ← hStdout]
  rfl

/-- Names in several sources at once, a flag that is given twice, and an entry of the catalog
that another one replaces. -/
theorem Invocation.execute_lookup_overlapping :
    ∃ stderr, Session.run
      [⟨.ofClass ⟨"lib.Box", { genericOver := some ["T"] }, []⟩, ["T"], none⟩,
        ⟨.named "lib.Box", ["K", "V"], none⟩] .plain "00:00:00"
      ["--flag=ThreadSafe:KnownThreadSafe=old.Name",
        "--flag=Immutable:KnownImmutable= lib.Point ,lib.Both",
        "--flag=-XepOpt:ThreadSafe:KnownThreadSafe=lib.Pool,,lib.Box", "--mutable=lib.List",
        "--mutable=lib.Both", "lookup", "lib.Box", "lib.Both", "lib.List", "old.Name", "lib.Box"] =
      .ok ⟨0, "lib.Box: safe if K, V safe\nlib.Both: safe\nlib.List: unsafe\n" ++
        "old.Name: unknown\nlib.Box: safe if K, V safe\n", stderr⟩ := by
  have hFlags : Flags.parse ["ThreadSafe:KnownThreadSafe=old.Name",
      "Immutable:KnownImmutable= lib.Point ,lib.Both",
      "-XepOpt:ThreadSafe:KnownThreadSafe=lib.Pool,,lib.Box"] =
        .ok (.ofList [("ThreadSafe:KnownThreadSafe", "lib.Pool,,lib.Box"),
          ("Immutable:KnownImmutable", " lib.Point ,lib.Both")]) := by decide +kernel
  have hCatalog : ∀ entry ∈ ([⟨.ofClass ⟨"lib.Box", { genericOver := some ["T"] }, []⟩, ["T"],
      none⟩, ⟨.named "lib.Box", ["K", "V"], none⟩] : Catalog), ¬ entry.IsDefective := by decide
  have hLookup := execute_lookup hFlags hCatalog 0 ["lib.List", "lib.Both"]
    ["lib.Box", "lib.Both", "lib.List", "old.Name", "lib.Box"]
  exact hLookup.2.2 _ "00:00:00" (by decide +kernel)

end SafeTypes
