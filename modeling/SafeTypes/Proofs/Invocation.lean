import SafeTypes.Proofs.AssemblyOrder
import SafeTypes.Session

/-! Carrying out an invocation, told apart by the flags and then by the catalog. -/
namespace SafeTypes

/-- With readable flags an invocation reports the first defect of the catalog, or writes
what its command has to say of the registry that the sources give. -/
theorem Invocation.execute_of_parse {invocation : Invocation} {flags : Flags}
    (h : Flags.parse invocation.flags = .ok flags) (catalog : Catalog)
    (palette : Report.Palette) :
    let mutability := MutationFacts.ofFlags flags invocation.mutableNames
    let log := (Registry.assemble catalog flags mutability).2
    invocation.execute catalog palette =
      match catalog.firstDefect? with
      | some defect => .failed 1 log (.catalogDefect defect)
      | none => ⟨0, invocation.command.report
          (Registry.ofSources catalog flags mutability) palette, log⟩ := by
  intro mutability log
  have hAssemble : Registry.assemble catalog flags mutability =
      (match catalog.firstDefect? with
        | some defect => .error (.defective defect)
        | none => .ok (Registry.ofSources catalog flags mutability), log) :=
    Prod.ext (Registry.fst_assemble catalog flags mutability) rfl
  simp only [execute, h, hAssemble, mutability]
  cases catalog.firstDefect? with
  | some defect => rfl
  | none => rfl

/-- With a sound catalog as well, each command succeeds. -/
theorem Invocation.execute_of_sound {items : List String} {flags : Flags}
    (hFlags : Flags.parse items = .ok flags) {catalog : Catalog}
    (hCatalog : ∀ entry ∈ catalog, ¬ entry.IsDefective) (verbosity : Nat)
    (palette : Report.Palette) (mutableNames : List String) (command : CommandLine.Command) :
    let execution := execute catalog palette ⟨verbosity, items, mutableNames, command⟩
    execution.status = 0 ∧ execution.stdout = command.report
      (Registry.ofSources catalog flags (.ofFlags flags mutableNames)) palette := by
  intro execution
  have hParse : Flags.parse
      (Invocation.mk verbosity items mutableNames command).flags = .ok flags := hFlags
  have hExecution : execution = _ := execute_of_parse hParse catalog palette
  rw [Catalog.firstDefect?_eq_none_iff.2 hCatalog] at hExecution
  rw [hExecution]
  exact ⟨rfl, rfl⟩

namespace CommandLine.Arguments

theorem given_map_some (values : List String) : given (values.map some) = values := by
  induction values with
  | nil => rfl
  | cons value rest ih =>
      rw [given] at ih ⊢
      rw [List.map_cons, List.takeWhile_cons_of_pos rfl, List.filterMap_cons, ih]
      rfl

/-- With readable flags a missing flag breaks the run off before a missing name does. -/
theorem execute_of_parse {arguments : Arguments} {flags : Flags}
    (h : Flags.parse (given arguments.flags) = .ok flags) (catalog : Catalog)
    (palette : Report.Palette) :
    arguments.execute catalog palette =
      if none ∈ arguments.flags then .error .flag
      else if none ∈ arguments.mutableNames then .error .mutableName
      else .ok (arguments.invocation.execute catalog palette) := by
  simp only [execute, missing?, h]
  by_cases hFlag : none ∈ arguments.flags
  · rw [if_pos hFlag, if_pos hFlag]
  · by_cases hName : none ∈ arguments.mutableNames
    · rw [if_neg hFlag, if_pos hName, if_neg hFlag, if_pos hName]
    · rw [if_neg hFlag, if_neg hName, if_neg hFlag, if_neg hName]

/-- Arguments whose values are all there are carried out as an invocation. -/
theorem execute_map_some (catalog : Catalog) (palette : Report.Palette) (verbosity : Nat)
    (items mutableNames : List String) (command : Command) :
    execute catalog palette ⟨verbosity, items.map some, mutableNames.map some, command⟩ =
      .ok (Invocation.execute catalog palette ⟨verbosity, items, mutableNames, command⟩) := by
  have hMissing :
      missing? ⟨verbosity, items.map some, mutableNames.map some, command⟩ = none := by
    rw [missing?]
    split
    · rfl
    · simp
  rw [execute, hMissing, invocation, given_map_some, given_map_some]

end CommandLine.Arguments

/-- The program carries out what its words are read as. -/
theorem Session.run_of_parse {words items mutableNames : List String} {verbosity : Nat}
    {command : CommandLine.Command}
    (h : CommandLine.parse words =
      .ok ⟨verbosity, items.map some, mutableNames.map some, command⟩)
    (catalog : Catalog) (palette : Report.Palette) (clock : String) :
    run catalog palette clock words =
      .ok ((Invocation.execute catalog palette
        ⟨verbosity, items, mutableNames, command⟩).transcript clock verbosity) := by
  rw [run, h]
  change (CommandLine.Arguments.execute catalog palette _).map _ = _
  rw [CommandLine.Arguments.execute_map_some]
  rfl

end SafeTypes
