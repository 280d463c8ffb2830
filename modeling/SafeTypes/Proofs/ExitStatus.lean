import SafeTypes.Proofs.FlagReading
import SafeTypes.Proofs.Invocation

/-! How a run ends. The flags come before the catalog, and of each the first fault counts. A
run that fails writes nothing and logs its failure as the only error. -/
namespace SafeTypes

/-- No error is among the events. -/
def Log.IsQuiet (log : Log) : Prop :=
  ∀ event ∈ log, event.level ≠ .error

theorem Log.isQuiet_nil : IsQuiet [] :=
  fun _ hEvent => (List.not_mem_nil hEvent).elim

theorem Log.IsQuiet.concat {log : Log} {event : Log.Event} (h : log.IsQuiet)
    (hEvent : event.level ≠ .error) : Log.IsQuiet (log ++ [event]) := by
  intro other hOther
  rcases List.mem_append.1 hOther with hOld | hNew
  · exact h other hOld
  · rw [List.mem_singleton.1 hNew]
    exact hEvent

namespace Roster

theorem isQuiet_log_store {roster : Roster} (h : roster.log.IsQuiet) (record : SafeType) :
    (roster.store record).log.IsQuiet := by
  simp only [store]
  split
  · exact h.concat (by simp [Log.Event.level])
  · exact h

theorem isQuiet_log_storeAll {roster : Roster} (h : roster.log.IsQuiet)
    (records : List SafeType) : (roster.storeAll records).log.IsQuiet := by
  induction records generalizing roster with
  | nil => exact h
  | cons record rest ih => exact ih (isQuiet_log_store h record)

theorem isQuiet_log_close {roster : Roster} (h : roster.log.IsQuiet) :
    roster.close.log.IsQuiet := by
  rw [close]
  split
  · exact h
  · exact h.concat (by simp [Log.Event.level])

end Roster

/-- Nothing that happens while a table is made is logged as an error, even if the catalog turns
out to be defective. -/
theorem Assembly.isQuiet_log_make (catalog : Catalog) (names : List String)
    (immutable : Table SafeType) : (make catalog names immutable).log.IsQuiet := by
  have hEmpty : ({} : Roster).log.IsQuiet := Log.isQuiet_nil
  have hRoster : (roster catalog names).log.IsQuiet := Roster.isQuiet_log_storeAll hEmpty _
  rw [make_eq]
  cases catalog.firstDefect? with
  | some defect => exact hRoster
  | none => exact (Roster.isQuiet_log_close hRoster).concat (by simp [Log.Event.level])

theorem Registry.isQuiet_log_assemble (catalog : Catalog) (flags : Flags)
    (mutability : MutationFacts) : (assemble catalog flags mutability).2.IsQuiet :=
  Assembly.isQuiet_log_make _ _ _

/-- With a malformed flag nothing is made and nothing is written. -/
theorem Invocation.execute_of_fault {invocation : Invocation} {fault : Flags.Fault}
    (h : Flags.parse invocation.flags = .error fault) (catalog : Catalog)
    (palette : Report.Palette) :
    invocation.execute catalog palette = ⟨2, "", [.failed fault.diagnostic]⟩ := by
  simp only [execute, h]
  rfl

/-- How a run with readable flags ends. The first defective entry of the catalog is reported as
the only error, with what its class declares, and with a sound catalog there is no error. -/
def Execution.IsSettledBy (catalog : Catalog) (execution : Execution) : Prop :=
  match catalog.find? fun entry => entry.IsDefective with
  | some entry => ∃ (target : Class) (log : Log), entry.target = .ofClass target ∧
      log.IsQuiet ∧ execution = ⟨1, "", log ++ [.failed (.catalogDefect
        { typeName := target.qualifiedName
          undeclared := entry.containerOf.eraseDups.filter fun name => name ∉ target.declared
          declared := target.declared })]⟩
  | none => execution.status = 0 ∧ execution.log.IsQuiet

theorem Execution.IsSettledBy.status_eq {catalog : Catalog} {execution : Execution}
    (h : execution.IsSettledBy catalog) :
    execution.status = if ∃ entry ∈ catalog, entry.IsDefective then 1 else 0 := by
  rw [IsSettledBy] at h
  cases hFound : catalog.find? fun entry => entry.IsDefective with
  | none =>
      rw [hFound] at h
      rw [if_neg]
      · exact h.1
      · simpa using hFound
  | some entry =>
      rw [hFound] at h
      obtain ⟨_, _, _, _, rfl⟩ := h
      have hDefective : entry.IsDefective := by simpa using List.find?_some hFound
      rw [if_pos ⟨entry, List.mem_of_find?_eq_some hFound, hDefective⟩]

theorem Invocation.isSettledBy_execute {invocation : Invocation} {flags : Flags}
    (h : Flags.parse invocation.flags = .ok flags) (catalog : Catalog)
    (palette : Report.Palette) : (invocation.execute catalog palette).IsSettledBy catalog := by
  have hExecute := execute_of_parse h catalog palette
  have hQuiet := Registry.isQuiet_log_assemble catalog flags
    (.ofFlags flags invocation.mutableNames)
  rw [Catalog.firstDefect?_eq_bind_find?] at hExecute
  rw [Execution.IsSettledBy]
  cases hFound : catalog.find? fun entry => entry.IsDefective with
  | none =>
      rw [hFound] at hExecute
      rw [hExecute]
      exact ⟨rfl, hQuiet⟩
  | some entry =>
      have hDefective : entry.IsDefective := by simpa using List.find?_some hFound
      obtain ⟨target, hTarget, hDefect⟩ := Catalog.Entry.defect?_of_isDefective hDefective
      rw [hFound, Option.bind_some, hDefect] at hExecute
      exact ⟨target, _, hTarget, hQuiet, hExecute⟩

/-- How a run ends whose flags are the items. The first malformed one is status 2 and all that is
logged. Without one the catalog decides between the statuses 1 and 0. -/
def Execution.IsDecidedBy (items : List String) (catalog : Catalog) (execution : Execution) :
    Prop :=
  match items.find? fun item => Flags.IsMalformed item with
  | some item => execution = ⟨2, "", [.failed (Flags.Fault.missingName item).diagnostic]⟩
  | none => execution.IsSettledBy catalog

theorem Invocation.isDecidedBy_execute (invocation : Invocation) (catalog : Catalog)
    (palette : Report.Palette) :
    (invocation.execute catalog palette).IsDecidedBy invocation.flags catalog := by
  rw [Execution.IsDecidedBy]
  cases hFlags : invocation.flags.find? fun item => Flags.IsMalformed item with
  | some item => exact execute_of_fault (Flags.parse_of_malformed hFlags) catalog palette
  | none =>
      obtain ⟨flags, hParse⟩ := Flags.parse_of_wellFormed hFlags
      exact isSettledBy_execute hParse catalog palette

namespace CommandLine.Arguments

variable {catalog : Catalog} {palette : Report.Palette} {arguments : Arguments}

/-- A run that has a status is the one of an invocation. -/
theorem isDecidedBy_of_execute {execution : Execution}
    (h : arguments.execute catalog palette = .ok execution) :
    execution.IsDecidedBy (given arguments.flags) catalog := by
  rw [execute] at h
  split at h
  · cases h
  · rw [← Except.ok.inj h]
    exact arguments.invocation.isDecidedBy_execute catalog palette

/-- A malformed flag in front of any missing one ends a run before a missing value can break it
off. -/
theorem exists_execute_iff :
    (∃ execution, arguments.execute catalog palette = .ok execution) ↔
      (none ∉ arguments.flags ∧ none ∉ arguments.mutableNames) ∨
        ∃ item ∈ given arguments.flags, Flags.IsMalformed item := by
  cases hParse : Flags.parse (given arguments.flags) with
  | error fault =>
      have hMissing : arguments.missing? = none := by rw [missing?, hParse]
      have hMalformed := Flags.exists_parse_error_iff.1 ⟨fault, hParse⟩
      exact ⟨fun _ => .inr hMalformed, fun _ => ⟨_, by rw [execute, hMissing]⟩⟩
  | ok flags =>
      have hSound : ¬ ∃ item ∈ given arguments.flags, Flags.IsMalformed item := by
        rw [← Flags.exists_parse_error_iff, hParse]
        rintro ⟨fault, hFault⟩
        cases hFault
      rw [execute_of_parse hParse, or_iff_left hSound]
      by_cases hFlag : none ∈ arguments.flags
      · simp [hFlag]
      · by_cases hName : none ∈ arguments.mutableNames
        · simp [hFlag, hName]
        · simp [hFlag, hName]

/-- With all values there a run has a status, which the flags and then the catalog decide on. A
run is broken off exactly if a value is missing and no flag in front of any missing one is
malformed. Each other run ends as the flags in front of any missing one and the catalog say. -/
theorem execute_ending (catalog : Catalog) (palette : Report.Palette) :
    (∀ verbosity (items mutableNames : List String) command, ∃ execution,
      execute catalog palette ⟨verbosity, items.map some, mutableNames.map some, command⟩ =
        .ok execution ∧ execution.IsDecidedBy items catalog) ∧
    ∀ arguments : Arguments,
      ((∀ execution, arguments.execute catalog palette ≠ .ok execution) ↔
        (none ∈ arguments.flags ∨ none ∈ arguments.mutableNames) ∧
          ∀ item ∈ given arguments.flags, ¬ Flags.IsMalformed item) ∧
      ∀ execution, arguments.execute catalog palette = .ok execution →
        execution.IsDecidedBy (given arguments.flags) catalog := by
  constructor
  · intro verbosity items mutableNames command
    let invocation : Invocation := ⟨verbosity, items, mutableNames, command⟩
    exact ⟨_, execute_map_some catalog palette verbosity items mutableNames command,
      invocation.isDecidedBy_execute catalog palette⟩
  · intro arguments
    refine ⟨?_, fun execution => isDecidedBy_of_execute⟩
    rw [← not_exists, exists_execute_iff, not_or, not_and_or, not_not, not_not]
    simp only [not_exists, not_and]

/-- Without the value of either option a command line can still be read, have no malformed flag
and meet a sound catalog, and its run has no status. -/
theorem execute_brokenOff :
    (∀ entry ∈ ([⟨.named "a", [], none⟩] : Catalog), ¬ entry.IsDefective) ∧
    (∃ arguments, parse ["--mutable=--", "list"] = .ok arguments ∧ arguments.flags = [] ∧
      ∀ execution, arguments.execute [⟨.named "a", [], none⟩] .plain ≠ .ok execution) ∧
    ∃ arguments, parse ["--flag=--", "list"] = .ok arguments ∧ given arguments.flags = [] ∧
      ∀ execution, arguments.execute [⟨.named "a", [], none⟩] .plain ≠ .ok execution := by
  refine ⟨by decide, ⟨⟨0, [], [none], .list .text false⟩, by decide +kernel, rfl, ?_⟩,
    ⟨0, [none], [], .list .text false⟩, by decide +kernel, rfl, ?_⟩
  · intro execution hExecution
    cases hExecution
  · intro execution hExecution
    cases hExecution

end CommandLine.Arguments

end SafeTypes
