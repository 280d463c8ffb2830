import SafeTypes.Proofs.ExitStatus
import SafeTypes.Proofs.Settings

/-! What the verbosity decides. A run is the same at every verbosity, and its log is shown in part.
Each verbose switch in front of a command line raises the verbosity by one and does nothing else. -/
namespace SafeTypes

namespace Log

theorem shown_zero (log : Log) : log.shown 0 = log.filter fun event => event.level = .error := by
  refine List.filter_congr ?_
  intro event _
  cases event.level <;> rfl

theorem shown_one (log : Log) :
    log.shown 1 = log.filter fun event => event.level = .info ∨ event.level = .error := by
  refine List.filter_congr ?_
  intro event _
  cases event.level <;> rfl

/-- From two on nothing is left out. -/
theorem shown_add_two (verbosity : Nat) (log : Log) : log.shown (verbosity + 2) = log := by
  refine List.filter_eq_self.2 ?_
  intro event _
  cases event.level <;> simp [Level.isShown]

/-- Without errors the log of a run that shows errors only is empty. -/
theorem IsQuiet.shown_zero {log : Log} (h : log.IsQuiet) : log.shown 0 = [] := by
  rw [Log.shown_zero, List.filter_eq_nil_iff]
  intro event hEvent
  simpa using h event hEvent

end Log

theorem Invocation.isQuiet_of_success {invocation : Invocation} {catalog : Catalog}
    {palette : Report.Palette} (h : (invocation.execute catalog palette).status = 0) :
    (invocation.execute catalog palette).log.IsQuiet := by
  cases hFlags : Flags.parse invocation.flags with
  | error fault =>
      rw [execute_of_fault hFlags] at h
      cases h
  | ok flags =>
      have hSettled := isSettledBy_execute hFlags catalog palette
      rw [Execution.IsSettledBy] at hSettled
      split at hSettled
      · obtain ⟨_, _, _, _, hFailed⟩ := hSettled
        rw [hFailed] at h
        cases h
      · exact hSettled.2

namespace CommandLine

/-- More of the log is asked for, and nothing else. -/
def Arguments.louder (arguments : Arguments) (count : Nat) : Arguments :=
  { arguments with verbosity := count + arguments.verbosity }

/-- Settings that ask for more of the log add nothing else. -/
theorem Arguments.behind_replicate_verbose (arguments : Arguments) (count : Nat) :
    arguments.behind (List.replicate count .verbose) = arguments.louder count := by
  have hCount : (List.replicate count Setting.verbose).count .verbose = count :=
    List.count_replicate_self
  have hFlags : (List.replicate count Setting.verbose).filterMap Setting.flag? = [] :=
    List.filterMap_replicate_of_none rfl
  have hNames : (List.replicate count Setting.verbose).filterMap Setting.mutableName? = [] :=
    List.filterMap_replicate_of_none rfl
  rw [behind, hCount, hFlags, hNames]
  rfl

/-- Verbose switches in front change nothing but the verbosity, also where the rest of the words
is not carried out. -/
theorem parse_replicate_verbose (count : Nat) (words : List String) :
    parse (List.replicate count "-v" ++ words) = (parse words).map (·.louder count) := by
  have hWords : List.replicate count "-v" =
      (List.replicate count Setting.verbose).map Setting.word := by
    rw [List.map_replicate]
    rfl
  have hWritable : ∀ setting ∈ List.replicate count Setting.verbose, setting.IsWritable := by
    intro setting hSetting
    rw [List.eq_of_mem_replicate hSetting]
    trivial
  rw [hWords, parse_settings hWritable]
  simp only [Arguments.behind_replicate_verbose]

end CommandLine

/-- The part of a log that is shown at a verbosity: the errors, then also what is told in passing,
and from two on everything. -/
theorem Log.shown_eq (verbosity : Nat) (log : Log) :
    log.shown verbosity = match verbosity with
      | 0 => log.filter fun event => event.level = .error
      | 1 => log.filter fun event => event.level = .info ∨ event.level = .error
      | _ + 2 => log := by
  match verbosity with
  | 0 => exact log.shown_zero
  | 1 => exact log.shown_one
  | verbosity + 2 => exact log.shown_add_two verbosity

/-- A successful carried out run has no error in its log. -/
theorem CommandLine.Arguments.isQuiet_of_success {arguments : Arguments} {catalog : Catalog}
    {palette : Report.Palette} {execution : Execution}
    (h : arguments.execute catalog palette = .ok execution) (hStatus : execution.status = 0) :
    execution.log.IsQuiet := by
  rw [execute] at h
  cases hMissing : arguments.missing? with
  | some missing =>
      rw [hMissing] at h
      cases h
  | none =>
      rw [hMissing] at h
      cases h
      exact Invocation.isQuiet_of_success hStatus

/-- The verbosity is read only to show the log. -/
theorem Session.run_of_verbosity {arguments : CommandLine.Arguments} {verbosity : Nat}
    {words : List String}
    (h : CommandLine.parse words = .ok { arguments with verbosity := verbosity })
    (catalog : Catalog) (palette : Report.Palette) (clock : String) :
    run catalog palette clock words =
      (arguments.execute catalog palette).map (·.transcript clock verbosity) := by
  rw [run, h]
  rfl

/-- Runs whose arguments agree up to the verbosity come to the same end, be it a carried out
command, a fault or a missing value. They differ in the part of the one log that they show. Without
a verbose switch that is nothing if the run succeeds. More verbose switches in front of a command
line give such arguments. -/
theorem Session.run_verbosity (catalog : Catalog) (palette : Report.Palette)
    (arguments : CommandLine.Arguments) :
    let outcome := arguments.execute catalog palette
    (∀ (verbosity : Nat) (clock : String) (words : List String),
      CommandLine.parse words = .ok { arguments with verbosity := verbosity } →
      run catalog palette clock words = outcome.map fun execution =>
        ⟨execution.status, execution.stdout, Log.lines clock <| match verbosity with
          | 0 => execution.log.filter fun event => event.level = .error
          | 1 => execution.log.filter fun event => event.level = .info ∨ event.level = .error
          | _ + 2 => execution.log⟩) ∧
    (∀ (clock : String) (words : List String) (transcript : Transcript),
      CommandLine.parse words = .ok { arguments with verbosity := 0 } →
      run catalog palette clock words = .ok transcript → transcript.status = 0 →
      transcript.stderr = "") ∧
    ∀ (count : Nat) (words : List String), CommandLine.parse words = .ok arguments →
      CommandLine.parse (List.replicate count "-v" ++ words) =
        .ok { arguments with verbosity := count + arguments.verbosity } := by
  intro outcome
  refine ⟨?_, ?_, ?_⟩
  · intro verbosity clock words hParse
    rw [run_of_verbosity hParse]
    simp only [Execution.transcript, Log.shown_eq, outcome]
  · intro clock words transcript hParse hRun hStatus
    rw [run_of_verbosity hParse] at hRun
    cases hExecution : arguments.execute catalog palette with
    | error missing =>
        rw [hExecution] at hRun
        cases hRun
    | ok execution =>
        rw [hExecution] at hRun
        cases hRun
        have hQuiet := CommandLine.Arguments.isQuiet_of_success hExecution hStatus
        change Log.lines clock (execution.log.shown 0) = ""
        rw [hQuiet.shown_zero]
        rfl
  · intro count words hParse
    rw [CommandLine.parse_replicate_verbose, hParse]
    rfl

/-- A run in which an entry is overwritten, at the verbosities 0, 1 and 3. -/
theorem Session.run_verbosity_overwritten :
    let run (words : List String) :=
      Session.run [⟨.named "a", [], none⟩, ⟨.named "a", [], none⟩] .plain "09:00:00" words
    let overwritten := "09:00:00 [DEBUG] threadsafety_registry.builder: Overriding " ++
      (SafeType.mk "a" []).render ++ " with " ++ (SafeType.mk "a" []).render ++ "\n"
    let closed := "09:00:00 [DEBUG] threadsafety_registry.builder: " ++
      "Built thread-safe type table with 1 entries\n"
    let assembled := "09:00:00 [INFO ] threadsafety_registry.well_known: " ++
      "Assembled 1 known thread-safe types (0 from the immutable-types table)\n"
    run ["lookup", "a"] = .ok ⟨0, "a: safe\n", ""⟩ ∧
      run ["-v", "lookup", "a"] = .ok ⟨0, "a: safe\n", assembled⟩ ∧
      run ["-v", "-v", "-v", "lookup", "a"] =
        .ok ⟨0, "a: safe\n", overwritten ++ closed ++ assembled⟩ := by
  intro run overwritten closed assembled
  have hParse : CommandLine.parse ["lookup", "a"] = .ok ⟨0, [], [], .lookup ["a"]⟩ := by
    decide +kernel
  obtain ⟨hRun, _, hMore⟩ := run_verbosity
    [⟨.named "a", [], none⟩, ⟨.named "a", [], none⟩] .plain ⟨0, [], [], .lookup ["a"]⟩
  refine ⟨?_, ?_, ?_⟩
  · exact (hRun 0 "09:00:00" _ hParse).trans (by decide +kernel)
  · exact (hRun 1 "09:00:00" _ (hMore 1 _ hParse)).trans (by decide +kernel)
  · exact (hRun 3 "09:00:00" _ (hMore 3 _ hParse)).trans (by decide +kernel)

end SafeTypes
