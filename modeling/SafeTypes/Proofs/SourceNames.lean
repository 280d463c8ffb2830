import SafeTypes.Proofs.Increasing
import SafeTypes.Proofs.Lookup

/-! What the output of a run depends on. Of the flags and the names of mutable types only the
sets of names count, so neither their order nor how often a name is given can be seen. -/
namespace SafeTypes

/-- Registries agree if they give each name the same record and call the same names unsafe. The
order of their tables may differ. -/
structure Registry.Agrees (first second : Registry) : Prop where
  safe : ∀ name, first.safe.get? name = second.safe.get? name
  unsafeNames : first.unsafeNames = second.unsafeNames

namespace Registry.Agrees

variable {first second : Registry}

theorem sorted (h : first.Agrees second) : first.safe.sorted = second.safe.sorted :=
  Table.sorted_congr h.safe

theorem size (h : first.Agrees second) : first.safe.size = second.safe.size := by
  rw [← Table.length_sorted, h.sorted, Table.length_sorted]

theorem verdict (h : first.Agrees second) : first.verdict = second.verdict := by
  funext name
  simp only [Registry.verdict, h.safe, h.unsafeNames]

theorem safeTypes (h : first.Agrees second) (palette : Report.Palette)
    (format : Report.Format) :
    Report.safeTypes first palette format = Report.safeTypes second palette format := by
  cases format with
  | text => simp only [Report.safeTypes, h.sorted, h.size]
  | json => simp only [Report.safeTypes, h.sorted]

theorem unsafeTypes (h : first.Agrees second) (palette : Report.Palette)
    (format : Report.Format) :
    Report.unsafeTypes first palette format = Report.unsafeTypes second palette format := by
  cases format with
  | text => simp only [Report.unsafeTypes, h.unsafeNames]
  | json => simp only [Report.unsafeTypes, h.unsafeNames]

theorem answers (h : first.Agrees second) (palette : Report.Palette) (names : List String) :
    Report.answers first palette names = Report.answers second palette names := by
  have hAnswer : Report.answer first palette = Report.answer second palette := by
    funext name
    simp only [Report.answer, h.verdict]
  rw [Report.answers, hAnswer, Report.answers]

/-- No command tells agreeing registries apart. -/
theorem report (h : first.Agrees second) (palette : Report.Palette)
    (command : CommandLine.Command) :
    command.report first palette = command.report second palette := by
  cases command with
  | list format showUnsafe =>
      cases showUnsafe with
      | false => exact h.safeTypes palette format
      | true => exact h.unsafeTypes palette format
  | lookup names => exact h.answers palette names

end Registry.Agrees

/-- What a run shows besides its log. -/
def Execution.result (execution : Execution) : Nat × String :=
  (execution.status, execution.stdout)

def Transcript.result (transcript : Transcript) : Nat × String :=
  (transcript.status, transcript.stdout)

/-- Neither the clock nor the verbosity can be seen in what a run shows besides its log. -/
theorem Session.map_result_run {words : List String} {arguments : CommandLine.Arguments}
    (h : CommandLine.parse words = .ok arguments) (catalog : Catalog)
    (palette : Report.Palette) (clock : String) :
    (run catalog palette clock words).map Transcript.result =
      (arguments.execute catalog palette).map Execution.result := by
  simp only [run, h]
  cases arguments.execute catalog palette with
  | error missing => rfl
  | ok execution => rfl

section SameNames

variable {firstFlags secondFlags : Flags}
  (hSafe : ∀ name, name ∈ firstFlags.listOf Flags.knownThreadSafe ↔
    name ∈ secondFlags.listOf Flags.knownThreadSafe)
  (hImmutable : ∀ name, name ∈ firstFlags.listOf Flags.knownImmutable ↔
    name ∈ secondFlags.listOf Flags.knownImmutable)

include hSafe hImmutable

theorem Registry.agrees_ofSources (catalog : Catalog) {firstNames secondNames : List String}
    (hMutable : ∀ name, name ∈ firstNames ↔ name ∈ secondNames) :
    (ofSources catalog firstFlags (.ofFlags firstFlags firstNames)).Agrees
      (ofSources catalog secondFlags (.ofFlags secondFlags secondNames)) where
  safe name := by simp only [get?_safe_ofSources, hSafe, hImmutable]
  unsafeNames := by
    refine NameSet.eq_of_mem_iff fun name => ?_
    rw [mem_unsafeNames_ofSources, mem_unsafeNames_ofSources, hMutable]

theorem Invocation.execute_congr {first second : Invocation}
    (hFirst : Flags.parse first.flags = .ok firstFlags)
    (hSecond : Flags.parse second.flags = .ok secondFlags)
    (hMutable : ∀ name, name ∈ first.mutableNames ↔ name ∈ second.mutableNames)
    (hCommand : first.command = second.command) (catalog : Catalog)
    (palette : Report.Palette) :
    (first.execute catalog palette).result = (second.execute catalog palette).result := by
  have hAgrees := Registry.agrees_ofSources hSafe hImmutable catalog hMutable
  rw [execute_of_parse hFirst, execute_of_parse hSecond]
  cases catalog.firstDefect? with
  | some defect => rfl
  | none =>
      rw [Execution.result, Execution.result, hCommand, hAgrees.report]

end SameNames

namespace CommandLine.Arguments

theorem mem_given_iff {values : List (Option String)} (h : none ∉ values) (name : String) :
    name ∈ given values ↔ some name ∈ values := by
  induction values with
  | nil => exact iff_of_false List.not_mem_nil List.not_mem_nil
  | cons value rest ih =>
      rw [List.mem_cons, not_or] at h
      cases value with
      | none => exact (h.1 rfl).elim
      | some value =>
          have hGiven : given (some value :: rest) = value :: given rest := rfl
          rw [hGiven, List.mem_cons, List.mem_cons, Option.some.injEq, ih h.2]

/-- Arguments with the same command have the same result if the two flags that the table is
made from list the same names and the names of mutable types are the same. Neither order nor
repetition counts, nor what other flags there are, nor how much of the log is asked for. There
is a result unless the name of a mutable type is missing. -/
theorem result_congr {first second : Arguments} {firstItems secondItems : List String}
    {firstFlags secondFlags : Flags}
    (hFirstItems : first.flags = firstItems.map some)
    (hSecondItems : second.flags = secondItems.map some)
    (hFirst : Flags.parse firstItems = .ok firstFlags)
    (hSecond : Flags.parse secondItems = .ok secondFlags)
    (hSafe : ∀ name, name ∈ firstFlags.listOf Flags.knownThreadSafe ↔
      name ∈ secondFlags.listOf Flags.knownThreadSafe)
    (hImmutable : ∀ name, name ∈ firstFlags.listOf Flags.knownImmutable ↔
      name ∈ secondFlags.listOf Flags.knownImmutable)
    (hMutable : ∀ name, name ∈ first.mutableNames ↔ name ∈ second.mutableNames)
    (hCommand : first.command = second.command) (catalog : Catalog)
    (palette : Report.Palette) :
    (none ∉ first.mutableNames → ∃ execution, first.execute catalog palette = .ok execution) ∧
      (first.execute catalog palette).map Execution.result =
        (second.execute catalog palette).map Execution.result ∧
      ∀ firstWords secondWords firstClock secondClock,
        parse firstWords = .ok first → parse secondWords = .ok second →
        (Session.run catalog palette firstClock firstWords).map Transcript.result =
          (Session.run catalog palette secondClock secondWords).map Transcript.result := by
  have hFirstGiven : Flags.parse (given first.flags) = .ok firstFlags := by
    rw [hFirstItems, given_map_some, hFirst]
  have hSecondGiven : Flags.parse (given second.flags) = .ok secondFlags := by
    rw [hSecondItems, given_map_some, hSecond]
  have hFirstExecute := execute_of_parse hFirstGiven catalog palette
  have hSecondExecute := execute_of_parse hSecondGiven catalog palette
  rw [if_neg (by simp [hFirstItems])] at hFirstExecute
  rw [if_neg (by simp [hSecondItems])] at hSecondExecute
  have hResult : (first.execute catalog palette).map Execution.result =
      (second.execute catalog palette).map Execution.result := by
    rw [hFirstExecute, hSecondExecute]
    -- What is missing counts as a name here, so both runs break off or none does.
    by_cases hNone : none ∈ first.mutableNames
    · rw [if_pos hNone, if_pos ((hMutable none).1 hNone)]
    · have hNoneSecond : none ∉ second.mutableNames := fun h => hNone ((hMutable none).2 h)
      have hNames (name : String) :
          name ∈ first.invocation.mutableNames ↔ name ∈ second.invocation.mutableNames := by
        change name ∈ given first.mutableNames ↔ name ∈ given second.mutableNames
        rw [mem_given_iff hNone, mem_given_iff hNoneSecond, hMutable]
      rw [if_neg hNone, if_neg hNoneSecond]
      exact congrArg Except.ok (Invocation.execute_congr hSafe hImmutable hFirstGiven
        hSecondGiven hNames hCommand catalog palette)
  refine ⟨fun hNone => ⟨_, hFirstExecute.trans (if_neg hNone)⟩, hResult, ?_⟩
  intro firstWords secondWords firstClock secondClock hFirstWords hSecondWords
  rw [Session.map_result_run hFirstWords, Session.map_result_run hSecondWords, hResult]

/-- The same names in another order and some of them twice, a list that is empty and one that is
unset, and more of the log. -/
theorem result_congr_reordered :
    (Session.run [⟨.named "lib.B", ["T"], none⟩] .plain "00:00:00"
      ["--flag=ThreadSafe:KnownThreadSafe=lib.A,lib.B", "--mutable=lib.C", "--mutable=lib.D",
        "list", "--format=json"]).map Transcript.result =
    (Session.run [⟨.named "lib.B", ["T"], none⟩] .plain "12:34:56"
      ["-vv", "--mutable=lib.D", "--flag=Immutable:KnownImmutable=,", "--mutable=lib.C",
        "--flag=-XepOpt:ThreadSafe:KnownThreadSafe= lib.B ,lib.A,lib.B", "--mutable=lib.D",
        "list", "--format=json"]).map Transcript.result := by
  have hFirstFlags :
      (Arguments.mk 0 [some "ThreadSafe:KnownThreadSafe=lib.A,lib.B"]
        [some "lib.C", some "lib.D"] (.list .json false)).flags =
      ["ThreadSafe:KnownThreadSafe=lib.A,lib.B"].map some := rfl
  have hSecondFlags :
      (Arguments.mk 2 [some "Immutable:KnownImmutable=,",
          some "-XepOpt:ThreadSafe:KnownThreadSafe= lib.B ,lib.A,lib.B"]
        [some "lib.D", some "lib.C", some "lib.D"] (.list .json false)).flags =
      ["Immutable:KnownImmutable=,",
        "-XepOpt:ThreadSafe:KnownThreadSafe= lib.B ,lib.A,lib.B"].map some := rfl
  have hFirst : Flags.parse ["ThreadSafe:KnownThreadSafe=lib.A,lib.B"] =
      .ok (.ofList [("ThreadSafe:KnownThreadSafe", "lib.A,lib.B")]) := by decide +kernel
  have hSecond : Flags.parse ["Immutable:KnownImmutable=,",
        "-XepOpt:ThreadSafe:KnownThreadSafe= lib.B ,lib.A,lib.B"] =
      .ok (.ofList [("Immutable:KnownImmutable", ","),
        ("ThreadSafe:KnownThreadSafe", " lib.B ,lib.A,lib.B")]) := by decide +kernel
  have hListed : (Flags.ofList [("ThreadSafe:KnownThreadSafe", "lib.A,lib.B")]).listOf
        Flags.knownThreadSafe = ["lib.A", "lib.B"] ∧
      (Flags.ofList [("Immutable:KnownImmutable", ","),
        ("ThreadSafe:KnownThreadSafe", " lib.B ,lib.A,lib.B")]).listOf
        Flags.knownThreadSafe = ["lib.B", "lib.A", "lib.B"] := by decide +kernel
  have hImmutable : (Flags.ofList [("ThreadSafe:KnownThreadSafe", "lib.A,lib.B")]).listOf
        Flags.knownImmutable = [] ∧
      (Flags.ofList [("Immutable:KnownImmutable", ","),
        ("ThreadSafe:KnownThreadSafe", " lib.B ,lib.A,lib.B")]).listOf
        Flags.knownImmutable = [] := by decide +kernel
  have hResult := result_congr hFirstFlags hSecondFlags hFirst hSecond
    (by simp [hListed, or_comm]) (by simp [hImmutable]) (by simp [or_comm]) rfl
    [⟨.named "lib.B", ["T"], none⟩] .plain
  exact hResult.2.2 _ _ _ _ (by decide +kernel) (by decide +kernel)

end CommandLine.Arguments

end SafeTypes
