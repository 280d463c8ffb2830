import SafeTypes.Proofs.Increasing
import SafeTypes.Proofs.JsonRoundTrip
import SafeTypes.Proofs.Lookup
import SafeTypes.Proofs.OwnNames
import SafeTypes.Proofs.TextListing

/-! The listings in JSON against the answers about single types. A listing shows the records
without the names that they are listed by, so the two agree only since each record stands under
its own name. An answer shows its parameters joined, so of a listed record it tells no more than
the joined text. -/
namespace SafeTypes

namespace Json

theorem text_injective : Function.Injective text :=
  fun _ _ h => text.inj h

theorem texts_injective : Function.Injective texts :=
  fun _ _ h => text_injective.list_map (array.inj h)

end Json

theorem SafeType.toJson_injective : Function.Injective SafeType.toJson := by
  intro first second h
  cases first
  cases second
  have hFields := Json.object.inj h
  simp only [List.cons.injEq, Prod.mk.injEq, Json.text.injEq, true_and, and_true] at hFields
  rw [hFields.1, Json.texts_injective hFields.2]

namespace Report

/-- The line that gives a text as the answer about a name. -/
def answerLine (palette : Palette) (name text : String) : String :=
  name ++ ": " ++ palette.paint (verdictColour text) text ++ "\n"

theorem Colour.length_number (colour : Colour) : colour.number.toList.length = 2 := by
  cases colour <;> rfl

/-- The colours may differ too, but their numbers are equally long. -/
theorem Palette.paint_inj {palette : Palette} {colour other : Colour} {text otherText : String}
    (h : palette.paint colour text = palette.paint other otherText) : text = otherText := by
  cases palette with
  | plain => exact h
  | coloured =>
      rw [paint, paint, String.append_left_inj] at h
      have hText : colour.number.toList ++ ('m' :: text.toList) =
          other.number.toList ++ ('m' :: otherText.toList) := by
        simpa [← String.toList_inj] using h
      have hNumber : colour.number.toList.length = other.number.toList.length := by
        rw [Colour.length_number, Colour.length_number]
      exact String.toList_inj.1 (List.cons.inj (List.append_inj_right hText hNumber)).2

theorem answerLine_injective (palette : Palette) (name : String) :
    Function.Injective (answerLine palette name) := by
  intro first second h
  rw [answerLine, answerLine, String.append_left_inj, String.append_right_inj] at h
  exact Palette.paint_inj h

theorem answer_eq_answerLine_iff {registry : Registry} {palette : Palette} {name text : String} :
    answer registry palette name = answerLine palette name text ↔
      (registry.verdict name).render = text :=
  (answerLine_injective palette name).eq_iff

/-- The line about a name is the one that a listing of safe records and a listing of unsafe names
lead to. Of the parameters only the joined text can be told, and the parameters themselves if no
comma is in any of them. -/
structure AgreesWith (palette : Palette) (line : String) (records : List SafeType)
    (unsafeNames : List String) (name : String) : Prop where
  safe : line = answerLine palette name "safe" ↔
    ∃ record, (records.filter fun record => record.name = name) = [record] ∧
      record.containerOf = []
  safeIf (text : String) : line = answerLine palette name ("safe if " ++ text ++ " safe") ↔
    ∃ record, (records.filter fun record => record.name = name) = [record] ∧
      record.containerOf ≠ [] ∧ ", ".intercalate record.containerOf = text
  safeIfParameters (parameters : List String) (hNe : parameters ≠ [])
    (hCommas : ∀ parameter ∈ parameters, ',' ∉ parameter.toList)
    (hRecords : ∀ record ∈ records, record.name = name →
      ∀ parameter ∈ record.containerOf, ',' ∉ parameter.toList) :
    line = answerLine palette name ("safe if " ++ ", ".intercalate parameters ++ " safe") ↔
      ∃ record, (records.filter fun record => record.name = name) = [record] ∧
        record.containerOf = parameters
  notSafe : line = answerLine palette name "unsafe" ↔
    (∀ record ∈ records, record.name ≠ name) ∧ name ∈ unsafeNames
  unknown : line = answerLine palette name "unknown" ↔
    (∀ record ∈ records, record.name ≠ name) ∧ name ∉ unsafeNames

end Report

namespace Registry

namespace Verdict

theorem render_eq_safe_iff {verdict : Verdict} : verdict.render = "safe" ↔ verdict = .safe := by
  cases verdict <;> simp [render, ← String.toList_inj]

/-- Of the parameters only the joined text can be told. -/
theorem render_eq_safeIf_iff {verdict : Verdict} {text : String} :
    verdict.render = "safe if " ++ text ++ " safe" ↔
      ∃ parameters, verdict = .safeIf parameters ∧ ", ".intercalate parameters = text := by
  cases verdict with
  | safe => simp [render, ← String.toList_inj]
  | safeIf parameters => simp [render, Text.Quoted.commaSeparated]
  | notSafe => simp [render, ← String.toList_inj]
  | unknown => simp [render, ← String.toList_inj]

theorem render_eq_notSafe_iff {verdict : Verdict} :
    verdict.render = "unsafe" ↔ verdict = .notSafe := by
  cases verdict <;> simp [render, ← String.toList_inj]

theorem render_eq_unknown_iff {verdict : Verdict} :
    verdict.render = "unknown" ↔ verdict = .unknown := by
  cases verdict <;> simp [render, ← String.toList_inj]

end Verdict

theorem verdict_eq_safe_iff {registry : Registry} {name : String} :
    registry.verdict name = .safe ↔
      ∃ record, registry.safe.get? name = some record ∧ record.containerOf = [] := by
  cases hGet : registry.safe.get? name with
  | none => simp [verdict_of_none hGet, ite_eq_iff]
  | some record => simp [verdict_of_some hGet]

theorem verdict_eq_safeIf_iff {registry : Registry} {name : String}
    {parameters : List String} :
    registry.verdict name = .safeIf parameters ↔
      parameters ≠ [] ∧
        ∃ record, registry.safe.get? name = some record ∧ record.containerOf = parameters := by
  cases hGet : registry.safe.get? name with
  | none => simp [verdict_of_none hGet, ite_eq_iff]
  | some record =>
      by_cases hNil : record.containerOf = []
      · simp [verdict_of_some hGet, hNil, eq_comm]
      · have hNe (hEq : record.containerOf = parameters) : parameters ≠ [] := hEq ▸ hNil
        simpa [verdict_of_some hGet, hNil] using hNe

theorem render_verdict_eq_safeIf_iff {registry : Registry} {name text : String} :
    (registry.verdict name).render = "safe if " ++ text ++ " safe" ↔
      ∃ record, registry.safe.get? name = some record ∧ record.containerOf ≠ [] ∧
        ", ".intercalate record.containerOf = text := by
  simp only [Verdict.render_eq_safeIf_iff, verdict_eq_safeIf_iff]
  constructor
  · rintro ⟨_, ⟨hNe, record, hRecord, rfl⟩, hText⟩
    exact ⟨record, hRecord, hNe, hText⟩
  · rintro ⟨record, hRecord, hNe, hText⟩
    exact ⟨_, ⟨hNe, record, hRecord, rfl⟩, hText⟩

/-- Without a comma in any of them the parameters can be told from the joined text. -/
theorem render_verdict_eq_joined_iff {registry : Registry} {name : String}
    {parameters : List String} (hNe : parameters ≠ [])
    (hCommas : ∀ parameter ∈ parameters, ',' ∉ parameter.toList)
    (hOwn : ∀ record, registry.safe.get? name = some record →
      ∀ parameter ∈ record.containerOf, ',' ∉ parameter.toList) :
    (registry.verdict name).render = "safe if " ++ ", ".intercalate parameters ++ " safe" ↔
      ∃ record, registry.safe.get? name = some record ∧ record.containerOf = parameters := by
  rw [render_verdict_eq_safeIf_iff]
  constructor
  · rintro ⟨record, hRecord, hRecordNe, hText⟩
    have hJoined := Text.Quoted.commaSeparated_inj hRecordNe hNe (hOwn record hRecord) hCommas
    exact ⟨record, hRecord, hJoined.1 hText⟩
  · rintro ⟨record, hRecord, rfl⟩
    exact ⟨record, hRecord, hNe, rfl⟩

theorem verdict_eq_notSafe_iff {registry : Registry} {name : String} :
    registry.verdict name = .notSafe ↔
      registry.safe.get? name = none ∧ name ∈ registry.unsafeNames := by
  cases hGet : registry.safe.get? name with
  | none => simp [verdict_of_none hGet]
  | some record => simp [verdict_of_some hGet, ite_eq_iff]

theorem verdict_eq_unknown_iff {registry : Registry} {name : String} :
    registry.verdict name = .unknown ↔
      registry.safe.get? name = none ∧ name ∉ registry.unsafeNames := by
  cases hGet : registry.safe.get? name with
  | none => simp [verdict_of_none hGet]
  | some record => simp [verdict_of_some hGet, ite_eq_iff]

/-- The safe types in the order of a listing. -/
def records (registry : Registry) : List SafeType :=
  registry.safe.sorted.map Prod.snd

theorem mem_records_of_get? {registry : Registry} {name : String} {record : SafeType}
    (h : registry.safe.get? name = some record) : record ∈ registry.records := by
  have hEntry : (name, record) ∈ registry.safe.sorted := Table.mem_sorted_iff.2 h
  exact List.mem_map_of_mem hEntry

/-- Each record stands under its own name. -/
def HasOwnNames (registry : Registry) : Prop :=
  ∀ name record, registry.safe.get? name = some record → record.name = name

theorem hasOwnNames_ofSources (catalog : Catalog) (flags : Flags) (mutableNames : List String) :
    (ofSources catalog flags (.ofFlags flags mutableNames)).HasOwnNames :=
  hasOwnNames_safe_ofSources catalog flags (MutationFacts.hasOwnNames_ofNames _ mutableNames)

namespace HasOwnNames

variable {registry : Registry} (h : registry.HasOwnNames)

include h

theorem name_of_mem_sorted {entry : String × SafeType} (hEntry : entry ∈ registry.safe.sorted) :
    entry.2.name = entry.1 :=
  h entry.1 entry.2 (Table.mem_sorted_iff.1 hEntry)

/-- The records are listed by increasing name of their own. -/
theorem pairwise_records : (registry.records.map SafeType.name).Pairwise (· < ·) := by
  have hNames : registry.records.map SafeType.name = registry.safe.sorted.map Prod.fst := by
    rw [records, List.map_map]
    exact List.map_congr_left fun entry hEntry => h.name_of_mem_sorted hEntry
  rw [hNames]
  exact List.pairwise_map.2 registry.safe.pairwise_sorted

/-- A name picks its own record out of a listing, and no other. -/
theorem filter_records (name : String) :
    (registry.records.filter fun record => record.name = name) =
      (registry.safe.get? name).toList := by
  have hOwn : (registry.safe.sorted.filter fun entry => entry.2.name = name) =
      registry.safe.sorted.filter fun entry => entry.1 = name := by
    refine List.filter_congr fun entry hEntry => ?_
    rw [h.name_of_mem_sorted hEntry]
  -- The filter looks at the names of the records, and the order of a listing is by key.
  rw [records, List.filter_map]
  change (registry.safe.sorted.filter fun entry => entry.2.name = name).map Prod.snd = _
  rw [hOwn, Table.filter_sorted]
  cases registry.safe.get? name <;> rfl

theorem filter_records_eq_singleton_iff {name : String} {record : SafeType} :
    (registry.records.filter fun record => record.name = name) = [record] ↔
      registry.safe.get? name = some record := by
  rw [h.filter_records]
  cases registry.safe.get? name <;> simp

theorem forall_records_ne_iff {name : String} :
    (∀ record ∈ registry.records, record.name ≠ name) ↔ registry.safe.get? name = none := by
  rw [← Option.toList_eq_nil_iff, ← h.filter_records]
  simp

/-- The answer about a name can be read off the two listings. -/
theorem agreesWith_answer (palette : Report.Palette) (name : String) :
    Report.AgreesWith palette (Report.answer registry palette name) registry.records
      registry.unsafeNames.names name where
  safe := by
    simp only [h.filter_records_eq_singleton_iff]
    rw [Report.answer_eq_answerLine_iff, Verdict.render_eq_safe_iff, verdict_eq_safe_iff]
  safeIf := by
    intro text
    simp only [h.filter_records_eq_singleton_iff]
    rw [Report.answer_eq_answerLine_iff, render_verdict_eq_safeIf_iff]
  safeIfParameters := by
    intro parameters hNe hCommas hRecords
    have hOwn : ∀ record, registry.safe.get? name = some record →
        ∀ parameter ∈ record.containerOf, ',' ∉ parameter.toList :=
      fun record hRecord =>
        hRecords record (mem_records_of_get? hRecord) (h name record hRecord)
    simp only [h.filter_records_eq_singleton_iff]
    rw [Report.answer_eq_answerLine_iff, render_verdict_eq_joined_iff hNe hCommas hOwn]
  notSafe := by
    rw [Report.answer_eq_answerLine_iff, Verdict.render_eq_notSafe_iff, verdict_eq_notSafe_iff,
      h.forall_records_ne_iff]
    rfl
  unknown := by
    rw [Report.answer_eq_answerLine_iff, Verdict.render_eq_unknown_iff, verdict_eq_unknown_iff,
      h.forall_records_ne_iff]
    rfl

end HasOwnNames

end Registry

namespace Report

theorem answers_singleton (registry : Registry) (palette : Palette) (name : String) :
    answers registry palette [name] = answer registry palette name := by
  simp [answers]

theorem safeTypes_json (registry : Registry) (palette : Palette) :
    safeTypes registry palette .json =
      (Json.array (registry.records.map SafeType.toJson)).render ++ "\n" := by
  rw [safeTypes, Registry.records, List.map_map]
  rfl

theorem read?_safeTypes (registry : Registry) (palette : Palette) :
    Json.read? (safeTypes registry palette .json) =
      some (.array (registry.records.map SafeType.toJson)) := by
  rw [safeTypes_json, Json.read?_render]

theorem read?_unsafeTypes (registry : Registry) (palette : Palette) :
    Json.read? (unsafeTypes registry palette .json) =
      some (.texts registry.unsafeNames.names) := by
  rw [unsafeTypes, Json.read?_render]

end Report

namespace Invocation

section Sound

variable {items : List String} {flags : Flags} (hFlags : Flags.parse items = .ok flags)
  {catalog : Catalog} (hCatalog : ∀ entry ∈ catalog, ¬ entry.IsDefective) (verbosity : Nat)
  (palette : Report.Palette) (mutableNames : List String)

include hFlags hCatalog

theorem read?_safeListing :
    Json.read? (execute catalog palette
      ⟨verbosity, items, mutableNames, .list .json false⟩).stdout =
        some (.array ((Registry.ofSources catalog flags
          (.ofFlags flags mutableNames)).records.map SafeType.toJson)) := by
  rw [(execute_of_sound hFlags hCatalog verbosity palette mutableNames _).2]
  exact Report.read?_safeTypes _ palette

/-- A listing has one reading only. -/
theorem records_of_read? {records : List SafeType}
    (hRead : Json.read? (execute catalog palette
      ⟨verbosity, items, mutableNames, .list .json false⟩).stdout =
        some (.array (records.map SafeType.toJson))) :
    (Registry.ofSources catalog flags (.ofFlags flags mutableNames)).records = records := by
  rw [read?_safeListing hFlags hCatalog, Option.some_inj, Json.array.injEq] at hRead
  exact SafeType.toJson_injective.list_map hRead

theorem read?_unsafeListing :
    Json.read? (execute catalog palette
      ⟨verbosity, items, mutableNames, .list .json true⟩).stdout =
        some (.texts (Registry.ofSources catalog flags
          (.ofFlags flags mutableNames)).unsafeNames.names) := by
  rw [(execute_of_sound hFlags hCatalog verbosity palette mutableNames _).2]
  exact Report.read?_unsafeTypes _ palette

end Sound

/-- With readable flags and a sound catalog the two listings in JSON and the answers about
single types succeed and say the same, as far as the joined parameters tell. What is listed is
increasing, and the names listed as unsafe are the ones given as mutable. -/
theorem listings_match_lookup {items : List String} {flags : Flags}
    (hFlags : Flags.parse items = .ok flags) {catalog : Catalog}
    (hCatalog : ∀ entry ∈ catalog, ¬ entry.IsDefective) (verbosity : Nat)
    (palette : Report.Palette) (mutableNames : List String) :
    let execution := fun command =>
      Invocation.execute catalog palette ⟨verbosity, items, mutableNames, command⟩
    let line := fun name => (execution (.lookup [name])).stdout
    ∃ (records : List SafeType) (unsafeNames : List String),
      (∀ command, (execution command).status = 0) ∧
      Json.read? (execution (.list .json false)).stdout =
        some (.array (records.map fun record => .object
          [("type_name", .text record.name), ("container_of", .texts record.containerOf)])) ∧
      Json.read? (execution (.list .json true)).stdout = some (.texts unsafeNames) ∧
      (∀ names, (execution (.lookup names)).stdout = String.join (names.map line)) ∧
      (∀ name, Report.AgreesWith palette (line name) records unsafeNames name) ∧
      (records.map SafeType.name).Pairwise (· < ·) ∧
      unsafeNames.Pairwise (· < ·) ∧ (∀ name, name ∈ unsafeNames ↔ name ∈ mutableNames) ∧
      ∀ words clock command, CommandLine.parse words =
          .ok ⟨verbosity, items.map some, mutableNames.map some, command⟩ →
        ∃ stderr, Session.run catalog palette clock words =
          .ok ⟨0, (execution command).stdout, stderr⟩ := by
  intro execution line
  let registry := Registry.ofSources catalog flags (.ofFlags flags mutableNames)
  have hOwn : registry.HasOwnNames := Registry.hasOwnNames_ofSources catalog flags mutableNames
  have hExecution (command : CommandLine.Command) : (execution command).status = 0 ∧
      (execution command).stdout = command.report registry palette :=
    execute_of_sound hFlags hCatalog verbosity palette mutableNames command
  have hLine : line = Report.answer registry palette := by
    funext name
    rw [← Report.answers_singleton]
    exact (hExecution (.lookup [name])).2
  refine ⟨registry.records, registry.unsafeNames.names, fun command => (hExecution command).1,
    read?_safeListing hFlags hCatalog verbosity palette mutableNames,
    read?_unsafeListing hFlags hCatalog verbosity palette mutableNames, ?_, ?_,
    hOwn.pairwise_records, registry.unsafeNames.increasing,
    fun name => Registry.mem_unsafeNames_ofSources, ?_⟩
  · intro names
    rw [hLine]
    exact (hExecution (.lookup names)).2
  · rw [hLine]
    exact hOwn.agreesWith_answer palette
  · intro words clock command hWords
    refine ⟨((execution command).transcript clock verbosity).stderr, ?_⟩
    rw [Session.run_of_parse hWords, ← (hExecution command).1]
    rfl

/-- A type that is listed and in the catalog, one that is listed and given as mutable, one that is
only given as mutable, and one that is in no listing. What is answered follows from the listings. -/
theorem listings_match_lookup_overlapping :
    let execution := fun command =>
      Invocation.execute [⟨.named "lib.Box", ["K", "V"], none⟩] .plain
        ⟨0, ["Immutable:KnownImmutable=lib.Box,lib.Both"], ["lib.List", "lib.Both"], command⟩
    Json.read? (execution (.list .json false)).stdout = some (.array
      [.object [("type_name", .text "lib.Both"), ("container_of", .texts [])],
        .object [("type_name", .text "lib.Box"), ("container_of", .texts ["K", "V"])]]) ∧
    Json.read? (execution (.list .json true)).stdout = some (.texts ["lib.Both", "lib.List"]) ∧
    (execution (.lookup ["lib.Box"])).stdout = "lib.Box: safe if K, V safe\n" ∧
    (execution (.lookup ["lib.Both"])).stdout = "lib.Both: safe\n" ∧
    (execution (.lookup ["lib.List"])).stdout = "lib.List: unsafe\n" ∧
    (execution (.lookup ["lib.Set"])).stdout = "lib.Set: unknown\n" := by
  intro execution
  have hFlags : Flags.parse ["Immutable:KnownImmutable=lib.Box,lib.Both"] =
      .ok (.ofList [("Immutable:KnownImmutable", "lib.Box,lib.Both")]) := by decide +kernel
  have hCatalog : ∀ entry ∈ ([⟨.named "lib.Box", ["K", "V"], none⟩] : Catalog),
      ¬ entry.IsDefective := by decide
  obtain ⟨records, unsafeNames, -, hSafe, hUnsafe, -, hAgrees, -⟩ :=
    listings_match_lookup hFlags hCatalog 0 .plain ["lib.List", "lib.Both"]
  let registry : Registry := .ofSources [⟨.named "lib.Box", ["K", "V"], none⟩]
    (.ofList [("Immutable:KnownImmutable", "lib.Box,lib.Both")])
    (.ofFlags (.ofList [("Immutable:KnownImmutable", "lib.Box,lib.Both")])
      ["lib.List", "lib.Both"])
  have hRecords : records = [⟨"lib.Both", []⟩, ⟨"lib.Box", ["K", "V"]⟩] := by
    have hEntries : registry.safe.entries =
        [("lib.Box", ⟨"lib.Box", ["K", "V"]⟩), ("lib.Both", ⟨"lib.Both", []⟩)] := by
      decide +kernel
    have hSorted : registry.records = [⟨"lib.Both", []⟩, ⟨"lib.Box", ["K", "V"]⟩] := by
      simp [Registry.records, Table.sorted, hEntries, List.mergeSort,
        List.MergeSort.Internal.splitInTwo]
    exact (records_of_read? hFlags hCatalog _ _ _ hSafe).symm.trans hSorted
  have hNames : unsafeNames = ["lib.Both", "lib.List"] := by
    have hSorted : registry.unsafeNames.names = ["lib.Both", "lib.List"] := by decide +kernel
    rw [read?_unsafeListing hFlags hCatalog, Option.some_inj] at hUnsafe
    exact (Json.texts_injective hUnsafe).symm.trans hSorted
  rw [hRecords] at hSafe hAgrees
  rw [hNames] at hUnsafe hAgrees
  have hBox := ((hAgrees "lib.Box").safeIfParameters ["K", "V"] (by decide) (by decide)
    (by decide)).2 ⟨⟨"lib.Box", ["K", "V"]⟩, by decide, rfl⟩
  have hBoth := (hAgrees "lib.Both").safe.2 ⟨⟨"lib.Both", []⟩, by decide, rfl⟩
  have hList := (hAgrees "lib.List").notSafe.2 (by decide)
  have hSet := (hAgrees "lib.Set").unknown.2 (by decide)
  exact ⟨hSafe, hUnsafe, hBox.trans (by decide +kernel), hBoth.trans (by decide +kernel),
    hList.trans (by decide +kernel), hSet.trans (by decide +kernel)⟩

/-- The joined parameters do not tell the parameters. The answer can show the text of two of them
while one with a comma is listed. -/
theorem lookup_hidesComma :
    let execution := fun command =>
      Invocation.execute [⟨.named "x", ["a, b"], none⟩] .plain ⟨0, [], [], command⟩
    Flags.parse [] = .ok (.ofList []) ∧
    (∀ entry ∈ ([⟨.named "x", ["a, b"], none⟩] : Catalog), ¬ entry.IsDefective) ∧
    ¬ ((execution (.lookup ["x"])).stdout =
        "x: safe if " ++ ", ".intercalate ["a", "b"] ++ " safe\n" ↔
      ∃ records : List SafeType, Json.read? (execution (.list .json false)).stdout =
          some (.array (records.map fun record => .object
            [("type_name", .text record.name), ("container_of", .texts record.containerOf)])) ∧
        ∃ record, (records.filter fun record => record.name = "x") = [record] ∧
          record.containerOf = ["a", "b"]) := by
  intro execution
  have hFlags : Flags.parse [] = .ok (.ofList []) := rfl
  have hCatalog : ∀ entry ∈ ([⟨.named "x", ["a, b"], none⟩] : Catalog),
      ¬ entry.IsDefective := by decide
  refine ⟨hFlags, hCatalog, fun h => ?_⟩
  obtain ⟨records, hSafe, record, hFilter, hParameters⟩ := h.1 (by decide +kernel)
  have hRecords : records = [⟨"x", ["a, b"]⟩] := by
    let registry : Registry :=
      .ofSources [⟨.named "x", ["a, b"], none⟩] (.ofList []) (.ofFlags (.ofList []) [])
    have hEntries : registry.safe.entries = [("x", ⟨"x", ["a, b"]⟩)] := by decide +kernel
    have hSorted : registry.records = [⟨"x", ["a, b"]⟩] := by
      simp [Registry.records, Table.sorted, hEntries]
    exact (records_of_read? hFlags hCatalog _ _ _ hSafe).symm.trans hSorted
  rw [hRecords] at hFilter
  have hRecord : [⟨"x", ["a, b"]⟩] = [record] := hFilter
  rw [← List.head_eq_of_cons_eq hRecord] at hParameters
  exact absurd hParameters (by decide)

end Invocation

end SafeTypes
