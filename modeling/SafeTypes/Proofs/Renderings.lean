import SafeTypes.Proofs.Colours

/-! Renderings tell apart what they are renderings of. A record is read off its rendering at the
first bracket and at the commas, and the words of a verdict are never those of another one. -/
namespace SafeTypes

namespace SafeType

/-- A record whose own brackets and commas can be told from those of its rendering. -/
structure IsLegible (record : SafeType) : Prop where
  bracket_not_mem : '[' ∉ record.name.toList
  comma_not_mem : ∀ parameter ∈ record.containerOf, ',' ∉ parameter.toList

/-- The name ends before the first bracket, and there is none without parameters. -/
theorem cut_render {record : SafeType} (h : '[' ∉ record.name.toList) :
    Text.cut '[' record.render.toList = (record.name.toList,
      if record.containerOf = [] then none
      else some ((Text.Quoted.commaSeparated record.containerOf).toList ++ [']'])) := by
  rw [render]
  split
  · next hNil => rw [Text.cut_of_not_mem h, if_pos hNil]
  · next hParameters =>
      have hText : (record.name ++ "[" ++ Text.Quoted.commaSeparated record.containerOf ++
          "]").toList = record.name.toList ++ '[' ::
            ((Text.Quoted.commaSeparated record.containerOf).toList ++ [']']) := by
        simp
      rw [hText, Text.cut_append h, if_neg hParameters]

theorem IsLegible.render_inj {first second : SafeType} (hFirst : first.IsLegible)
    (hSecond : second.IsLegible) : first.render = second.render ↔ first = second := by
  refine ⟨?_, fun h => by rw [h]⟩
  intro h
  have hCut := cut_render hFirst.bracket_not_mem
  rw [h, cut_render hSecond.bracket_not_mem, Prod.mk.injEq, String.toList_inj] at hCut
  obtain ⟨hName, hRest⟩ := hCut
  have hParameters : first.containerOf = second.containerOf := by
    by_cases hNil : first.containerOf = []
    · by_cases hOther : second.containerOf = []
      · rw [hNil, hOther]
      · simp [hNil, hOther] at hRest
    · by_cases hOther : second.containerOf = []
      · simp [hNil, hOther] at hRest
      · rw [if_neg hNil, if_neg hOther, Option.some_inj, List.append_cancel_right_eq,
          String.toList_inj] at hRest
        exact ((Text.Quoted.commaSeparated_inj hOther hNil hSecond.comma_not_mem
          hFirst.comma_not_mem).1 hRest).symm
  cases first
  cases second
  cases hName
  cases hParameters
  rfl

end SafeType

namespace Registry

/-- Parameters as a conditional verdict has them, with no comma in any. -/
def Verdict.IsLegible (verdict : Verdict) : Prop :=
  ∀ parameters, verdict = .safeIf parameters →
    parameters ≠ [] ∧ ∀ parameter ∈ parameters, ',' ∉ parameter.toList

theorem Verdict.IsLegible.render_inj {first second : Verdict} (hFirst : first.IsLegible)
    (hSecond : second.IsLegible) : first.render = second.render ↔ first = second := by
  rw [eq_comm, @eq_comm _ first]
  cases first with
  | safe => exact render_eq_safe_iff
  | notSafe => exact render_eq_notSafe_iff
  | unknown => exact render_eq_unknown_iff
  | safeIf parameters =>
      obtain ⟨hNe, hCommas⟩ := hFirst parameters rfl
      refine render_eq_safeIf_iff.trans ?_
      constructor
      · rintro ⟨others, rfl, hText⟩
        obtain ⟨hOtherNe, hOtherCommas⟩ := hSecond others rfl
        rw [(Text.Quoted.commaSeparated_inj hOtherNe hNe hOtherCommas hCommas).1 hText]
      · rintro rfl
        exact ⟨parameters, rfl, rfl⟩

/-- Two registries classify two names alike: as safe with the same parameters, as known to be
unsafe only, or as unknown. -/
structure ClassifyAlike (registry other : Registry) (name otherName : String) : Prop where
  safe : name ∈ registry.safe.names ↔ otherName ∈ other.safe.names
  unsafeOnly : (name ∉ registry.safe.names ∧ name ∈ registry.unsafeNames) ↔
    (otherName ∉ other.safe.names ∧ otherName ∈ other.unsafeNames)
  unknown : (name ∉ registry.safe.names ∧ name ∉ registry.unsafeNames) ↔
    (otherName ∉ other.safe.names ∧ otherName ∉ other.unsafeNames)
  parameters (record otherRecord : SafeType) (hRecord : registry.safe.get? name = some record)
    (hOther : other.safe.get? otherName = some otherRecord) :
    record.containerOf = otherRecord.containerOf

theorem containerOf_eq_of_verdict_eq {registry other : Registry} {name otherName : String}
    {record otherRecord : SafeType} (hRecord : registry.safe.get? name = some record)
    (hOther : other.safe.get? otherName = some otherRecord)
    (h : registry.verdict name = other.verdict otherName) :
    record.containerOf = otherRecord.containerOf := by
  rw [verdict_of_some hRecord, verdict_of_some hOther] at h
  split at h
  · next hNil =>
      split at h
      · next hOtherNil => rw [hNil, hOtherNil]
      · cases h
  · split at h
    · cases h
    · exact Verdict.safeIf.inj h

/-- A verdict says how a name is classified, and says no more than that. -/
theorem verdict_eq_verdict_iff {registry other : Registry} {name otherName : String} :
    registry.verdict name = other.verdict otherName ↔
      registry.ClassifyAlike other name otherName := by
  constructor
  · intro h
    constructor
    · rw [← colour_eq_green_iff, ← colour_eq_green_iff, h]
    · rw [← colour_eq_red_iff, ← colour_eq_red_iff, h]
    · rw [← colour_eq_yellow_iff, ← colour_eq_yellow_iff, h]
    · intro record otherRecord hRecord hOther
      exact containerOf_eq_of_verdict_eq hRecord hOther h
  · intro h
    have hSafe := h.safe
    have hUnsafe := h.unsafeOnly
    rw [Table.mem_names_iff, Table.mem_names_iff] at hSafe hUnsafe
    cases hRecord : registry.safe.get? name with
    | some record =>
        obtain ⟨otherRecord, hOther⟩ := hSafe.1 ⟨record, hRecord⟩
        rw [verdict_of_some hRecord, verdict_of_some hOther,
          h.parameters record otherRecord hRecord hOther]
    | none =>
        cases hOther : other.safe.get? otherName with
        | some otherRecord => simp [hRecord, hOther] at hSafe
        | none =>
            have hBoth : name ∈ registry.unsafeNames ↔ otherName ∈ other.unsafeNames := by
              simpa [hRecord, hOther] using hUnsafe
            rw [verdict_of_none hRecord, verdict_of_none hOther]
            simp only [hBoth]

theorem isLegible_verdict {registry : Registry} {name : String}
    (h : ∀ record, registry.safe.get? name = some record →
      ∀ parameter ∈ record.containerOf, ',' ∉ parameter.toList) :
    (registry.verdict name).IsLegible := by
  intro parameters hVerdict
  obtain ⟨hNe, record, hRecord, rfl⟩ := verdict_eq_safeIf_iff.1 hVerdict
  exact ⟨hNe, h record hRecord⟩

end Registry

/-- Without misleading brackets and commas a rendering has one meaning only. Two records are written
alike exactly if they are the same record, be their names and parameters empty or not. Two verdicts
read alike exactly if the names are in the same class and, in the safe class, have the same
parameters, whatever words these are. -/
theorem renderings_tell_apart :
    (∀ first second : SafeType, first.IsLegible → second.IsLegible →
      (first.render = second.render ↔ first = second)) ∧
    ∀ (registry other : Registry) (name otherName : String),
      (∀ record, registry.safe.get? name = some record →
        ∀ parameter ∈ record.containerOf, ',' ∉ parameter.toList) →
      (∀ record, other.safe.get? otherName = some record →
        ∀ parameter ∈ record.containerOf, ',' ∉ parameter.toList) →
      ((registry.verdict name).render = (other.verdict otherName).render ↔
        registry.ClassifyAlike other name otherName) := by
  refine ⟨fun first second hFirst hSecond => hFirst.render_inj hSecond, ?_⟩
  intro registry other name otherName hCommas hOtherCommas
  rw [(Registry.isLegible_verdict hCommas).render_inj
    (Registry.isLegible_verdict hOtherCommas), Registry.verdict_eq_verdict_iff]

/-- An empty parameter is no missing one, and a parameter can be called as another verdict is. -/
theorem renderings_tell_apart_empty :
    let registry : Registry := ⟨.ofList [("a", ⟨"a", [""]⟩), ("b", ⟨"b", []⟩),
      ("c", ⟨"c", ["T safe", "unsafe"]⟩)], .ofList ["b", "d"]⟩
    SafeType.render ⟨"a]", [""]⟩ ≠ SafeType.render ⟨"a]", []⟩ ∧
      (registry.verdict "a").render ≠ (registry.verdict "b").render ∧
      (registry.verdict "c").render ≠ (registry.verdict "d").render := by
  intro registry
  obtain ⟨hRecords, hVerdicts⟩ := renderings_tell_apart
  have hLegible (parameters : List String)
      (h : ∀ parameter ∈ parameters, ',' ∉ parameter.toList) :
      SafeType.IsLegible ⟨"a]", parameters⟩ := ⟨show '[' ∉ "a]".toList by decide, h⟩
  have hCommas (name : String) : ∀ record, registry.safe.get? name = some record →
      ∀ parameter ∈ record.containerOf, ',' ∉ parameter.toList := by
    intro record hRecord
    have hAll : ∀ entry ∈ registry.safe.entries, ∀ parameter ∈ entry.2.containerOf,
        ',' ∉ parameter.toList := by decide
    exact hAll (name, record) (Table.mem_entries_iff.2 hRecord)
  refine ⟨?_, ?_, ?_⟩
  · rw [Ne, hRecords _ _ (hLegible [""] (by decide)) (hLegible [] (by decide))]
    decide
  · rw [Ne, hVerdicts registry registry "a" "b" (hCommas "a") (hCommas "b")]
    intro hAlike
    exact absurd (hAlike.parameters ⟨"a", [""]⟩ ⟨"b", []⟩ (by decide) (by decide)) (by decide)
  · rw [Ne, hVerdicts registry registry "c" "d" (hCommas "c") (hCommas "d")]
    intro hAlike
    exact absurd hAlike.safe (by decide)

/-- A comma inside a parameter can look like one between two of them. -/
example : SafeType.render ⟨"a", ["S, T"]⟩ = SafeType.render ⟨"a", ["S", "T"]⟩ := by decide

end SafeTypes
