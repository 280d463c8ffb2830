import SafeTypes.Proofs.ListingAgreement

/-! What the listings in JSON tell. Reading gives back all that was listed, so registries with the
same listing have the same records or the same unsafe names. -/
namespace SafeTypes

namespace Json

/-- A text has one reading only, so a value is told by its rendering. -/
theorem renderLine_injective : Function.Injective fun value : Json => value.render ++ "\n" := by
  intro first second h
  have hRead : some first = some second := by
    rw [← read?_render first, ← read?_render second]
    exact congrArg read? h
  exact Option.some_inj.1 hRead

theorem enclose_eq_append (opening closing : Char) (depth : Nat) (items : List (List Char)) :
    ∃ front, enclose opening closing depth items = front ++ [closing] := by
  cases items with
  | nil => exact ⟨[opening], rfl⟩
  | cons first rest => exact ⟨_, rfl⟩

/-- An array ends in its bracket, so there is one newline behind it and no other. -/
theorem renderLine_array_eq_append (items : List Json) :
    ∃ front, (array items).render ++ "\n" = front ++ "]\n" := by
  obtain ⟨front, hFront⟩ := enclose_eq_append '[' ']' 0 (layoutItems 1 items)
  refine ⟨String.ofList front, ?_⟩
  rw [render, layout, hFront, String.ofList_append, String.append_assoc]
  rfl

end Json

namespace Report

variable {registry other : Registry} (palette otherPalette : Palette)

theorem safeTypes_json_eq_iff :
    safeTypes other otherPalette .json = safeTypes registry palette .json ↔
      other.records = registry.records := by
  rw [safeTypes_json, safeTypes_json, Json.renderLine_injective.eq_iff, Json.array.injEq,
    SafeType.toJson_injective.list_map.eq_iff]

theorem unsafeTypes_json_eq_iff :
    unsafeTypes other otherPalette .json = unsafeTypes registry palette .json ↔
      other.unsafeNames = registry.unsafeNames := by
  rw [unsafeTypes, unsafeTypes, Json.renderLine_injective.eq_iff, Json.texts_injective.eq_iff,
    NameSet.names_injective.eq_iff]

end Report

/-- A listing in JSON is one array and a newline. It reads as the records of the safe types, in the
order of the names that they stand under and one for each, or as the increasing list of the unsafe
names. So two registries have the same text exactly when these are the same, coloured or not. A
record may stand under another name than its own, and any characters may be in the names. -/
theorem Report.json_listing_reads (registry : Registry) (palette : Palette) :
    let text := fun listsUnsafe (registry : Registry) (palette : Palette) =>
      (CommandLine.Command.list .json listsUnsafe).report registry palette
    ∃ (entries : List (String × SafeType)) (names : List String),
      entries.Pairwise (fun a b => a.1 < b.1) ∧
      (∀ name record, (name, record) ∈ entries ↔ registry.safe.get? name = some record) ∧
      Json.read? (text false registry palette) = some (.array (entries.map fun entry => .object
        [("type_name", .text entry.2.name), ("container_of", .texts entry.2.containerOf)])) ∧
      names.Pairwise (· < ·) ∧ (∀ name, name ∈ names ↔ name ∈ registry.unsafeNames) ∧
      Json.read? (text true registry palette) = some (.texts names) ∧
      (∀ listsUnsafe, ∃ front, text listsUnsafe registry palette = front ++ "]\n") ∧
      ∀ other otherPalette,
        (text false other otherPalette = text false registry palette ↔
          other.records = registry.records) ∧
        (text true other otherPalette = text true registry palette ↔
          other.unsafeNames = registry.unsafeNames) := by
  intro text
  refine ⟨registry.safe.sorted, registry.unsafeNames.names, registry.safe.pairwise_sorted,
    fun name record => Table.mem_sorted_iff, ?_, registry.unsafeNames.increasing,
    fun name => Iff.rfl, read?_unsafeTypes registry palette, ?_, ?_⟩
  · have hRead := read?_safeTypes registry palette
    rwa [Registry.records, List.map_map] at hRead
  · intro listsUnsafe
    cases listsUnsafe with
    | false =>
        change ∃ front, safeTypes registry palette .json = front ++ "]\n"
        rw [safeTypes_json]
        exact Json.renderLine_array_eq_append _
    | true => exact Json.renderLine_array_eq_append _
  · intro other otherPalette
    exact ⟨safeTypes_json_eq_iff palette otherPalette, unsafeTypes_json_eq_iff palette otherPalette⟩

end SafeTypes
