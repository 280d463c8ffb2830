import SafeTypes.Proofs.FlagRoundTrip

/-! Lists as the values of flags. The items of a list stand between commas. Blanks around an item
and parts without an item do not count, at the ends of the value as little as inside it. -/
namespace SafeTypes

namespace Flags

/-- What a list can hold. Blanks inside an item do not count. -/
structure IsListItem (item : String) : Prop where
  ne_empty : item ≠ ""
  isTrimmed : Text.IsTrimmed item.toList
  comma_not_mem : ',' ∉ item.toList

instance (item : String) : Decidable (IsListItem item) :=
  decidable_of_iff (item ≠ "" ∧ Text.IsTrimmed item.toList ∧ ',' ∉ item.toList)
    ⟨fun h => ⟨h.1, h.2.1, h.2.2⟩, fun h => ⟨h.ne_empty, h.isTrimmed, h.comma_not_mem⟩⟩

/-- The parts of a value that spread out some items, each of them with blanks around it, and with
any number of blank parts before, between and behind the items. -/
inductive SpreadOut : List String → List String → Prop where
  | nil : SpreadOut [] []
  | blank {part : String} {parts items : List String}
      (hPart : ∀ c ∈ part.toList, Text.isBlank c = true) (rest : SpreadOut parts items) :
      SpreadOut (part :: parts) items
  | item {before item after : String} {parts items : List String}
      (hBefore : ∀ c ∈ before.toList, Text.isBlank c = true)
      (hAfter : ∀ c ∈ after.toList, Text.isBlank c = true) (rest : SpreadOut parts items) :
      SpreadOut ((before ++ item ++ after) :: parts) (item :: items)

/-- Items are spread out by themselves, with nothing around them. -/
theorem spreadOut_self (items : List String) : SpreadOut items items := by
  induction items with
  | nil => exact .nil
  | cons item rest ih =>
      have hNone : ∀ c ∈ "".toList, Text.isBlank c = true := by simp
      have hItem : SpreadOut (("" ++ item ++ "") :: rest) (item :: rest) := .item hNone hNone ih
      simpa using hItem

theorem comma_not_mem_of_blank {s : List Char} (h : ∀ c ∈ s, Text.isBlank c = true) :
    ',' ∉ s := by
  intro hMem
  exact absurd (h ',' hMem) (by decide)

theorem SpreadOut.comma_not_mem {parts items : List String} (h : SpreadOut parts items)
    (hItems : ∀ item ∈ items, IsListItem item) : ∀ part ∈ parts, ',' ∉ part.toList := by
  induction h with
  | nil => exact List.forall_mem_nil _
  | blank hPart rest ih =>
      rw [List.forall_mem_cons]
      exact ⟨comma_not_mem_of_blank hPart, ih hItems⟩
  | item hBefore hAfter rest ih =>
      rw [List.forall_mem_cons] at hItems ⊢
      refine ⟨?_, ih hItems.2⟩
      simp [comma_not_mem_of_blank hBefore, comma_not_mem_of_blank hAfter,
        hItems.1.comma_not_mem]

/-- Trimming leaves nothing of a blank part and the item of any other one. -/
theorem SpreadOut.filter_trim {parts items : List String} (h : SpreadOut parts items)
    (hItems : ∀ item ∈ items, IsListItem item) :
    ((parts.map fun part => Text.trim part.toList).filter (!·.isEmpty)) =
      items.map String.toList := by
  induction h with
  | nil => rfl
  | blank hPart rest ih =>
      rw [List.map_cons, Text.trim_eq_nil_of_all hPart, List.filter_cons_of_neg (by simp)]
      exact ih hItems
  | @item before item after parts items hBefore hAfter rest ih =>
      rw [List.forall_mem_cons] at hItems
      have hTrim : Text.trim (before ++ item ++ after).toList = item.toList := by
        rw [String.toList_append, String.toList_append, Text.trim_append_append hBefore hAfter,
          hItems.1.isTrimmed.trim_eq]
      have hNe := hItems.1.ne_empty
      rw [List.map_cons, hTrim, List.filter_cons_of_pos (by simpa using hNe), ih hItems.2]
      rfl

/-- Parts without commas are what a value of them is cut into. -/
theorem items_intercalate {parts : List String} (h : ∀ part ∈ parts, ',' ∉ part.toList) :
    items (",".intercalate parts) =
      ((parts.map fun part => Text.trim part.toList).filter (!·.isEmpty)).map String.ofList := by
  cases parts with
  | nil => rfl
  | cons part rest =>
      have hParts : ∀ s ∈ (part :: rest).map String.toList, ',' ∉ s := by simpa using h
      have hPieces : Text.pieces ',' (",".intercalate (part :: rest)).toList =
          (part :: rest).map String.toList := by
        rw [Text.pieces_eq_splitOn, String.toList_intercalate]
        exact List.splitOn_intercalate ',' hParts (by simp)
      rw [items, hPieces, List.map_map]
      rfl

/-- The items that a value spreads out are read from it, in order and with repetitions. -/
theorem items_of_spreadOut {parts list : List String} (h : SpreadOut parts list)
    (hList : ∀ item ∈ list, IsListItem item) : items (",".intercalate parts) = list := by
  rw [items_intercalate (h.comma_not_mem hList), h.filter_trim hList, List.map_map]
  simp [Function.comp_def]

theorem isListItem_of_mem_items {value item : String} (h : item ∈ items value) :
    IsListItem item := by
  simp only [items, List.mem_map, List.mem_filter] at h
  obtain ⟨s, ⟨⟨piece, hPiece, rfl⟩, hNe⟩, rfl⟩ := h
  have hComma := Text.not_mem_of_mem_pieces hPiece
  constructor
  · rw [Ne, ← String.toList_eq_nil_iff, String.toList_ofList]
    simpa using hNe
  · rw [String.toList_ofList]
    exact Text.isTrimmed_trim piece
  · rw [String.toList_ofList]
    exact fun hMem => hComma (Text.trim_subset piece hMem)

/-- Blanks at the end of a value do not count, since they are at the end of its last part. -/
theorem items_trimEnd (value : String) :
    items (String.ofList (Text.trimEnd value.toList)) = items value := by
  have hComma : Text.isBlank ',' = false := by decide
  rw [items, items, String.toList_ofList, Text.map_trim_pieces_trimEnd hComma]

/-- The marker holds no equals sign, so what follows one does not complete it. -/
theorem unmarked_append {name : List Char} (h : ¬ marker <+: name) (rest : List Char) :
    ¬ marker <+: name ++ '=' :: rest :=
  fun hMarker => h (Text.prefix_of_prefix_append_cons (by decide) hMarker)

/-- An item without the marker gives its value as it was written, up to the blanks at its end. -/
theorem readItem_plain {name : String} (hNe : name ≠ "") (hTrimmed : Text.IsTrimmed name.toList)
    (hEquals : '=' ∉ name.toList) (hMarker : ¬ marker <+: name.toList) (value : String) :
    readItem (name ++ "=" ++ value) =
      .ok (name, String.ofList (Text.trimEnd value.toList)) := by
  apply readItem_of_bare hNe hTrimmed hEquals
  have hItem : (name ++ "=" ++ value).toList = name.toList ++ '=' :: value.toList := by simp
  have hStart : Text.StartsBare (name.toList ++ '=' :: value.toList) := by
    intro c hc
    cases hName : name.toList with
    | nil => exact (hNe (String.toList_eq_nil_iff.1 hName)).elim
    | cons first rest =>
        have hFirst : first = c := by simpa [hName] using hc
        exact hTrimmed.front c (by simp [hName, hFirst])
  rw [bare, hItem, Text.trim, Text.trimStart_eq_self hStart,
    Text.trimEnd_append_cons (by decide), String.toList_ofList,
    withoutMarker_eq_self (unmarked_append hMarker _)]

/-- The list of a flag is the list that was written for it. A name that needs no marker, with a
value that spreads out some items, is read as a flag that lists these items in order and with
repetitions. What is read of any flag as a list can be written and read again: it has items that
a list can hold, and joined by commas they are a value with the same list. -/
theorem parse_listed {name : String} (hNe : name ≠ "") (hTrimmed : Text.IsTrimmed name.toList)
    (hEquals : '=' ∉ name.toList) (hMarker : ¬ marker <+: name.toList)
    {parts list : List String} (hList : ∀ item ∈ list, IsListItem item)
    (hParts : SpreadOut parts list) :
    (∃ flags, parse [name ++ "=" ++ ",".intercalate parts] = .ok flags ∧
      flags.getList? name = some list) ∧
    ∀ (flags : Flags) (key value : String), flags.get? key = some value →
      ∃ read, flags.getList? key = some read ∧ (∀ item ∈ read, IsListItem item) ∧
        ∀ (others : Flags) (other : String),
          others.get? other = some (",".intercalate read) →
          others.getList? other = some read := by
  refine ⟨?_, ?_⟩
  · have hRead : [name ++ "=" ++ ",".intercalate parts].map readItem =
        [(name, String.ofList (Text.trimEnd (",".intercalate parts).toList))].map .ok := by
      rw [List.map_singleton, List.map_singleton,
        readItem_plain hNe hTrimmed hEquals hMarker]
    have hParse : parse [name ++ "=" ++ ",".intercalate parts] =
        .ok ⟨.insert .empty name (String.ofList (Text.trimEnd (",".intercalate parts).toList))⟩ := by
      rw [parse, readInto_of_read hRead]
      rfl
    refine ⟨_, hParse, ?_⟩
    rw [getList?, get?, Table.get?_insert, if_pos rfl, Option.map_some, items_trimEnd,
      items_of_spreadOut hParts hList]
  · intro flags key value hValue
    refine ⟨items value, by rw [getList?, hValue, Option.map_some],
      fun item hItem => isListItem_of_mem_items hItem, ?_⟩
    intro others other hOther
    rw [getList?, hOther, Option.map_some, items_of_spreadOut (spreadOut_self _)]
    exact fun item hItem => isListItem_of_mem_items hItem

/-- Items with different blanks around them, one of them twice, behind a blank part and around an
empty one. -/
theorem parse_listed_padded :
    ∃ flags, parse ["types=\t,a.B ,,\u3000c.D , a.B\n"] = .ok flags ∧
      flags.getList? "types" = some ["a.B", "c.D", "a.B"] := by
  have hBlank {s : String} (h : s.toList.all Text.isBlank = true) :
      ∀ c ∈ s.toList, Text.isBlank c = true := List.all_eq_true.1 h
  have hLast : SpreadOut [" " ++ "a.B" ++ "\n"] ["a.B"] :=
    .item (hBlank (by decide)) (hBlank (by decide)) .nil
  have hMiddle : SpreadOut ["", "\u3000" ++ "c.D" ++ " ", " " ++ "a.B" ++ "\n"] ["c.D", "a.B"] :=
    .blank (hBlank (by decide)) (.item (hBlank (by decide)) (hBlank (by decide)) hLast)
  have hParts : SpreadOut ["\t", "" ++ "a.B" ++ " ", "", "\u3000" ++ "c.D" ++ " ",
      " " ++ "a.B" ++ "\n"] ["a.B", "c.D", "a.B"] :=
    .blank (hBlank (by decide)) (.item (hBlank (by decide)) (hBlank (by decide)) hMiddle)
  have hName : ¬ marker <+: "types".toList := by decide
  have hItems : ∀ item ∈ ["a.B", "c.D", "a.B"], IsListItem item := by decide
  have hRead := parse_listed (by decide) (by decide) (by decide) hName hItems hParts
  have hText : "types" ++ "=" ++ ",".intercalate ["\t", "" ++ "a.B" ++ " ", "",
      "\u3000" ++ "c.D" ++ " ", " " ++ "a.B" ++ "\n"] = "types=\t,a.B ,,\u3000c.D , a.B\n" := by
    decide +kernel
  rw [hText] at hRead
  exact hRead.1

end Flags

end SafeTypes
