import SafeTypes.Proofs.FlagReading

/-! Writing flags and reading them again. The tables that lists of items are read as are those
whose names and values an item can assign, and each of them is read back, in its order, from the
items that are written for its entries. -/
namespace SafeTypes

namespace Flags

/-- What an item can assign. A name may begin with the marker, and a value may be empty, begin
with blanks, and hold equals signs and commas. -/
structure IsAssignment (name value : String) : Prop where
  name_ne_empty : name ≠ ""
  isTrimmed_name : Text.IsTrimmed name.toList
  equals_not_mem_name : '=' ∉ name.toList
  endsBare_value : Text.EndsBare value.toList

/-- The item that is written for a name and a value. -/
def writeItem (name value : String) : String :=
  "-XepOpt:" ++ name ++ "=" ++ value

theorem toList_writeItem (name value : String) :
    (writeItem name value).toList = marker ++ (name.toList ++ '=' :: value.toList) := by
  have hEquals : "=".toList = ['='] := rfl
  have hMarker : "-XepOpt:".toList = marker := rfl
  rw [writeItem, String.toList_append, String.toList_append, String.toList_append, hEquals, hMarker]
  simp only [List.append_assoc, List.cons_append, List.nil_append]

theorem isSuffix_withoutMarker (s : List Char) : withoutMarker s <:+ s := by
  rw [withoutMarker, Text.after?]
  split
  · exact List.drop_suffix _ _
  · exact List.suffix_refl s

theorem endsBare_bare (item : String) : Text.EndsBare (bare item) :=
  Text.endsBare_of_suffix (isSuffix_withoutMarker _) (Text.isTrimmed_trim _).back

/-- The end of a value is the end of its item, which is trimmed, or of the value that a name
alone has. -/
theorem endsBare_valueOf (item : String) : Text.EndsBare (valueOf item).toList := by
  rw [valueOf]
  split
  · rw [String.toList_ofList]
    refine Text.endsBare_of_suffix ?_ (endsBare_bare item)
    exact (List.tail_suffix _).trans (List.dropWhile_suffix _)
  · intro c hc
    have hLast : c = 'e' := by simpa using hc.symm
    rw [hLast]
    decide

theorem isAssignment_of_wellFormed {item : String} (h : ¬ IsMalformed item) :
    IsAssignment (nameOf item) (valueOf item) where
  name_ne_empty := mt nameOf_eq_empty_iff.1 h
  isTrimmed_name := by
    rw [nameOf, String.toList_ofList]
    exact Text.isTrimmed_trim _
  equals_not_mem_name := by
    intro hMem
    rw [nameOf, String.toList_ofList] at hMem
    have hBefore := Text.trim_subset _ hMem
    rw [← Text.fst_cut] at hBefore
    exact Text.not_mem_cut '=' (bare item) hBefore
  endsBare_value := endsBare_valueOf item

/-- A written item begins with the marker and ends as its value does, or with the equals sign,
so trimming it takes nothing off. -/
theorem isTrimmed_writeItem {name value : String} (h : Text.EndsBare value.toList) :
    Text.IsTrimmed (writeItem name value).toList := by
  rw [toList_writeItem]
  constructor
  · exact startsBare_marker_append _
  · intro c hc
    rw [List.getLast?_append, List.getLast?_append, List.getLast?_cons] at hc
    cases hValue : value.toList.getLast? with
    | some last =>
        have hLast : c = last := by simpa [hValue] using hc.symm
        rw [hLast]
        exact h last hValue
    | none =>
        have hLast : c = '=' := by simpa [hValue] using hc.symm
        rw [hLast]
        decide

theorem bare_writeItem {name value : String} (h : Text.EndsBare value.toList) :
    bare (writeItem name value) = name.toList ++ '=' :: value.toList := by
  rw [bare, (isTrimmed_writeItem h).trim_eq, toList_writeItem, withoutMarker_append]

/-- The name of an item is cut off at its first equals sign, and the rest is its value. -/
theorem readItem_of_bare {item name value : String} (hNe : name ≠ "")
    (hTrimmed : Text.IsTrimmed name.toList) (hEquals : '=' ∉ name.toList)
    (hBare : bare item = name.toList ++ '=' :: value.toList) :
    readItem item = .ok (name, value) := by
  have hCut := Text.cut_append hEquals value.toList
  have hName : nameOf item = name := by
    rw [nameOf, hBare, ← Text.fst_cut, hCut, hTrimmed.trim_eq, String.ofList_toList]
  have hValue : valueOf item = value := by
    have hMem : '=' ∈ bare item := by simp [hBare]
    have hSecond := Text.snd_cut '=' (bare item)
    rw [hBare, hCut, ← hBare, if_pos hMem, Option.some.injEq] at hSecond
    rw [valueOf, if_pos hMem, ← hSecond, String.ofList_toList]
  have hSound : ¬ IsMalformed item := by
    rw [← nameOf_eq_empty_iff, hName]
    exact hNe
  rw [readItem_of_wellFormed hSound, hName, hValue]

theorem readItem_writeItem {name value : String} (h : IsAssignment name value) :
    readItem (writeItem name value) = .ok (name, value) :=
  readItem_of_bare h.name_ne_empty h.isTrimmed_name h.equals_not_mem_name
    (bare_writeItem h.endsBare_value)

/-- The items of assignments to different names are read as these assignments, in order. -/
theorem parse_writeItem {entries : List (String × String)} (hNames : (entries.map Prod.fst).Nodup)
    (h : ∀ entry ∈ entries, IsAssignment entry.1 entry.2) :
    parse (entries.map fun entry => writeItem entry.1 entry.2) = .ok ⟨⟨entries, hNames⟩⟩ := by
  have hRead : (entries.map fun entry => writeItem entry.1 entry.2).map readItem =
      entries.map .ok := by
    rw [List.map_map]
    apply List.map_congr_left
    intro entry hEntry
    rw [Function.comp_apply, readItem_writeItem (h entry hEntry)]
  have hTable : (⟨entries, hNames⟩ : Table String) = .ofList entries :=
    (Table.lastWins_entries ⟨entries, hNames⟩).eq_ofList
  rw [parse, readInto_of_read hRead, hTable]
  rfl

theorem isAssignment_of_parse {items : List String} {flags : Flags}
    (h : parse items = .ok flags) :
    ∀ entry ∈ flags.values.entries, IsAssignment entry.1 entry.2 := by
  intro entry hEntry
  have hWritten := (lastWins_of_parse h).subset hEntry
  obtain ⟨item, hItem, rfl⟩ := List.mem_map.1 hWritten
  exact isAssignment_of_wellFormed (not_isMalformed_of_parse h hItem)

/-- The ordered lists of names and values that some items are read as are those with different
names whose pairs an item can assign. Each of them is what its own written items are read as,
with its pairs in their order. -/
theorem parse_image (entries : List (String × String)) :
    ((∃ items flags, parse items = .ok flags ∧ flags.values.entries = entries) ↔
      (entries.map Prod.fst).Nodup ∧ ∀ entry ∈ entries, IsAssignment entry.1 entry.2) ∧
    ((∃ items flags, parse items = .ok flags ∧ flags.values.entries = entries) ↔
      ∃ flags, parse (entries.map fun entry => writeItem entry.1 entry.2) = .ok flags ∧
        flags.values.entries = entries) := by
  have hClean : (∃ items flags, parse items = .ok flags ∧ flags.values.entries = entries) →
      (entries.map Prod.fst).Nodup ∧ ∀ entry ∈ entries, IsAssignment entry.1 entry.2 := by
    rintro ⟨items, flags, hFlags, rfl⟩
    exact ⟨flags.values.nodup_names, isAssignment_of_parse hFlags⟩
  have hWritten : ((entries.map Prod.fst).Nodup ∧
        ∀ entry ∈ entries, IsAssignment entry.1 entry.2) →
      ∃ flags, parse (entries.map fun entry => writeItem entry.1 entry.2) = .ok flags ∧
        flags.values.entries = entries := by
    rintro ⟨hNames, hEntries⟩
    exact ⟨_, parse_writeItem hNames hEntries, rfl⟩
  refine ⟨⟨hClean, ?_⟩, ⟨fun h => hWritten (hClean h), ?_⟩⟩
  · intro h
    exact ⟨_, hWritten h⟩
  · intro h
    exact ⟨_, h⟩

/-- A name that begins with the marker, a value with blanks, equals signs and commas, and an
empty value. -/
example : parse ["-XepOpt:-XepOpt:a= b,=c", "-XepOpt:d="] =
    .ok (.ofList [("-XepOpt:a", " b,=c"), ("d", "")]) := by
  decide +kernel

end Flags

end SafeTypes
