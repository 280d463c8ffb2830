import SafeTypes.Flags
import SafeTypes.Proofs.LastWrite
import SafeTypes.Proofs.Trimming

/-! Which items are flags, what a flag assigns, and what the first item that is none does to
the reading of a list. An item is judged by its text alone, whatever stands around it, so a list
can be read in parts, and the table of each part is written over those of the parts before. -/
namespace SafeTypes

namespace Flags

/-- Nothing but blanks stands in front of the first equals sign of a malformed item, or in
the whole of it, once it is trimmed and one marker is taken off. -/
def IsMalformed (item : String) : Prop :=
  ∀ c ∈ (withoutMarker (Text.trim item.toList)).takeWhile (· ≠ '='), Text.isBlank c = true

instance (item : String) : Decidable (IsMalformed item) :=
  inferInstanceAs (Decidable (∀ c ∈ _, Text.isBlank c = true))

/-- An item without the blanks around it and without one marker in front. -/
def bare (item : String) : List Char :=
  withoutMarker (Text.trim item.toList)

/-- What an item names, up to its first equals sign. -/
def nameOf (item : String) : String :=
  String.ofList (Text.trim ((bare item).takeWhile (· ≠ '=')))

/-- What an item gives to the name, behind its first equals sign. -/
def valueOf (item : String) : String :=
  if '=' ∈ bare item then String.ofList ((bare item).dropWhile (· ≠ '=')).tail else "true"

theorem withoutMarker_eq_self {s : List Char} (h : ¬ marker <+: s) : withoutMarker s = s := by
  rw [withoutMarker, Text.after?_eq_none h, Option.getD_none]

theorem withoutMarker_append (s : List Char) : withoutMarker (marker ++ s) = s := by
  rw [withoutMarker, Text.after?_append, Option.getD_some]

theorem startsBare_marker_append (s : List Char) : Text.StartsBare (marker ++ s) := by
  intro c hc
  have hMarker : marker.head? = some '-' := rfl
  rw [List.head?_append, hMarker] at hc
  have hFirst : c = '-' := by simpa using hc.symm
  rw [hFirst]
  decide

theorem nameOf_eq_empty_iff {item : String} : nameOf item = "" ↔ IsMalformed item := by
  rw [nameOf, ← String.toList_eq_nil_iff, String.toList_ofList]
  exact Text.trim_eq_nil_iff

theorem readItem_of_malformed {item : String} (h : IsMalformed item) :
    readItem item = .error (.missingName item) := by
  have hName : Text.trim (Text.cut '=' (withoutMarker (Text.trim item.toList))).1 = [] := by
    rw [Text.fst_cut]
    exact Text.trim_eq_nil_iff.2 h
  simp only [readItem, hName]

theorem readItem_of_wellFormed {item : String} (h : ¬ IsMalformed item) :
    readItem item = .ok (nameOf item, valueOf item) := by
  have hValue : ((Text.cut '=' (bare item)).2.map String.ofList).getD "true" = valueOf item := by
    rw [Text.snd_cut, valueOf]
    split <;> rfl
  rw [← hValue]
  simp only [readItem, nameOf, bare, Text.fst_cut]
  split
  · next hNil => exact (h (Text.trim_eq_nil_iff.1 hNil)).elim
  · rfl

/-- A list of flags writes what they assign into the table, one after another. -/
theorem readInto_of_read {items : List String} {assignments : List (String × String)}
    (h : items.map readItem = assignments.map .ok) (values : Table String) :
    readInto values items = .ok (values.insertAll assignments) := by
  induction items generalizing assignments values with
  | nil =>
      rw [List.map_nil] at h
      rw [List.map_eq_nil_iff.1 h.symm]
      rfl
  | cons item rest ih =>
      obtain ⟨assignment, others, rfl, hItem, hRest⟩ := List.map_eq_cons_iff.1 h.symm
      rw [readInto, ← hItem]
      exact ih hRest.symm _

/-- Reading a list stops at its first malformed item, whatever has been read before. -/
theorem readInto_eq_error_iff {items : List String} {values : Table String} {fault : Fault} :
    readInto values items = .error fault ↔
      (items.find? fun item => IsMalformed item).map Fault.missingName = some fault := by
  induction items generalizing values with
  | nil => simp [readInto]
  | cons item rest ih =>
      by_cases h : IsMalformed item
      · simp [readInto, readItem_of_malformed h, h]
      · simp [readInto, readItem_of_wellFormed h, h, ih]

/-- The reading of a list is its first fault, or the table of all that it assigns. -/
theorem parse_eq (items : List String) :
    parse items =
      match items.find? fun item => IsMalformed item with
      | some item => .error (.missingName item)
      | none => .ok ⟨.ofList (items.map fun item => (nameOf item, valueOf item))⟩ := by
  cases hFound : items.find? fun item => IsMalformed item with
  | some item =>
      have hRead : readInto .empty items = .error (.missingName item) := by
        rw [readInto_eq_error_iff, hFound, Option.map_some]
      rw [parse, hRead]
      rfl
  | none =>
      have hItems : items.map readItem =
          (items.map fun item => (nameOf item, valueOf item)).map .ok := by
        rw [List.map_map]
        apply List.map_congr_left
        intro item hItem
        have hSound : ¬ IsMalformed item := by
          simpa using List.find?_eq_none.1 hFound item hItem
        exact readItem_of_wellFormed hSound
      rw [parse, readInto_of_read hItems]
      rfl

theorem parse_of_malformed {items : List String} {item : String}
    (h : (items.find? fun item => IsMalformed item) = some item) :
    parse items = .error (.missingName item) := by
  rw [parse_eq, h]

theorem parse_of_wellFormed {items : List String}
    (h : (items.find? fun item => IsMalformed item) = none) :
    ∃ flags, parse items = .ok flags := by
  rw [parse_eq, h]
  exact ⟨_, rfl⟩

theorem exists_parse_error_iff {items : List String} :
    (∃ fault, parse items = .error fault) ↔ ∃ item ∈ items, IsMalformed item := by
  rw [parse_eq]
  cases hFound : items.find? fun item => IsMalformed item with
  | some item =>
      have hItem : IsMalformed item := by simpa using List.find?_some hFound
      exact ⟨fun _ => ⟨item, List.mem_of_find?_eq_some hFound, hItem⟩, fun _ => ⟨_, rfl⟩⟩
  | none =>
      constructor
      · rintro ⟨fault, hFault⟩
        cases hFault
      · rintro ⟨item, hMem, hItem⟩
        have hSound : ¬ IsMalformed item := by
          simpa using List.find?_eq_none.1 hFound item hMem
        exact (hSound hItem).elim

theorem not_isMalformed_of_parse {items : List String} {flags : Flags}
    (h : parse items = .ok flags) {item : String} (hItem : item ∈ items) :
    ¬ IsMalformed item := by
  intro hMalformed
  obtain ⟨fault, hFault⟩ := exists_parse_error_iff.2 ⟨item, hItem, hMalformed⟩
  rw [h] at hFault
  cases hFault

/-- The first malformed item of a list, as it was written, is what its fault reports. -/
theorem exists_split_of_parse_error {items : List String} {fault : Fault}
    (h : parse items = .error fault) :
    ∃ before item after, items = before ++ item :: after ∧ IsMalformed item ∧
      (∀ earlier ∈ before, ¬ IsMalformed earlier) ∧ fault = .missingName item := by
  rw [parse_eq] at h
  cases hFound : items.find? fun item => IsMalformed item with
  | some item =>
      rw [hFound] at h
      cases h
      obtain ⟨hItem, before, after, hItems, hBefore⟩ := List.find?_eq_some_iff_append.1 hFound
      exact ⟨before, item, after, hItems, by simpa using hItem, by simpa using hBefore, rfl⟩
  | none =>
      rw [hFound] at h
      cases h

/-- Each name that occurs has the value of its last occurrence and the place of its first. -/
theorem lastWins_of_parse {items : List String} {flags : Flags} (h : parse items = .ok flags) :
    flags.values.LastWins (items.map fun item => (nameOf item, valueOf item)) := by
  rw [parse_eq] at h
  split at h
  · cases h
  · cases h
    exact Table.lastWins_ofList _

/-- Reading a list in two parts. A fault of the first part counts before one of the second,
and the assignments of the second part are written over those of the first. -/
theorem parse_append (items more : List String) :
    parse (items ++ more) =
      match parse items, parse more with
      | .error fault, _ => .error fault
      | .ok _, .error fault => .error fault
      | .ok flags, .ok others => .ok ⟨flags.values.overlay others.values⟩ := by
  rw [parse_eq (items ++ more), parse_eq items, parse_eq more, List.find?_append]
  cases items.find? fun item => IsMalformed item with
  | some item => rfl
  | none =>
      cases more.find? fun item => IsMalformed item with
      | some item => rfl
      | none =>
          simp only [Option.none_or, List.map_append, Table.overlay_ofList]

/-- What a list of items is read as. It has a fault exactly if one of its items names nothing,
and the first such item is quoted as it was written. Without a fault each name stands at the
place of its first occurrence and has the value of its last. Items that follow are read as they
are on their own. Their fault counts behind one of the list, and what they assign is written
over what the list assigns. -/
theorem parse_grammar (items more : List String) :
    ((∃ fault, parse items = .error fault) ↔ ∃ item ∈ items, IsMalformed item) ∧
    (∀ fault, parse items = .error fault →
      ∃ before item after, items = before ++ item :: after ∧ IsMalformed item ∧
        (∀ earlier ∈ before, ¬ IsMalformed earlier) ∧
        fault.diagnostic = .flag
          { message := "Malformed flag " ++ Text.Quoted.text item ++ ": missing flag name"
            code := .invalidFlag
            hint := "write flags as Name=Value" }) ∧
    (∀ flags, parse items = .ok flags →
      flags.values.names = (items.map nameOf).eraseDups ∧
      ∀ name, flags.get? name =
        (items.findRev? fun item => nameOf item = name).map valueOf) ∧
    parse (items ++ more) =
      match parse items, parse more with
      | .error fault, _ => .error fault
      | .ok _, .error fault => .error fault
      | .ok flags, .ok others => .ok ⟨flags.values.overlay others.values⟩ := by
  refine ⟨exists_parse_error_iff, ?_, ?_, parse_append items more⟩
  · intro fault hFault
    obtain ⟨before, item, after, hItems, hItem, hBefore, rfl⟩ :=
      exists_split_of_parse_error hFault
    exact ⟨before, item, after, hItems, hItem, hBefore, rfl⟩
  · intro flags hFlags
    have hLog := lastWins_of_parse hFlags
    refine ⟨?_, ?_⟩
    · rw [hLog.order, List.map_map]
      rfl
    · intro name
      rw [get?, hLog.value, Table.lastWrite_map]

end Flags

end SafeTypes
