import SafeTypes.Proofs.FlagReading

/-! The marker in front of an item, and the blanks around it. An item can be given with or without
them. With the marker, blanks in front of the item stand behind the marker, where trimming the item
does not reach them, but they are then in front of the name, which is trimmed itself. -/
namespace SafeTypes

namespace Flags

/-- The reading of a list fails at a position if it can be read up to there and the item at this
position is the one that is reported. -/
structure FailsAt (items : List String) (position : Nat) : Prop where
  before : ∃ flags, parse (items.take position) = .ok flags
  reported : ∃ item, items[position]? = some item ∧ parse items = .error (.missingName item)

/-- An item is reported if it is the first that names nothing. -/
theorem failsAt_of_findIdx? {items : List String} {position : Nat}
    (h : (items.map nameOf).findIdx? (· = "") = some position) : FailsAt items position := by
  obtain ⟨hLength, hName, hEarlier⟩ := List.findIdx?_eq_some_iff_getElem.1 h
  rw [List.length_map] at hLength
  have hMalformed : IsMalformed items[position] := by
    simpa [nameOf_eq_empty_iff] using hName
  have hSound (i : Nat) (hi : i < position) : ¬ IsMalformed items[i] := by
    simpa [nameOf_eq_empty_iff] using hEarlier i hi
  constructor
  · apply parse_of_wellFormed
    rw [List.find?_eq_none]
    intro item hItem
    obtain ⟨i, hi, rfl⟩ := List.mem_take_iff_getElem.1 hItem
    simpa using hSound i (by omega)
  · refine ⟨items[position], List.getElem?_eq_getElem hLength, parse_of_malformed ?_⟩
    rw [List.find?_eq_some_iff_getElem]
    refine ⟨decide_eq_true hMalformed, position, hLength, rfl, ?_⟩
    intro i hi
    simpa using hSound i hi

/-- Items with the same names and values are read alike. -/
theorem parse_congr {items others : List String} (hNames : items.map nameOf = others.map nameOf)
    (hValues : items.map valueOf = others.map valueOf) :
    (∃ flags, parse items = .ok flags ∧ parse others = .ok flags) ∨
      ∃ position, FailsAt items position ∧ FailsAt others position := by
  cases hFound : (items.map nameOf).findIdx? (· = "") with
  | some position =>
      refine .inr ⟨position, failsAt_of_findIdx? hFound, failsAt_of_findIdx? ?_⟩
      rw [← hNames, hFound]
  | none =>
      have hSound {list : List String} (h : (list.map nameOf).findIdx? (· = "") = none) :
          (list.find? fun item => IsMalformed item) = none := by
        simpa [nameOf_eq_empty_iff] using h
      have hAssigned : items.map (fun item => (nameOf item, valueOf item)) =
          others.map fun item => (nameOf item, valueOf item) := by
        rw [← List.zip_map', ← List.zip_map', hNames, hValues]
      refine .inl ⟨⟨.ofList (others.map fun item => (nameOf item, valueOf item))⟩, ?_, ?_⟩
      · rw [parse_eq, hSound hFound, hAssigned]
      · rw [parse_eq, hSound (hNames ▸ hFound)]

/-- Blanks in front of what is left of an item do not count. -/
theorem assignment_of_bare {item other : String} {blanks : List Char}
    (hBlanks : ∀ c ∈ blanks, Text.isBlank c = true) (h : bare other = blanks ++ bare item) :
    nameOf other = nameOf item ∧ valueOf other = valueOf item := by
  have hEquals : ∀ c ∈ blanks, decide (c ≠ '=') = true := by
    intro c hc
    refine decide_eq_true fun hEq => ?_
    have hBlank := hBlanks c hc
    rw [hEq] at hBlank
    exact absurd hBlank (by decide)
  have hMem : '=' ∈ blanks ++ bare item ↔ '=' ∈ bare item := by
    rw [List.mem_append, or_iff_right]
    intro hMem
    exact of_decide_eq_true (hEquals _ hMem) rfl
  refine ⟨?_, ?_⟩
  · rw [nameOf, h, List.takeWhile_append_of_pos hEquals, nameOf, Text.trim,
      Text.trimStart_append_of_all hBlanks, Text.trim]
  · rw [valueOf, h, List.dropWhile_append_of_pos hEquals, valueOf]
    simp only [hMem]

/-- The marker ends in a colon, so trimming does not go into it. -/
theorem trim_marker_append (s : List Char) : Text.trim (marker ++ s) = marker ++ Text.trimEnd s := by
  have hMarker : marker = "-XepOpt".toList ++ [':'] := rfl
  rw [Text.trim, Text.trimStart_eq_self (startsBare_marker_append s), hMarker, List.append_assoc,
    List.append_assoc]
  exact Text.trimEnd_append_cons (by decide) _ _

/-- What is left of a marked item may still have blanks in front of it. -/
theorem bare_marked {left right : String} (hLeft : ∀ c ∈ left.toList, Text.isBlank c = true)
    (hRight : ∀ c ∈ right.toList, Text.isBlank c = true) (item : String) :
    bare (left ++ "-XepOpt:" ++ item ++ right) = Text.trimEnd item.toList := by
  have hText : (left ++ "-XepOpt:" ++ item ++ right).toList =
      left.toList ++ (marker ++ item.toList) ++ right.toList := by
    have hMarker : "-XepOpt:".toList = marker := rfl
    rw [String.toList_append, String.toList_append, String.toList_append, hMarker,
      List.append_assoc left.toList]
  rw [bare, hText, Text.trim_append_append hLeft hRight, trim_marker_append, withoutMarker_append]

/-- With the marker in front and blanks around both, an item has the name and the value that it has
without them. -/
theorem assignment_marked {item left right : String} (hItem : ¬ marker <+: Text.trim item.toList)
    (hLeft : ∀ c ∈ left.toList, Text.isBlank c = true)
    (hRight : ∀ c ∈ right.toList, Text.isBlank c = true) :
    nameOf (left ++ "-XepOpt:" ++ item ++ right) = nameOf item ∧
      valueOf (left ++ "-XepOpt:" ++ item ++ right) = valueOf item := by
  obtain ⟨blanks, hBlanks, hEnd⟩ := Text.exists_trimEnd_eq_append_trim item.toList
  have hBare : bare item = Text.trim item.toList := withoutMarker_eq_self hItem
  apply assignment_of_bare hBlanks
  rw [bare_marked hLeft hRight, hEnd, hBare]

/-- The marker and the blanks around an item are optional. An item that does not begin with the
marker once it is trimmed can be replaced by itself with the marker in front, and with any blanks
around the two, wherever it stands in a list. The list is then read as the same table in the same
order, or its reading fails at the same position. The blanks of the item itself stay, so some of
them can come to stand between the marker and the name. -/
theorem parse_marked (before after : List String) {item left right : String}
    (hItem : ¬ marker <+: Text.trim item.toList)
    (hLeft : ∀ c ∈ left.toList, Text.isBlank c = true)
    (hRight : ∀ c ∈ right.toList, Text.isBlank c = true) :
    let plain := before ++ item :: after
    let marked := before ++ (left ++ "-XepOpt:" ++ item ++ right) :: after
    (∃ flags, parse plain = .ok flags ∧ parse marked = .ok flags) ∨
      ∃ position, FailsAt plain position ∧ FailsAt marked position := by
  intro plain marked
  obtain ⟨hName, hValue⟩ := assignment_marked hItem hLeft hRight
  apply parse_congr
  · simp [plain, marked, hName]
  · simp [plain, marked, hValue]

/-- An item with blanks of its own at its front, at its end and around its equals sign, and a blank
one, which has no name with the marker as little as without it. -/
theorem parse_marked_padded :
    (∃ flags, parse ["x=1", " a = b ", "x"] = .ok flags ∧
      parse ["x=1", "\t-XepOpt: a = b \u3000\n", "x"] = .ok flags) ∧
    ∃ position, FailsAt ["x=1", " \t", "=2"] position ∧
      FailsAt ["x=1", "\n-XepOpt: \t ", "=2"] position := by
  have hBlank {s : String} (h : s.toList.all Text.isBlank = true) :
      ∀ c ∈ s.toList, Text.isBlank c = true := List.all_eq_true.1 h
  have hNamed : ¬ marker <+: Text.trim " a = b ".toList := by decide
  have hEmpty : ¬ marker <+: Text.trim " \t".toList := by decide
  have hTab : "\t".toList.all Text.isBlank = true := by decide
  have hWide : "\u3000\n".toList.all Text.isBlank = true := by decide
  have hLine : "\n".toList.all Text.isBlank = true := by decide
  have hSpace : " ".toList.all Text.isBlank = true := by decide
  refine ⟨?_, ?_⟩
  · have hTable : parse ["x=1", " a = b ", "x"] =
        .ok (.ofList [("x", "true"), ("a", " b")]) := by decide +kernel
    refine (parse_marked ["x=1"] ["x"] hNamed (hBlank hTab) (hBlank hWide)).resolve_right ?_
    rintro ⟨position, hFails, _⟩
    obtain ⟨_, _, hError⟩ := hFails.reported
    cases hError.symm.trans hTable
  · have hFault : parse ["x=1", " \t", "=2"] = .error (.missingName " \t") := by decide +kernel
    refine (parse_marked ["x=1"] ["=2"] hEmpty (hBlank hLine) (hBlank hSpace)).resolve_left ?_
    rintro ⟨flags, hFlags, _⟩
    cases hFault.symm.trans hFlags

end Flags

end SafeTypes
