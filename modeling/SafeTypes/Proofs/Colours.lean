import SafeTypes.Proofs.ListingAgreement
import SafeTypes.Proofs.TextListing

/-! The colours of a report. A verdict has the colour of the class of its type, whatever parameters
it names, and taking the colours off a report gives the report without colours. -/
namespace SafeTypes

namespace Registry

/-- No name and no parameter in a registry holds a character. -/
structure IsFreeOf (registry : Registry) (c : Char) : Prop where
  names : ∀ entry ∈ registry.safe.entries, c ∉ entry.1.toList
  parameters : ∀ entry ∈ registry.safe.entries, ∀ parameter ∈ entry.2.containerOf,
    c ∉ parameter.toList
  unsafeNames : ∀ name ∈ registry.unsafeNames, c ∉ name.toList

/-- The colour of the class that a verdict puts a type in. -/
def Verdict.colour : Verdict → Report.Colour
  | .safe => .green
  | .safeIf _ => .green
  | .notSafe => .red
  | .unknown => .yellow

/-- The first word of a verdict is in the table of colours, whatever parameters follow it. -/
theorem Verdict.lookup_colour (verdict : Verdict) :
    Report.verdictColours.lookup (String.ofList (Text.cut ' ' verdict.render.toList).1) =
      some verdict.colour := by
  cases verdict with
  | safe => decide
  | safeIf parameters =>
      have hText : (safeIf parameters).render.toList = "safe".toList ++ ' ' ::
          ("if ".toList ++ (Text.Quoted.commaSeparated parameters).toList ++ " safe".toList) := by
        simp [render]
      rw [hText, Text.cut_append (by decide)]
      rfl
  | notSafe => decide
  | unknown => decide

theorem Verdict.verdictColour_render (verdict : Verdict) :
    Report.verdictColour verdict.render = verdict.colour := by
  rw [Report.verdictColour, verdict.lookup_colour, Option.getD_some]

section Classes

variable (registry : Registry) (name : String)

/-- The colour of a name tells its class. -/
theorem colour_verdict : (registry.verdict name).colour =
    if name ∈ registry.safe.names then .green
    else if name ∈ registry.unsafeNames then .red
    else .yellow := by
  cases hGet : registry.safe.get? name with
  | some record =>
      rw [if_pos (Table.mem_names_iff.2 ⟨record, hGet⟩), verdict_of_some hGet]
      split <;> rfl
  | none =>
      have hNot : name ∉ registry.safe.names := by simp [Table.mem_names_iff, hGet]
      rw [if_neg hNot, verdict_of_none hGet]
      split <;> rfl

theorem colour_eq_green_iff :
    (registry.verdict name).colour = .green ↔ name ∈ registry.safe.names := by
  rw [colour_verdict]
  split_ifs <;> simp [*]

theorem colour_eq_red_iff : (registry.verdict name).colour = .red ↔
    name ∉ registry.safe.names ∧ name ∈ registry.unsafeNames := by
  rw [colour_verdict]
  split_ifs <;> simp [*]

theorem colour_eq_yellow_iff : (registry.verdict name).colour = .yellow ↔
    name ∉ registry.safe.names ∧ name ∉ registry.unsafeNames := by
  rw [colour_verdict]
  split_ifs <;> simp [*]

end Classes

theorem IsFreeOf.render_verdict {registry : Registry} (h : registry.IsFreeOf '\x1b')
    (name : String) : '\x1b' ∉ (registry.verdict name).render.toList := by
  cases hVerdict : registry.verdict name with
  | safe => decide
  | safeIf parameters =>
      obtain ⟨-, record, hRecord, rfl⟩ := verdict_eq_safeIf_iff.1 hVerdict
      have hParameters := h.parameters (name, record) (Table.mem_entries_iff.2 hRecord)
      simpa [Verdict.render] using not_mem_commaSeparated (by decide) hParameters
  | notSafe => decide
  | unknown => decide

end Registry

namespace Report

/-- A text without escape characters has no colours in it. -/
theorem withoutColours_append {s : List Char} (h : '\x1b' ∉ s) (rest : List Char) :
    withoutColours (s ++ rest) = s ++ withoutColours rest := by
  obtain ⟨first, more, hRest, hAll⟩ := Text.exists_pieces_append_left h rest
  simp only [withoutColours, hRest, hAll, List.append_assoc]

/-- A control sequence is taken off, and what follows it is read on its own. -/
theorem withoutColours_sequence {number : List Char} (h : (Text.readDecimal? number).isSome)
    (rest : List Char) :
    withoutColours ('\x1b' :: '[' :: (number ++ 'm' :: rest)) = withoutColours rest := by
  have hDigits : ∀ c ∈ number, c.isDigit = true := by
    rw [Text.readDecimal?, Option.isSome_ite] at h
    exact List.all_eq_true.1 h.2
  have hEnd : 'm' ∉ number := fun hMem => absurd (hDigits 'm' hMem) (by decide)
  have hEscape : '\x1b' ∉ '[' :: (number ++ ['m']) := by
    have hNumber : '\x1b' ∉ number := fun hMem => absurd (hDigits '\x1b' hMem) (by decide)
    simp [hNumber]
  obtain ⟨first, more, hRest, hAll⟩ := Text.exists_pieces_append_left hEscape rest
  have hPieces : Text.pieces '\x1b' ('\x1b' :: '[' :: (number ++ 'm' :: rest)) =
      [] :: ('[' :: (number ++ 'm' :: first)) :: more := by
    simpa [Text.pieces] using hAll
  have hSequence : afterColour? ('[' :: (number ++ 'm' :: first)) = some first := by
    have hBracket (s : List Char) : Text.after? ['['] ('[' :: s) = some s :=
      Text.after?_append ['['] s
    rw [afterColour?, hBracket, Option.bind_some, Text.cut_append hEnd]
    exact if_pos h
  simp only [withoutColours, hPieces, hRest, List.flatMap_cons, hSequence, Option.getD_some,
    List.nil_append]

theorem withoutColours_nil : withoutColours [] = [] :=
  rfl

/-- Without its colours a text is another one, whatever follows it. -/
def FadesTo (text plain : String) : Prop :=
  ∀ rest, withoutColours (text.toList ++ rest) = plain.toList ++ withoutColours rest

namespace FadesTo

variable {first firstPlain second secondPlain text plain : String}

theorem append (hFirst : FadesTo first firstPlain) (hSecond : FadesTo second secondPlain) :
    FadesTo (first ++ second) (firstPlain ++ secondPlain) := by
  intro rest
  rw [String.toList_append, List.append_assoc, hFirst, hSecond, String.toList_append,
    List.append_assoc]

theorem join_map {Item : Type} {items : List Item} {painted written : Item → String}
    (h : ∀ item ∈ items, FadesTo (painted item) (written item)) :
    FadesTo (String.join (items.map painted)) (String.join (items.map written)) := by
  induction items with
  | nil => exact fun _ => rfl
  | cons item items ih =>
      rw [List.forall_mem_cons] at h
      rw [List.map_cons, List.map_cons, String.join_cons, String.join_cons]
      exact h.1.append (ih h.2)

theorem withoutColours_eq (h : FadesTo text plain) : withoutColours text.toList = plain.toList := by
  simpa [withoutColours_nil] using h []

end FadesTo

theorem fadesTo_self {text : String} (h : '\x1b' ∉ text.toList) : FadesTo text text :=
  withoutColours_append h

/-- Colours are taken off a painted text. -/
theorem fadesTo_paint (palette : Palette) (colour : Colour) {text : String}
    (h : '\x1b' ∉ text.toList) : FadesTo (palette.paint colour text) text := by
  cases palette with
  | plain => exact fadesTo_self h
  | coloured =>
      intro rest
      have hText : (Palette.coloured.paint colour text).toList ++ rest =
          '\x1b' :: '[' :: (colour.number.toList ++ 'm' :: (text.toList ++
            '\x1b' :: '[' :: ("0".toList ++ 'm' :: rest))) := by
        simp [Palette.paint]
      have hNumber : (Text.readDecimal? colour.number.toList).isSome := by
        cases colour <;> rfl
      rw [hText, withoutColours_sequence hNumber, withoutColours_append h,
        withoutColours_sequence (by rfl)]

theorem fadesTo_safeLine (palette : Palette) {name : String} {record : SafeType}
    (hName : '\x1b' ∉ name.toList)
    (hParameters : ∀ parameter ∈ record.containerOf, '\x1b' ∉ parameter.toList) :
    FadesTo (safeLine palette name record) (safeLine .plain name record) := by
  have hBracket : '\x1b' ∉ ("[container of " ++
      Text.Quoted.commaSeparated record.containerOf ++ "]").toList := by
    simpa using not_mem_commaSeparated (by decide) hParameters
  have hEnd : FadesTo "\n" "\n" := fadesTo_self (by decide)
  have hSpace : FadesTo " " " " := fadesTo_self (by decide)
  rw [safeLine, safeLine]
  split
  · exact ((fadesTo_paint palette .green hName).append
      (hSpace.append (fadesTo_paint palette .cyan hBracket))).append hEnd
  · exact ((fadesTo_paint palette .green hName).append (fadesTo_self (by decide))).append hEnd

section Reports

variable {registry : Registry} (h : registry.IsFreeOf '\x1b') (palette : Palette)

include h

theorem fadesTo_answer {name : String} (hName : '\x1b' ∉ name.toList) :
    FadesTo (answer registry palette name) (answer registry .plain name) := by
  have hColon : FadesTo ": " ": " := fadesTo_self (by decide)
  have hEnd : FadesTo "\n" "\n" := fadesTo_self (by decide)
  have hVerdict := fadesTo_paint palette (verdictColour (registry.verdict name).render)
    (h.render_verdict name)
  exact (((fadesTo_self hName).append hColon).append hVerdict).append hEnd

theorem fadesTo_answers {names : List String} (hNames : ∀ name ∈ names, '\x1b' ∉ name.toList) :
    FadesTo (answers registry palette names) (answers registry .plain names) :=
  .join_map fun name hName => fadesTo_answer h palette (hNames name hName)

theorem fadesTo_safeTypes :
    FadesTo (safeTypes registry palette .text) (safeTypes registry .plain .text) := by
  have hLine : ∀ entry ∈ registry.safe.sorted,
      FadesTo (safeLine palette entry.1 entry.2) (safeLine .plain entry.1 entry.2) := by
    intro entry hEntry
    have hMem := (List.mergeSort_perm _ _).mem_iff.1 hEntry
    exact fadesTo_safeLine palette (h.names entry hMem) (h.parameters entry hMem)
  have hDash : FadesTo "\n--- " "\n--- " := fadesTo_self (by decide)
  have hSize : '\x1b' ∉ (String.ofList (Text.decimal registry.safe.size)).toList := by
    rw [String.toList_ofList]
    exact Listing.not_mem_decimal (by decide) _
  have hEnd : FadesTo " known thread-safe type(s) ---\n" " known thread-safe type(s) ---\n" :=
    fadesTo_self (by decide)
  exact (((FadesTo.join_map hLine).append hDash).append (fadesTo_self hSize)).append hEnd

theorem fadesTo_unsafeTypes :
    FadesTo (unsafeTypes registry palette .text) (unsafeTypes registry .plain .text) := by
  apply FadesTo.join_map
  intro name hName
  have hEnd : FadesTo "\n" "\n" := fadesTo_self (by decide)
  exact (fadesTo_paint palette .red (h.unsafeNames name hName)).append hEnd

end Reports

/-- Colours show the class of a type and nothing else. The first word of a verdict has a colour of
its own: green if the type is a safe one, red if it is known to be unsafe only, and yellow if it is
in neither list, whatever its parameters are called. This is the colour that an answer sets the
verdict in. If no name and no parameter holds an escape character, the answers and the text
listings are without their colours what they are when they are written plainly. -/
theorem colours_follow_classes (registry : Registry) :
    (∀ name, let verdict := (registry.verdict name).render
      verdictColours.lookup (String.ofList (Text.cut ' ' verdict.toList).1) =
        some (verdictColour verdict) ∧
      (verdictColour verdict = .green ↔ name ∈ registry.safe.names) ∧
      (verdictColour verdict = .red ↔
        name ∉ registry.safe.names ∧ name ∈ registry.unsafeNames) ∧
      (verdictColour verdict = .yellow ↔
        name ∉ registry.safe.names ∧ name ∉ registry.unsafeNames)) ∧
    (∀ names, (CommandLine.Command.lookup names).report registry .coloured =
      String.join (names.map fun name => name ++ ": " ++ ("\x1b[" ++
        (if name ∈ registry.safe.names then "32"
        else if name ∈ registry.unsafeNames then "31" else "33") ++ "m" ++
          (registry.verdict name).render ++ "\x1b[0m") ++ "\n")) ∧
    (registry.IsFreeOf '\x1b' →
      (∀ names, (∀ name ∈ names, '\x1b' ∉ name.toList) →
        withoutColours ((CommandLine.Command.lookup names).report registry .coloured).toList =
          ((CommandLine.Command.lookup names).report registry .plain).toList) ∧
      ∀ showUnsafe,
        withoutColours ((CommandLine.Command.list .text showUnsafe).report registry
          .coloured).toList =
            ((CommandLine.Command.list .text showUnsafe).report registry .plain).toList) := by
  refine ⟨?_, ?_, ?_⟩
  · intro name verdict
    rw [(registry.verdict name).verdictColour_render]
    exact ⟨(registry.verdict name).lookup_colour, registry.colour_eq_green_iff name,
      registry.colour_eq_red_iff name, registry.colour_eq_yellow_iff name⟩
  · intro names
    have hAnswer : answer registry .coloured = fun name => name ++ ": " ++ ("\x1b[" ++
        (if name ∈ registry.safe.names then "32"
        else if name ∈ registry.unsafeNames then "31" else "33") ++ "m" ++
          (registry.verdict name).render ++ "\x1b[0m") ++ "\n" := by
      funext name
      rw [answer, Palette.paint, (registry.verdict name).verdictColour_render,
        registry.colour_verdict]
      split_ifs <;> rfl
    change answers registry .coloured names = _
    rw [answers, hAnswer]
  · intro h
    refine ⟨fun names hNames => (fadesTo_answers h .coloured hNames).withoutColours_eq, ?_⟩
    intro showUnsafe
    cases showUnsafe with
    | false => exact (fadesTo_safeTypes h .coloured).withoutColours_eq
    | true => exact (fadesTo_unsafeTypes h .coloured).withoutColours_eq

/-- Parameters that are empty, hold spaces, and are called as other verdicts are. Only the colours
of the report go, and brackets and letters that a sequence has stay. -/
theorem colours_follow_classes_misleading :
    let registry : Registry :=
      ⟨.ofList [("a[0m", ⟨"a", []⟩), ("b", ⟨"b", ["unsafe", "", "unknown [31m"]⟩)],
        .ofList ["b", "c"]⟩
    (CommandLine.Command.lookup ["b", "c", "d"]).report registry .coloured =
      "b: \x1b[32msafe if unsafe, , unknown [31m safe\x1b[0m\nc: \x1b[31munsafe\x1b[0m\n" ++
        "d: \x1b[33munknown\x1b[0m\n" ∧
    String.ofList (withoutColours
      ((CommandLine.Command.list .text false).report registry .coloured).toList) =
        "a[0m\nb [container of unsafe, , unknown [31m]\n\n--- 2 known thread-safe type(s) ---\n" := by
  intro registry
  have hFree : registry.IsFreeOf '\x1b' := ⟨by decide, by decide, by decide⟩
  obtain ⟨-, hAnswers, hFades⟩ := colours_follow_classes registry
  constructor
  · rw [hAnswers]
    decide +kernel
  · have hSorted : registry.safe.sorted =
        [("a[0m", ⟨"a", []⟩), ("b", ⟨"b", ["unsafe", "", "unknown [31m"]⟩)] := by
      have hEntries : registry.safe.entries =
          [("a[0m", ⟨"a", []⟩), ("b", ⟨"b", ["unsafe", "", "unknown [31m"]⟩)] := by decide
      simp [Table.sorted, hEntries, List.mergeSort, List.MergeSort.Internal.splitInTwo]
    rw [(hFades hFree).2 false, String.ofList_toList]
    change safeTypes registry .plain .text = _
    rw [safeTypes, hSorted]
    decide +kernel

end Report

end SafeTypes
