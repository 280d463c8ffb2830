import SafeTypes.Package.Requirements
import SafeTypes.Proofs.Lines
import SafeTypes.Proofs.Trimming

/-! Lists of required packages against the texts that list them. A text lists one package a line,
with blanks around it, and blank lines and comments between the lines do not count. -/
namespace SafeTypes.Package

/-- What a line can list. -/
structure IsEntry (item : String) : Prop where
  ne_empty : item ≠ ""
  isTrimmed : Text.IsTrimmed item.toList
  isUnbroken : Text.IsUnbroken item.toList
  not_comment : item.toList.head? ≠ some '#'

/-- What one line lists. A comment may stand behind blanks, but not behind an entry. -/
inductive LineLists : List Char → List String → Prop where
  | blank {line : List Char} (h : ∀ c ∈ line, Text.isBlank c = true) : LineLists line []
  | comment {before : List Char} (hBefore : ∀ c ∈ before, Text.isBlank c = true)
      (words : List Char) : LineLists (before ++ '#' :: words) []
  | entry {before after : List Char} {item : String} (hItem : IsEntry item)
      (hBefore : ∀ c ∈ before, Text.isBlank c = true)
      (hAfter : ∀ c ∈ after, Text.isBlank c = true) :
      LineLists (before ++ item.toList ++ after) [item]

/-- The lines of a text list some items in order. Nothing stands behind the last line, which may be
empty, and each line in front of it has an end of its own. -/
inductive Lists : List Char → List String → Prop where
  | last {line : List Char} {items : List String} (hLine : LineLists line items)
      (hUnbroken : Text.IsUnbroken line) : Lists line items
  | cons {line ending rest : List Char} {items others : List String}
      (hLine : LineLists line items) (hUnbroken : Text.IsUnbroken line)
      (hEnding : Text.IsLineBreak ending) (hRest : Lists rest others) :
      Lists (line ++ ending ++ rest) (items ++ others)

/-- What is read of one line. -/
def entryOf (line : List Char) : List String :=
  if isRequirement (Text.trim line) then [String.ofList (Text.trim line)] else []

/-- What is read of a text, line by line. -/
def entries (s : List Char) : List String :=
  (Text.lines (Text.withNewlines s)).flatMap entryOf

theorem readRequirements_eq (text : String) : readRequirements text = entries text.toList := by
  rw [readRequirements, entries]
  induction Text.lines (Text.withNewlines text.toList) with
  | nil => rfl
  | cons line rest ih =>
      rw [List.map_cons, List.flatMap_cons, ← ih, entryOf, List.filter_cons]
      split <;> rfl

theorem entries_of_unbroken {line : List Char} (h : Text.IsUnbroken line) :
    entries line = entryOf line := by
  rw [entries, Text.withNewlines_eq_self h.return_not_mem,
    Text.lines_of_forall h.isLineEnd_eq_false]
  split
  · next hNil => rw [hNil]; rfl
  · rw [List.flatMap_singleton]

theorem entries_lineEnd_append {line : List Char} (h : Text.IsUnbroken line)
    {c : Char} (hc : Text.isLineEnd c = true) {s rest : List Char}
    (hs : Text.withNewlines s = c :: Text.withNewlines rest) :
    entries (line ++ s) = entryOf line ++ entries rest := by
  rw [entries, Text.withNewlines_append h.return_not_mem, hs,
    Text.lines_append_cons h.isLineEnd_eq_false hc, List.flatMap_cons, entries]

/-- Each line is read by itself, whatever it ends with. A newline behind a carriage return is an
empty line at most, and nothing is read of that. -/
theorem entries_append_cons {line : List Char} (h : Text.IsUnbroken line)
    {c : Char} (hc : Text.isBreak c = true) (rest : List Char) :
    entries (line ++ c :: rest) = entryOf line ++ entries rest := by
  by_cases hReturn : c = '\r'
  · subst hReturn
    by_cases hPair : rest.head? = some '\n'
    · obtain ⟨rest, rfl⟩ := List.head?_eq_some_iff.1 hPair
      have hEmpty : entries ('\n' :: rest) = entries rest :=
        entries_lineEnd_append (List.forall_mem_nil _) (by decide)
          (Text.withNewlines_cons (by decide) rest)
      have hOne : Text.withNewlines ('\r' :: '\n' :: rest) = '\n' :: Text.withNewlines rest := by
        rw [Text.withNewlines]
      rw [hEmpty]
      exact entries_lineEnd_append h rfl hOne
    · exact entries_lineEnd_append h rfl (Text.withNewlines_return hPair)
  · have hEnd : Text.isLineEnd c = true := by simpa [Text.isBreak, hReturn] using hc
    exact entries_lineEnd_append h hEnd (Text.withNewlines_cons hReturn rest)

theorem entries_append_ending {line ending : List Char} (h : Text.IsUnbroken line)
    (hEnding : Text.IsLineBreak ending) (rest : List Char) :
    entries (line ++ ending ++ rest) = entryOf line ++ entries rest := by
  rw [List.append_assoc]
  cases hEnding with
  | pair =>
      have hEmpty : entries ('\n' :: rest) = entries rest :=
        entries_append_cons (List.forall_mem_nil _) (by decide) rest
      rw [← hEmpty]
      exact entries_append_cons h (by decide) _
  | single hc => exact entries_append_cons h hc rest

theorem IsEntry.isRequirement {item : String} (h : IsEntry item) :
    isRequirement item.toList = true := by
  have hNe := h.ne_empty
  have hComment := h.not_comment
  rw [Ne, ← String.toList_eq_nil_iff] at hNe
  cases hItem : item.toList with
  | nil => exact (hNe hItem).elim
  | cons c rest => simpa [Package.isRequirement, hItem] using hComment

/-- Trimming a line that lists something leaves what it lists. -/
theorem LineLists.entryOf_eq {line : List Char} {items : List String} (h : LineLists line items) :
    entryOf line = items := by
  cases h with
  | blank hBlank =>
      rw [entryOf, Text.trim_eq_nil_of_all hBlank]
      rfl
  | @comment before hBefore words =>
      have hTrim : Text.trim (before ++ '#' :: words) = '#' :: Text.trimEnd words := by
        rw [Text.trim, Text.trimStart_append_cons hBefore (by decide)]
        exact Text.trimEnd_append_cons (by decide) [] words
      rw [entryOf, hTrim]
      rfl
  | entry hItem hBefore hAfter =>
      rw [entryOf, Text.trim_append_append hBefore hAfter, hItem.isTrimmed.trim_eq,
        if_pos hItem.isRequirement, String.ofList_toList]

/-- A line is blank, a comment, or an entry with blanks around it. -/
theorem lineLists_entryOf {line : List Char} (h : Text.IsUnbroken line) :
    LineLists line (entryOf line) := by
  obtain ⟨after, hAfter, hEnd⟩ := Text.exists_trimEnd_append line
  obtain ⟨before, hBefore, hStart⟩ := Text.exists_trimEnd_eq_append_trim line
  have hLine : before ++ Text.trim line ++ after = line := by rw [← hStart, hEnd]
  rw [entryOf]
  cases hTrim : Text.trim line with
  | nil => exact .blank (Text.trim_eq_nil_iff.1 hTrim)
  | cons c rest =>
      by_cases hComment : c = '#'
      · have hWords : before ++ '#' :: (rest ++ after) = line := by
          rw [← hLine, hTrim, hComment, List.append_assoc, List.cons_append]
        rw [hComment, ← hWords]
        exact .comment hBefore _
      · have hItem : IsEntry (String.ofList (Text.trim line)) := by
          constructor
          · simp [← String.toList_inj, hTrim]
          · rw [String.toList_ofList]
            exact Text.isTrimmed_trim line
          · rw [String.toList_ofList]
            exact fun d hd => h d (Text.trim_subset line hd)
          · simpa [hTrim] using hComment
        have hEntry := LineLists.entry hItem hBefore hAfter
        rw [String.toList_ofList, hLine, hTrim] at hEntry
        rwa [if_pos (by simpa [isRequirement] using hComment)]

/-- Reading is exact: a text lists what is read of it, and nothing else. -/
theorem entries_eq_iff {s : List Char} {items : List String} :
    entries s = items ↔ Lists s items := by
  constructor
  · rintro rfl
    induction s using Text.induction_lines Text.isBreak with
    | last line hLine =>
        rw [entries_of_unbroken hLine]
        exact .last (lineLists_entryOf hLine) hLine
    | cons line c rest hLine hc ih =>
        rw [entries_append_cons hLine hc]
        have hAll := Lists.cons (lineLists_entryOf hLine) hLine (.single hc) ih
        simpa using hAll
  · intro h
    induction h with
    | last hLine hUnbroken => rw [entries_of_unbroken hUnbroken, hLine.entryOf_eq]
    | cons hLine hUnbroken hEnding _ ih =>
        rw [entries_append_ending hUnbroken hEnding, hLine.entryOf_eq, ih]

theorem Lists.isEntry {s : List Char} {items : List String} (h : Lists s items) :
    ∀ item ∈ items, IsEntry item := by
  have hLine {line : List Char} {items : List String} (h : LineLists line items) :
      ∀ item ∈ items, IsEntry item := by
    cases h with
    | blank => exact List.forall_mem_nil _
    | comment => exact List.forall_mem_nil _
    | entry hItem => exact List.forall_mem_singleton.2 hItem
  induction h with
  | last hLast => exact hLine hLast
  | cons hFirst _ _ _ ih => exact List.forall_mem_append.2 ⟨hLine hFirst, ih⟩

theorem IsEntry.lineLists {item : String} (h : IsEntry item) :
    LineLists item.toList [item] := by
  simpa using LineLists.entry h (List.forall_mem_nil _) (List.forall_mem_nil _)

section Written

variable {items : List String} (h : ∀ item ∈ items, IsEntry item) {ending : List Char}
  (hEnding : Text.IsLineBreak ending)

include h hEnding

/-- Entries with an end behind each are listed by what they are written as. -/
theorem lists_flatMap : Lists (items.flatMap fun item => item.toList ++ ending) items := by
  induction items with
  | nil => exact .last (.blank (List.forall_mem_nil _)) (List.forall_mem_nil _)
  | cons item rest ih =>
      rw [List.forall_mem_cons] at h
      exact .cons h.1.lineLists h.1.isUnbroken hEnding (ih h.2)

/-- The same holds of entries with an end between any two of them. -/
theorem lists_intercalate : Lists (ending.intercalate (items.map String.toList)) items := by
  induction items with
  | nil => exact .last (.blank (List.forall_mem_nil _)) (List.forall_mem_nil _)
  | cons item rest ih =>
      rw [List.forall_mem_cons] at h
      cases rest with
      | nil => simpa using Lists.last h.1.lineLists h.1.isUnbroken
      | cons next rest =>
          rw [List.map_cons, List.map_cons, List.intercalate_cons_cons]
          exact .cons h.1.lineLists h.1.isUnbroken hEnding (ih h.2)

end Written

/-- What is required is what the lines of a text list. All that is read of a text can stand on a
line: it is not empty, has no blank at its ends and no line end inside, and is no comment. Written
again with the same end behind or between all lines, it is read as it was. A text is read as some
items exactly if its lines list them in order, each with any blanks around it and any line end
behind it, with blank lines and comments anywhere and an end behind the last line or none. -/
theorem requirements_listed (text : String) :
    (∀ item ∈ readRequirements text, IsEntry item) ∧
    (∀ ending : String, Text.IsLineBreak ending.toList →
      readRequirements (String.join ((readRequirements text).map (· ++ ending))) =
        readRequirements text ∧
      readRequirements (ending.intercalate (readRequirements text)) = readRequirements text) ∧
    ∀ items, readRequirements text = items ↔ Lists text.toList items := by
  have hEntries : ∀ item ∈ readRequirements text, IsEntry item := by
    rw [readRequirements_eq]
    exact (entries_eq_iff.1 rfl).isEntry
  refine ⟨hEntries, ?_, ?_⟩
  · intro ending hEnding
    constructor
    · rw [readRequirements_eq (String.join _), entries_eq_iff]
      simpa [List.flatMap_map] using lists_flatMap hEntries hEnding
    · rw [readRequirements_eq (ending.intercalate _), entries_eq_iff, String.toList_intercalate]
      exact lists_intercalate hEntries hEnding
  · intro items
    rw [readRequirements_eq, entries_eq_iff]

/-- An indented comment, an entry with a number sign inside and blanks around it, line ends of
several kinds next to each other, and a last line without an end. -/
theorem requirements_listed_mixed :
    let text := "\t# none\r\n\u3000termcolor>=2.0 # x \x0b\u001f\u0085b\r\r\n#c\u2028 a"
    let items := ["termcolor>=2.0 # x", "b", "a"]
    Lists text.toList items ∧ readRequirements text = items ∧
      readRequirements "termcolor>=2.0 # x\r\nb\r\na\r\n" = items := by
  intro text items
  have hRead : readRequirements text = items := by decide +kernel
  have hListed := requirements_listed text
  have hAgain := (hListed.2.1 "\r\n" .pair).1
  rw [hRead] at hAgain
  exact ⟨(hListed.2.2 items).1 hRead, hRead, hAgain⟩

end SafeTypes.Package
