import SafeTypes.Proofs.Increasing
import SafeTypes.Proofs.Trimming
import SafeTypes.Report.Reader
import SafeTypes.Session

/-! Reading gives back what a text listing was made of, as long as no name has a space in it, no
parameter a comma and neither a newline. Brackets and the words between them may come anywhere. -/
namespace SafeTypes

theorem not_mem_intercalate {Item : Type} {x : Item} {separator : List Item}
    {lists : List (List Item)} (hSeparator : x ∉ separator) (h : ∀ list ∈ lists, x ∉ list) :
    x ∉ separator.intercalate lists := by
  induction lists with
  | nil => exact List.not_mem_nil
  | cons first rest ih =>
      rw [List.forall_mem_cons] at h
      cases rest with
      | nil => simpa using h.1
      | cons next rest =>
          rw [List.intercalate_cons_cons, List.mem_append, List.mem_append]
          rintro ((hFirst | hBetween) | hRest)
          · exact h.1 hFirst
          · exact hSeparator hBetween
          · exact ih h.2 hRest

theorem not_mem_commaSeparated {c : Char} (hc : c ∉ ", ".toList) {items : List String}
    (h : ∀ item ∈ items, c ∉ item.toList) : c ∉ (Text.Quoted.commaSeparated items).toList := by
  rw [Text.Quoted.commaSeparated, String.toList_intercalate]
  exact not_mem_intercalate hc (by simpa using h)

namespace Report.Listing

/-- The line of one type without colours. -/
def line (name : String) (parameters : List String) : String :=
  if parameters = [] then name
  else name ++ " " ++ ("[container of " ++ ", ".intercalate parameters ++ "]")

def lastLine (count : Nat) : String :=
  "--- " ++ String.ofList (Text.decimal count) ++ " known thread-safe type(s) ---"

def lines (listing : Listing) : List String :=
  (listing.entries.map fun entry => line entry.1 entry.2) ++ ["", lastLine listing.count]

def write (listing : Listing) : String :=
  String.join (listing.lines.map (· ++ "\n"))

/-- What the listing of a registry says. -/
def ofRegistry (registry : Registry) : Listing where
  entries := registry.safe.sorted.map fun entry => (entry.1, entry.2.containerOf)
  count := registry.safe.size

/-- Each name ends before the first space of its line, each parameter before the next comma, and
each line before the next newline. -/
def IsReadable (listing : Listing) : Prop :=
  ∀ entry ∈ listing.entries, (' ' ∉ entry.1.toList ∧ '\n' ∉ entry.1.toList) ∧
    ∀ parameter ∈ entry.2, ',' ∉ parameter.toList ∧ '\n' ∉ parameter.toList

theorem lastLine_eq (count : Nat) :
    lastLine count = "--- " ++ toString count ++ " known thread-safe type(s) ---" := by
  rw [lastLine, Text.decimal, ← Nat.repr_eq_ofList_toDigits]
  rfl

theorem safeLine_plain (name : String) (record : SafeType) :
    safeLine .plain name record = line name record.containerOf ++ "\n" := by
  rw [safeLine, line]
  by_cases h : record.containerOf = []
  · simp [Palette.paint, SafeType.isConditional, h]
  · simp [Palette.paint, SafeType.isConditional, h, Text.Quoted.commaSeparated,
      String.append_assoc]

theorem safeTypes_plain (registry : Registry) :
    safeTypes registry .plain .text = (ofRegistry registry).write := by
  have hEntries : (registry.safe.sorted.map fun entry => safeLine .plain entry.1 entry.2) =
      ((ofRegistry registry).entries.map fun entry => line entry.1 entry.2).map (· ++ "\n") := by
    simp [ofRegistry, safeLine_plain]
  rw [safeTypes, hEntries, write, lines, List.map_append, String.join_append]
  simp [ofRegistry, lastLine, ← String.toList_inj]

/-- Each item is read from what was written for it alone. -/
theorem mapM_map_of_read {Item Written : Type} {read? : Written → Option Item}
    {write : Item → Written} {items : List Item}
    (h : ∀ item ∈ items, read? (write item) = some item) :
    (items.map write).mapM read? = some items := by
  induction items with
  | nil => rfl
  | cons item rest ih =>
      rw [List.forall_mem_cons] at h
      rw [List.map_cons, List.mapM_cons, h.1, ih h.2]
      rfl

theorem pieces_commaSeparated {first : String} {rest : List String}
    (h : ∀ parameter ∈ first :: rest, ',' ∉ parameter.toList) :
    Text.pieces ',' (", ".intercalate (first :: rest)).toList =
      first.toList :: (rest.map String.toList).map ([' '] ++ ·) := by
  induction rest generalizing first with
  | nil =>
      have hFirst := h first List.mem_cons_self
      simp [Text.pieces_of_not_mem hFirst]
  | cons next rest ih =>
      rw [List.forall_mem_cons] at h
      have hText : (", ".intercalate (first :: next :: rest)).toList =
          first.toList ++ ',' :: ' ' :: (", ".intercalate (next :: rest)).toList := by
        simp
      rw [hText, Text.pieces_append_cons h.1, Text.pieces, if_neg (by decide), ih h.2]
      rfl

/-- Exactly one space behind each comma is taken off, so that a parameter keeps its own. -/
theorem parameters?_commaSeparated {parameters : List String} (hNe : parameters ≠ [])
    (h : ∀ parameter ∈ parameters, ',' ∉ parameter.toList) :
    parameters? (", ".intercalate parameters).toList = some parameters := by
  obtain ⟨first, rest, rfl⟩ := List.exists_cons_of_ne_nil hNe
  have hRest : ((rest.map String.toList).map ([' '] ++ ·)).mapM (Text.after? [' ']) =
      some (rest.map String.toList) :=
    mapM_map_of_read fun parameter _ => Text.after?_append [' '] parameter
  rw [parameters?, pieces_commaSeparated h]
  simp only [hRest, Option.map_some]
  simp [Function.comp_def]

/-- The bracket that closes the parameters is the last character of the line, whatever brackets the
parameters have. -/
theorem entry?_line {name : String} {parameters : List String} (hName : ' ' ∉ name.toList)
    (h : ∀ parameter ∈ parameters, ',' ∉ parameter.toList) :
    entry? (line name parameters).toList = some (name, parameters) := by
  rw [line]
  by_cases hNil : parameters = []
  · rw [if_pos hNil, entry?, Text.cut_of_not_mem hName, hNil]
    simp only [String.ofList_toList]
  · have hLine : (name ++ " " ++ ("[container of " ++ ", ".intercalate parameters ++ "]")).toList =
        name.toList ++ ' ' :: ("[container of ".toList ++
          ((", ".intercalate parameters).toList ++ [']'])) := by
      simp
    rw [if_neg hNil, hLine, entry?, Text.cut_append hName]
    simp only [bracket?, Text.after?_append, Option.bind_some, List.getLast?_concat, if_true,
      List.dropLast_concat, parameters?_commaSeparated hNil h, Option.map_some,
      String.ofList_toList]

theorem not_mem_decimal {c : Char} (h : c.isDigit = false) (count : Nat) :
    c ∉ Text.decimal count := by
  intro hMem
  rw [Text.isDigit_of_mem_decimal hMem] at h
  cases h

theorem count?_lastLine (count : Nat) : count? (lastLine count).toList = some count := by
  have hSpace : ' ' ∉ Text.decimal count := not_mem_decimal (by decide) count
  have hLine : (lastLine count).toList =
      "--- ".toList ++ (Text.decimal count ++ ' ' :: "known thread-safe type(s) ---".toList) := by
    simp [lastLine]
  rw [hLine, count?, Text.after?_append, Option.bind_some, Text.cut_append hSpace]
  simp only [if_true, Text.readDecimal?_decimal]

theorem newline_not_mem_line {name : String} {parameters : List String}
    (hName : '\n' ∉ name.toList) (h : ∀ parameter ∈ parameters, '\n' ∉ parameter.toList) :
    '\n' ∉ (line name parameters).toList := by
  have hParameters : '\n' ∉ (", ".intercalate parameters).toList :=
    not_mem_commaSeparated (by decide) h
  rw [line]
  split
  · exact hName
  · simpa [hName] using hParameters

theorem newline_not_mem_lines {listing : Listing} (h : listing.IsReadable) :
    ∀ line ∈ listing.lines, '\n' ∉ line.toList := by
  intro line hLine
  rw [lines, List.mem_append] at hLine
  rcases hLine with hEntry | hLast
  · obtain ⟨entry, hMem, rfl⟩ := List.mem_map.1 hEntry
    obtain ⟨hName, hParameters⟩ := h entry hMem
    exact newline_not_mem_line hName.2 fun parameter hParameter => (hParameters parameter hParameter).2
  · have hDigits : '\n' ∉ Text.decimal listing.count := not_mem_decimal (by decide) _
    simp only [List.mem_cons, List.not_mem_nil, or_false] at hLast
    rcases hLast with rfl | rfl
    · simp
    · simp [lastLine, hDigits]

theorem IsReadable.entry?_line {listing : Listing} (h : listing.IsReadable)
    {entry : String × List String} (hEntry : entry ∈ listing.entries) :
    entry? (line entry.1 entry.2).toList = some entry := by
  obtain ⟨hName, hParameters⟩ := h entry hEntry
  exact Listing.entry?_line hName.1 fun parameter hParameter => (hParameters parameter hParameter).1

/-- The text of a listing is cut into its lines, and the last two are told by their place. -/
theorem read?_write {listing : Listing} (h : listing.IsReadable) :
    read? listing.write = some listing := by
  have hLines : ∀ s ∈ listing.lines.map String.toList, '\n' ∉ s := by
    simpa using newline_not_mem_lines h
  have hText : listing.write.toList =
      (listing.lines.map String.toList).flatMap fun s => s ++ ['\n'] := by
    simp [write, List.flatMap_map]
  have hEntries : (listing.entries.map fun entry => (line entry.1 entry.2).toList).mapM entry? =
      some listing.entries :=
    mapM_map_of_read fun entry hEntry => h.entry?_line hEntry
  have hPieces : listing.lines.map String.toList ++ [[]] =
      (listing.entries.map fun entry => (line entry.1 entry.2).toList) ++
        [[], (lastLine listing.count).toList, []] := by
    simp [lines]
  rw [read?, hText, Text.pieces_flatMap hLines, hPieces, List.reverse_append]
  simp only [List.reverse_cons, List.reverse_nil, List.nil_append, List.cons_append,
    List.reverse_reverse, hEntries, count?_lastLine, Option.bind_some, Option.map_some]

theorem isReadable_ofRegistry {registry : Registry}
    (h : ∀ entry ∈ registry.safe.entries, (' ' ∉ entry.1.toList ∧ '\n' ∉ entry.1.toList) ∧
      ∀ parameter ∈ entry.2.containerOf, ',' ∉ parameter.toList ∧ '\n' ∉ parameter.toList) :
    (ofRegistry registry).IsReadable := by
  intro entry hEntry
  obtain ⟨source, hSource, rfl⟩ := List.mem_map.1 hEntry
  exact h source ((List.mergeSort_perm _ _).mem_iff.1 hSource)

theorem mem_entries_ofRegistry {registry : Registry} {name : String} {parameters : List String} :
    (name, parameters) ∈ (ofRegistry registry).entries ↔
      (registry.safe.get? name).map SafeType.containerOf = some parameters := by
  rw [ofRegistry, List.mem_map, Option.map_eq_some_iff]
  constructor
  · rintro ⟨entry, hEntry, hEq⟩
    cases hEq
    exact ⟨entry.2, Table.mem_sorted_iff.1 hEntry, rfl⟩
  · rintro ⟨record, hRecord, rfl⟩
    exact ⟨(name, record), Table.mem_sorted_iff.2 hRecord, rfl⟩

end Report.Listing

/-- The commas of a list are its own if no item holds one. A list without items looks like a list
of one empty item. -/
theorem Text.Quoted.commaSeparated_inj {first second : List String} (hFirst : first ≠ [])
    (hSecond : second ≠ []) (hFirstCommas : ∀ item ∈ first, ',' ∉ item.toList)
    (hSecondCommas : ∀ item ∈ second, ',' ∉ item.toList) :
    commaSeparated first = commaSeparated second ↔ first = second := by
  refine ⟨?_, fun h => by rw [h]⟩
  intro h
  have hRead : some first = some second := by
    rw [← Report.Listing.parameters?_commaSeparated hFirst hFirstCommas,
      ← Report.Listing.parameters?_commaSeparated hSecond hSecondCommas]
    exact congrArg (fun text => Report.Listing.parameters? text.toList) h
  exact Option.some_inj.1 hRead

/-- The text listing of the safe types says what is in the table. Without colours it has a line for
each type, an empty line, and a line with the number of types, also if there is none. Each of the
first lines reads as a name and its parameters, the names are increasing, and the pairs that are
read are those of the table, so the listing as a whole reads as the table and its size. The names
may be empty and may have brackets in them, and so may the parameters. -/
theorem Report.text_listing_reads {registry : Registry}
    (h : ∀ entry ∈ registry.safe.entries, (' ' ∉ entry.1.toList ∧ '\n' ∉ entry.1.toList) ∧
      ∀ parameter ∈ entry.2.containerOf, ',' ∉ parameter.toList ∧ '\n' ∉ parameter.toList) :
    let text := (CommandLine.Command.list .text false).report registry .plain
    ∃ (lines : List String) (entries : List (String × List String)),
      text = String.join ((lines ++
        ["", "--- " ++ toString registry.safe.size ++ " known thread-safe type(s) ---"]).map
          (· ++ "\n")) ∧
      (∀ line ∈ lines, '\n' ∉ line.toList) ∧ lines.length = registry.safe.size ∧
      (lines.map fun line => Listing.entry? line.toList) = entries.map some ∧
      entries.Pairwise (fun a b => a.1 < b.1) ∧
      (∀ name parameters, (name, parameters) ∈ entries ↔
        (registry.safe.get? name).map SafeType.containerOf = some parameters) ∧
      Listing.read? text = some ⟨entries, registry.safe.size⟩ := by
  intro text
  have hReadable := Listing.isReadable_ofRegistry h
  have hText : text = (Listing.ofRegistry registry).write := Listing.safeTypes_plain registry
  refine ⟨(Listing.ofRegistry registry).entries.map fun entry => Listing.line entry.1 entry.2,
    (Listing.ofRegistry registry).entries, ?_, ?_, ?_, ?_, ?_, ?_, ?_⟩
  · rw [hText, ← Listing.lastLine_eq]
    rfl
  · intro line hLine
    exact Listing.newline_not_mem_lines hReadable line (List.mem_append_left _ hLine)
  · rw [List.length_map, Listing.ofRegistry, List.length_map, Table.length_sorted]
  · rw [List.map_map]
    exact List.map_congr_left fun entry hEntry => hReadable.entry?_line hEntry
  · exact List.pairwise_map.2 registry.safe.pairwise_sorted
  · intro name parameters
    exact Listing.mem_entries_ofRegistry
  · rw [hText]
    exact Listing.read?_write hReadable

/-- An empty name, an empty parameter, and brackets where they could be taken for the listing's
own. -/
theorem Report.text_listing_reads_brackets :
    let text := "\na [container of ]\nb[container [container of ,  T]]\n\n" ++
      "--- 3 known thread-safe type(s) ---\n"
    ∃ entries, Listing.read? text = some ⟨entries, 3⟩ ∧ entries.Pairwise (fun a b => a.1 < b.1) ∧
      ("", []) ∈ entries ∧ ("a", [""]) ∈ entries ∧ ("b[container", ["", " T]"]) ∈ entries := by
  intro text
  let registry : Registry :=
    ⟨.ofList [("b[container", ⟨"q", ["", " T]"]⟩), ("", ⟨"", []⟩), ("a", ⟨"a", [""]⟩)], .empty⟩
  have hReadable : ∀ entry ∈ registry.safe.entries,
      (' ' ∉ entry.1.toList ∧ '\n' ∉ entry.1.toList) ∧
        ∀ parameter ∈ entry.2.containerOf, ',' ∉ parameter.toList ∧ '\n' ∉ parameter.toList := by
    decide
  have hSorted : registry.safe.sorted =
      [("", ⟨"", []⟩), ("a", ⟨"a", [""]⟩), ("b[container", ⟨"q", ["", " T]"]⟩)] := by
    have hEntries : registry.safe.entries =
        [("b[container", ⟨"q", ["", " T]"]⟩), ("", ⟨"", []⟩), ("a", ⟨"a", [""]⟩)] := by decide
    simp [Table.sorted, hEntries, List.mergeSort, List.MergeSort.Internal.splitInTwo]
  have hText : (CommandLine.Command.list .text false).report registry .plain = text := by
    change Report.safeTypes registry .plain .text = text
    rw [Report.safeTypes, hSorted]
    decide +kernel
  obtain ⟨_, entries, -, -, -, -, hIncreasing, hMem, hRead⟩ := text_listing_reads hReadable
  rw [hText] at hRead
  exact ⟨entries, hRead, hIncreasing, (hMem _ _).2 (by decide), (hMem _ _).2 (by decide),
    (hMem _ _).2 (by decide)⟩

end SafeTypes
