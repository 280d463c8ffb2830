import SafeTypes.Proofs.Decoding
import SafeTypes.Proofs.ExitStatus

/-! Flags whose items are words of their own. A word that begins with a dash is an operand only if
it holds a space or is a negative number, and a switch takes nothing but an operand for its value.
So an item that begins with the marker is taken from the word of its switch, but from a word of its
own only if there is a space in it. -/
namespace SafeTypes

namespace Flags

/-- A flag as it is documented: a name, perhaps with a value, and perhaps behind the marker. -/
structure Spelling where
  isMarked : Bool
  name : String
  value : Option String

namespace Spelling

def text (spelling : Spelling) : String :=
  (if spelling.isMarked then "-XepOpt:" else "") ++ spelling.name ++
    spelling.value.elim "" ("=" ++ ·)

/-- Without the marker an item begins with a dash only if its name does. -/
theorem head?_text {spelling : Spelling} (hMarked : spelling.isMarked = false)
    (hName : spelling.name.toList.head? ≠ some '-') : spelling.text.toList.head? ≠ some '-' := by
  have hText : spelling.text.toList =
      spelling.name.toList ++ (spelling.value.elim "" ("=" ++ ·)).toList := by
    simp [text, hMarked]
  rw [hText]
  cases hLetters : spelling.name.toList with
  | cons c rest => simpa [hLetters] using hName
  | nil => cases spelling.value <;> simp

theorem exists_text_eq {spelling : Spelling} (hMarked : spelling.isMarked = true) :
    ∃ rest, spelling.text.toList = '-' :: 'X' :: rest := by
  rw [text, hMarked, if_pos rfl, String.append_assoc, String.toList_append]
  exact ⟨_, rfl⟩

end Spelling

end Flags

namespace CommandLine

theorem isNegative_letter (rest : List Char) : isNegative ('-' :: 'X' :: rest) = false := by
  have hLetter : Text.isDecimalDigit 'X' = false := by decide
  obtain ⟨more, hMore⟩ : ∃ more, dropFinalNewline ('X' :: rest) = 'X' :: more := by
    rw [dropFinalNewline]
    split
    · cases rest with
      | nil => contradiction
      | cons c rest => exact ⟨_, rfl⟩
    · exact ⟨_, rfl⟩
  have hCut : Text.cut '.' ('X' :: more) =
      ('X' :: (Text.cut '.' more).1, (Text.cut '.' more).2) := rfl
  rw [isNegative, hMore, isNumeral, hCut]
  cases (Text.cut '.' more).2 <;> simp [hLetter]

/-- No spelling of a switch begins with the letter of the marker. -/
theorem take_ne_letter :
    ∀ entry ∈ spelled programSwitches, entry.1.toList.take 2 ≠ ['-', 'X'] := by
  decide

theorem find?_letter (rest : List Char) : find? programSwitches ('-' :: 'X' :: rest) = none := by
  apply find?_eq_none
  intro entry hEntry hEq
  apply take_ne_letter entry hEntry
  rw [hEq]
  rfl

theorem candidates_letter (rest : List Char) :
    candidates programSwitches ('-' :: 'X' :: rest) = [] := by
  rw [candidates, List.filterMap_eq_nil_iff]
  · intro entry hEntry
    have hOther := take_ne_letter entry hEntry
    rw [if_neg, if_neg]
    · intro hBegins
      obtain ⟨more, hMore⟩ := List.isPrefixOf_iff_prefix.1 hBegins
      apply hOther
      rw [← hMore]
      rfl
    · intro hEq
      apply hOther
      rw [hEq]
      rfl
  · intro more hEq
    cases hEq

/-- A word with the letter of the marker is no switch, neither as a whole nor up to an equals sign.
Nor is it a number, so only a space makes it an operand. -/
theorem classify_letter {word : String} {rest : List Char} (h : word.toList = '-' :: 'X' :: rest) :
    classify programSwitches word = .ok (if ' ' ∈ word.toList then .operand else .unknown) := by
  have hStem : Text.cut '=' ('-' :: 'X' :: rest) =
      ('-' :: 'X' :: (Text.cut '=' rest).1, (Text.cut '=' rest).2) := rfl
  have hHead : (decide (('-' :: 'X' :: rest).head? ≠ some '-') ||
      decide ('-' :: 'X' :: rest = ['-'])) = false := by simp
  simp only [classify, h, hHead, find?_letter, hStem, candidates_letter, isNegative_letter]
  simp

theorem classify_text {spelling : Flags.Spelling} (hName : spelling.name.toList.head? ≠ some '-') :
    classify programSwitches spelling.text =
      .ok (if spelling.isMarked ∧ ' ' ∉ spelling.text.toList then .unknown else .operand) := by
  cases hMarked : spelling.isMarked with
  | false => simp [classify_of_undashed (Flags.Spelling.head?_text hMarked hName)]
  | true =>
      obtain ⟨rest, hText⟩ := Flags.Spelling.exists_text_eq hMarked
      rw [classify_letter hText]
      simp

/-- Two dashes are the beginning of every long switch, so they cannot be classified. -/
theorem ne_separator_of_classify {word : String} {role : Role ProgramAction}
    (h : classify programSwitches word = .ok role) : word ≠ "--" := by
  rintro rfl
  have hAmbiguous : classify programSwitches "--" = .error (.ambiguous "--"
      ["--help", "--version", "--verbose", "--flag", "--mutable"]) := by rfl
  rw [hAmbiguous] at h
  cases h

theorem tokens_words_flag {item : String} {role : Role ProgramAction}
    (h : classify programSwitches item = .ok role) (rest : List String) :
    tokens programSwitches ((Setting.flag item).words ++ rest) =
      (tokens programSwitches rest).map fun found =>
        ⟨"--flag", .switch ⟨["--flag"], .valued .flag⟩ .nothing⟩ :: ⟨item, role⟩ :: found := by
  have hSwitch : classify programSwitches "--flag" =
      .ok (.switch ⟨["--flag"], .valued .flag⟩ .nothing) := by rfl
  rw [Setting.words, List.cons_append, List.cons_append, List.nil_append, tokens,
    if_neg (by decide), hSwitch, tokens, if_neg (ne_separator_of_classify h), h]
  cases tokens programSwitches rest <;> rfl

/-- An operand is taken as the item of the switch in front of it. -/
theorem isReadFrom_words_flag {item : String}
    (h : classify programSwitches item = .ok .operand) :
    (Setting.flag item).IsReadFrom (Setting.flag item).words := by
  intro rest
  rw [read, read, tokens_words_flag h]
  cases tokens programSwitches rest <;> rfl

/-- A switch that reads a value does not take an unknown word for it. -/
theorem read_words_flag_unknown {item : String}
    (h : classify programSwitches item = .ok .unknown) {rest : List String}
    (hRest : ∃ found, tokens programSwitches rest = .ok found) :
    read programSwitches .tail ((Setting.flag item).words ++ rest) =
      [.stuck (.missingValue "--flag")] := by
  obtain ⟨found, hFound⟩ := hRest
  rw [read, tokens_words_flag h, hFound]
  rfl

theorem exists_tokens_of_parse {words : List String} {arguments : Arguments}
    (h : parse words = .ok arguments) : ∃ found, tokens programSwitches words = .ok found := by
  cases hTokens : tokens programSwitches words with
  | ok found => exact ⟨found, rfl⟩
  | error problem =>
      rw [parse_eq_bind, read, hTokens] at h
      cases h

/-- Items stand in front of those that are there. -/
def Arguments.flagged (arguments : Arguments) (items : List String) : Arguments :=
  { arguments with flags := items.map some ++ arguments.flags }

theorem Arguments.behind_flags (arguments : Arguments) (items : List String) :
    arguments.behind (items.map .flag) = arguments.flagged items := by
  induction items with
  | nil => simp [behind, flagged]
  | cons item rest ih =>
      rw [List.map_cons, ← told_behind, ih]
      rfl

theorem parse_attachedFlags {items : List String} (h : ∀ item ∈ items, item ≠ "--")
    (rest : List String) :
    parse (items.map ("--flag=" ++ ·) ++ rest) = (parse rest).map (·.flagged items) := by
  have hWritable : ∀ setting ∈ items.map Setting.flag, setting.IsWritable := by
    rw [List.forall_mem_map]
    exact h
  have hParse := parse_settings hWritable rest
  simp only [List.map_map, Arguments.behind_flags] at hParse
  exact hParse

theorem parse_separateFlags {items : List String}
    (h : ∀ item ∈ items, classify programSwitches item = .ok .operand) (rest : List String) :
    parse (items.flatMap (fun item => ["--flag", item]) ++ rest) =
      (parse rest).map (·.flagged items) := by
  have hRead : ∀ setting ∈ items.map Setting.flag, setting.IsReadFrom setting.words := by
    rw [List.forall_mem_map]
    exact fun item hItem => isReadFrom_words_flag (h item hItem)
  have hParse := parse_flatMap hRead rest
  simp only [List.flatMap_map, Arguments.behind_flags] at hParse
  exact hParse

theorem exists_tokens_separateFlags {items rest : List String}
    (hItems : ∀ item ∈ items, ∃ role, classify programSwitches item = .ok role)
    (hRest : ∃ found, tokens programSwitches rest = .ok found) :
    ∃ found, tokens programSwitches (items.flatMap (fun item => ["--flag", item]) ++ rest) =
      .ok found := by
  refine exists_tokens_append ?_ hRest
  intro word hWord
  obtain ⟨item, hItem, hPair⟩ := List.mem_flatMap.1 hWord
  rcases List.mem_pair.1 hPair with rfl | rfl
  · exact ⟨_, rfl⟩
  · exact hItems word hItem

/-- The first unknown item ends the reading, whatever items were taken before it. -/
theorem parse_separateFlags_of_unknown {items rest : List String}
    (hItems : ∀ item ∈ items, classify programSwitches item = .ok .operand ∨
      classify programSwitches item = .ok .unknown)
    (hUnknown : ∃ item ∈ items, classify programSwitches item = .ok .unknown)
    (hRest : ∃ found, tokens programSwitches rest = .ok found) :
    parse (items.flatMap (fun item => ["--flag", item]) ++ rest) =
      .error (.misuse .overview (.missingValue "--flag")) := by
  induction items with
  | nil => simp at hUnknown
  | cons item more ih =>
      rw [List.forall_mem_cons] at hItems
      rw [List.flatMap_cons, List.append_assoc]
      rcases hItems.1 with hFirst | hFirst
      · have hMore : ∃ item ∈ more, classify programSwitches item = .ok .unknown := by
          simpa [hFirst] using hUnknown
        refine ((isReadFrom_words_flag hFirst).parse _).trans ?_
        rw [ih hItems.2 hMore]
        rfl
      · have hRoles (other : String) (hOther : other ∈ more) :
            ∃ role, classify programSwitches other = .ok role :=
          (hItems.2 other hOther).elim (fun h => ⟨_, h⟩) fun h => ⟨_, h⟩
        have hStuck := read_words_flag_unknown hFirst (exists_tokens_separateFlags hRoles hRest)
        rw [parse_eq_bind]
        exact congrArg (·.foldlM ProgramRequest.next {} >>= ProgramRequest.finish) hStuck

theorem transcript_missingFlag :
    (Stop.misuse .overview (.missingValue "--flag")).transcript = ⟨2, "", Page.overview.usage ++
      "threadsafety-registry: error: argument --flag: expected one argument\n"⟩ := by
  decide +kernel

end CommandLine

/-- Flags in words of their own. If each item with the marker holds a space, a command line means
the same as with every item in the word of its switch. But an item with the marker and without a
space is not taken at all, however well it reads as a flag. The command line is then misused, with
status 2, where with the items in the words of their switches it is carried out, and has status 0
unless the catalog is defective. -/
theorem Session.run_separateFlags (catalog : Catalog) (palette : Report.Palette) (clock : String)
    {spellings : List Flags.Spelling}
    (hNames : ∀ spelling ∈ spellings, spelling.name.toList.head? ≠ some '-') :
    let items := spellings.map Flags.Spelling.text
    let separate (words : List String) :=
      run catalog palette clock (items.flatMap (fun item => ["--flag", item]) ++ words)
    let attached (words : List String) :=
      run catalog palette clock (items.map ("--flag=" ++ ·) ++ words)
    ((∀ spelling ∈ spellings, spelling.isMarked → ' ' ∈ spelling.text.toList) →
      ∀ words, separate words = attached words) ∧
    ∀ (flags : Flags) (words mutableNames : List String) (verbosity : Nat)
      (command : CommandLine.Command),
      Flags.parse items = .ok flags →
      CommandLine.parse words = .ok ⟨verbosity, [], mutableNames.map some, command⟩ →
      (∃ transcript, attached words = .ok transcript ∧
        transcript.status = if ∃ entry ∈ catalog, entry.IsDefective then 1 else 0) ∧
      ((∃ spelling ∈ spellings, spelling.isMarked ∧ ' ' ∉ spelling.text.toList) →
        separate words = .ok ⟨2, "", CommandLine.Page.overview.usage ++
          "threadsafety-registry: error: argument --flag: expected one argument\n"⟩) := by
  intro items separate attached
  have hRole (spelling : Flags.Spelling) (hMem : spelling ∈ spellings) :=
    CommandLine.classify_text (hNames spelling hMem)
  have hAttached (words : List String) :
      CommandLine.parse (items.map ("--flag=" ++ ·) ++ words) =
        (CommandLine.parse words).map (·.flagged items) := by
    apply CommandLine.parse_attachedFlags
    rw [List.forall_mem_map]
    intro spelling hMem
    exact CommandLine.ne_separator_of_classify (hRole spelling hMem)
  refine ⟨?_, ?_⟩
  · intro hSpaces words
    have hSeparate : CommandLine.parse (items.flatMap (fun item => ["--flag", item]) ++ words) =
        (CommandLine.parse words).map (·.flagged items) := by
      apply CommandLine.parse_separateFlags
      rw [List.forall_mem_map]
      intro spelling hMem
      rw [hRole spelling hMem, if_neg]
      exact fun h => h.2 (hSpaces spelling hMem h.1)
    simp only [separate, attached, run, hAttached, hSeparate]
  · intro flags words mutableNames verbosity command hFlags hWords
    refine ⟨?_, ?_⟩
    · have hParse : CommandLine.parse (items.map ("--flag=" ++ ·) ++ words) =
          .ok ⟨verbosity, items.map some, mutableNames.map some, command⟩ := by
        rw [hAttached, hWords, Except.map, CommandLine.Arguments.flagged, List.append_nil]
      refine ⟨_, run_of_parse hParse catalog palette clock, ?_⟩
      have hSettled : Execution.IsSettledBy catalog
          (Invocation.execute catalog palette ⟨verbosity, items, mutableNames, command⟩) :=
        Invocation.isSettledBy_execute hFlags catalog palette
      exact hSettled.status_eq
    · rintro ⟨marked, hMarked, hUnknown⟩
      have hSeparate :
          CommandLine.parse (items.flatMap (fun item => ["--flag", item]) ++ words) =
            .error (.misuse .overview (.missingValue "--flag")) := by
        apply CommandLine.parse_separateFlags_of_unknown
        · rw [List.forall_mem_map]
          intro spelling hMem
          rw [hRole spelling hMem]
          split
          · exact .inr rfl
          · exact .inl rfl
        · refine ⟨marked.text, List.mem_map_of_mem hMarked, ?_⟩
          rw [hRole marked hMarked, if_pos hUnknown]
        · exact CommandLine.exists_tokens_of_parse hWords
      simp only [separate, run, hSeparate, CommandLine.transcript_missingFlag]

/-- Two names behind the marker with a space between them, and the same names without the space
behind an item that has no marker. -/
theorem Session.run_separateFlags_spaced :
    let run (words : List String) := Session.run [⟨.named "a", [], none⟩] .plain "09:00:00" words
    run ["--flag", "-XepOpt:ThreadSafe:KnownThreadSafe=b.C, d.E", "lookup", "d.E"] =
      .ok ⟨0, "d.E: safe\n", ""⟩ ∧
    run ["--flag", "Verbose", "--flag", "-XepOpt:ThreadSafe:KnownThreadSafe=b.C,d.E", "-v",
        "lookup", "d.E"] =
      .ok ⟨2, "", CommandLine.Page.overview.usage ++
        "threadsafety-registry: error: argument --flag: expected one argument\n"⟩ ∧
    ∃ transcript, run ["--flag=Verbose", "--flag=-XepOpt:ThreadSafe:KnownThreadSafe=b.C,d.E", "-v",
        "lookup", "d.E"] = .ok transcript ∧ transcript.status = 0 := by
  intro run
  have hSpaced : ∀ spelling ∈ ([⟨true, "ThreadSafe:KnownThreadSafe", some "b.C, d.E"⟩] :
      List Flags.Spelling), spelling.name.toList.head? ≠ some '-' := by simp
  have hPlain : ∀ spelling ∈ ([⟨false, "Verbose", none⟩,
      ⟨true, "ThreadSafe:KnownThreadSafe", some "b.C,d.E"⟩] : List Flags.Spelling),
      spelling.name.toList.head? ≠ some '-' := by simp
  obtain ⟨hSame, _⟩ :=
    run_separateFlags [⟨.named "a", [], none⟩] .plain "09:00:00" hSpaced
  obtain ⟨_, hRuns⟩ :=
    run_separateFlags [⟨.named "a", [], none⟩] .plain "09:00:00" hPlain
  have hFlags : Flags.parse ["Verbose", "-XepOpt:ThreadSafe:KnownThreadSafe=b.C,d.E"] =
      .ok (.ofList [("Verbose", "true"), ("ThreadSafe:KnownThreadSafe", "b.C,d.E")]) := by
    decide +kernel
  have hWords : CommandLine.parse ["-v", "lookup", "d.E"] = .ok ⟨1, [], [], .lookup ["d.E"]⟩ := by
    decide +kernel
  obtain ⟨⟨transcript, hRun, hStatus⟩, hMisused⟩ := hRuns _ _ [] 1 _ hFlags hWords
  refine ⟨?_, ?_, ?_⟩
  · exact (hSame (by decide) ["lookup", "d.E"]).trans (by decide +kernel)
  · exact hMisused (by decide)
  · exact ⟨transcript, hRun, hStatus.trans (by decide)⟩

/-- An item that is read as a flag, and a listing that is carried out with it, but not if the item
has a word of its own. -/
theorem Session.run_separateFlag_misused :
    let run (words : List String) := Session.run [⟨.named "a", [], none⟩] .plain "09:00:00" words
    Flags.parse ["-XepOpt:Verbose"] = .ok (.ofList [("Verbose", "true")]) ∧
    CommandLine.parse ["list"] = .ok ⟨0, [], [], .list .text false⟩ ∧
    run ["--flag=-XepOpt:Verbose", "list"] =
      .ok ⟨0, "a\n\n--- 1 known thread-safe type(s) ---\n", ""⟩ ∧
    run ["--flag", "-XepOpt:Verbose", "list"] =
      .ok ⟨2, "", CommandLine.Page.overview.usage ++
        "threadsafety-registry: error: argument --flag: expected one argument\n"⟩ := by
  decide +kernel

end SafeTypes
