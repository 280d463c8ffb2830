import SafeTypes.Proofs.Settings

/-! Reading back what was written. The words of a command are looked at twice, by the program and by
the command, and only the command acts on them. -/
namespace SafeTypes.CommandLine

section Words

variable {Action : Type} {switches : List (Switch Action)}

theorem classify_of_undashed {word : String} (h : word.toList.head? ≠ some '-') :
    classify switches word = .ok .operand := by
  simp [classify, h]

theorem ne_separator_of_undashed {word : String} (h : word.toList.head? ≠ some '-') :
    word ≠ "--" := by
  rintro rfl
  exact h rfl

theorem tokens_of_undashed {words : List String}
    (h : ∀ word ∈ words, word.toList.head? ≠ some '-') :
    tokens switches words = .ok (words.map fun word => ⟨word, .operand⟩) := by
  induction words with
  | nil => rfl
  | cons word rest ih =>
      rw [List.forall_mem_cons] at h
      rw [tokens, if_neg (ne_separator_of_undashed h.1), classify_of_undashed h.1, ih h.2]
      rfl

/-- No word is lost or changed by looking at it. -/
theorem map_word_tokens {words : List String} {found : List (Token Action)}
    (h : tokens switches words = .ok found) : found.map Token.word = words := by
  induction words generalizing found with
  | nil =>
      cases h
      rfl
  | cons word rest ih =>
      rw [tokens] at h
      split at h
      · cases h
        simp [Function.comp_def]
      · cases hWord : classify switches word with
        | error problem => simp [hWord] at h
        | ok role =>
            cases hRest : tokens switches rest with
            | error problem => simp [hWord, hRest, Except.map] at h
            | ok others =>
                simp only [hWord, hRest, Except.map, Except.ok.injEq] at h
                rw [← h, List.map_cons, ih hRest]

/-- The first operand takes all words behind it with it, once none of them is ambiguous. -/
theorem read_operand {word : String} (h : word.toList.head? ≠ some '-') {words : List String}
    {found : List (Token Action)} (hWords : tokens switches words = .ok found) :
    read switches .tail (word :: words) = [.operands (word :: words)] := by
  rw [read, tokens, if_neg (ne_separator_of_undashed h), classify_of_undashed h, hWords]
  simp only [Except.map, steps, map_word_tokens hWords]

/-- Operands in a row are read one after another. -/
theorem read_openRow {words : List String} (h : ∀ word ∈ words, word.toList.head? ≠ some '-') :
    read switches .openRow words = words.map fun word => .operands [word] := by
  rw [read, tokens_of_undashed h]
  simp only
  induction words with
  | nil => rfl
  | cons word rest ih =>
      rw [List.forall_mem_cons] at h
      rw [List.map_cons, steps, ih h.2, List.map_cons]

/-- A row of operands is open from its first operand on. -/
theorem read_row {words : List String} (h : ∀ word ∈ words, word.toList.head? ≠ some '-') :
    read switches .row words = words.map fun word => .operands [word] := by
  have hOpen : read switches .openRow words = _ := read_openRow h
  rw [← hOpen, read, read, tokens_of_undashed h]
  cases words <;> rfl

theorem read_map_of_spells {Item : Type} {operands : Operands} {write : Item → String}
    {action : Item → Action} (hOperands : operands.behindSwitch = operands) {items : List Item}
    (h : ∀ item ∈ items, Spells switches (write item) (action item)) :
    read switches operands (items.map write) = items.map fun item => .act (action item) := by
  induction items with
  | nil => rfl
  | cons item rest ih =>
      rw [List.forall_mem_cons] at h
      have hRoles : ∀ word ∈ rest.map write, ∃ role, classify switches word = .ok role := by
        intro word hWord
        obtain ⟨other, hOther, rfl⟩ := List.mem_map.1 hWord
        obtain ⟨switch, attachment, hRole, _⟩ := (h.2 other hOther).named
        exact ⟨_, hRole⟩
      obtain ⟨found, hFound⟩ := exists_tokens hRoles
      have hFirst := h.1.isReadAs hOperands (rest.map write)
      rw [hFound, ih h.2] at hFirst
      exact hFirst

end Words

/-- A command line that is nothing but a command. -/
theorem parse_command {name : String} (hName : name.toList.head? ≠ some '-')
    {words : List String} {found : List (Token ProgramAction)}
    (hWords : tokens programSwitches words = .ok found) {command : Command}
    (hCommand : readCommand (name :: words) = .ok (command, [])) :
    parse (name :: words) = .ok ⟨0, [], [], command⟩ := by
  have hNext : ({} : ProgramRequest).next (.operands (name :: words)) =
      .ok { command := some (command, []) } := by
    rw [ProgramRequest.next, hCommand]
    rfl
  rw [parse_eq_bind, read_operand hName hWords, List.foldlM_cons, hNext]
  rfl

theorem ListOption.spells_word (option : ListOption) :
    Spells listSwitches option.word option.action := by
  have hPlain : ∀ entry ∈ spelled listSwitches, '=' ∉ entry.1.toList := by decide
  have hStem : '=' ∉ "format".toList := by decide
  match option with
  | .format .text => exact spells_value hPlain hStem rfl rfl rfl (by decide)
  | .format .json => exact spells_value hPlain hStem rfl rfl rfl (by decide)
  | .showUnsafe => exact ⟨by decide, _, _, rfl, rfl⟩

/-- The program has no use for the options of a listing and leaves them to it. -/
theorem ListOption.classify_word (option : ListOption) :
    classify programSwitches option.word = .ok .unknown := by
  match option with
  | .format .text => rfl
  | .format .json => rfl
  | .showUnsafe => rfl

/-- The last format counts, and it does not matter how often unsafe types are asked for. -/
theorem ListRequest.foldlM_options (request : ListRequest) (options : List ListOption) :
    (options.map fun option => .act option.action).foldlM next request =
      .ok { request with
        format := (options.filterMap ListOption.format?).getLast?.getD request.format
        showUnsafe := request.showUnsafe || decide (.showUnsafe ∈ options) } := by
  induction options generalizing request with
  | nil => simp [pure, Except.pure]
  | cons option rest ih =>
      rw [List.map_cons, List.foldlM_cons]
      match option with
      | .format .text =>
          refine (ih { request with format := .text }).trans ?_
          simp [ListOption.format?, List.getLast?_cons]
      | .format .json =>
          refine (ih { request with format := .json }).trans ?_
          simp [ListOption.format?, List.getLast?_cons]
      | .showUnsafe =>
          refine (ih { request with showUnsafe := true }).trans ?_
          simp [ListOption.format?]

theorem LookupRequest.foldlM_operands (request : LookupRequest) (names : List String) :
    (names.map fun name => .operands [name]).foldlM next request =
      .ok { request with names := request.names ++ names } := by
  induction names generalizing request with
  | nil => simp [pure, Except.pure]
  | cons name rest ih =>
      rw [List.map_cons, List.foldlM_cons]
      refine (ih { request with names := request.names ++ [name] }).trans ?_
      simp

theorem parse_list (options : List ListOption) :
    parse ("list" :: options.map ListOption.word) =
      .ok ⟨0, [], [], .list ((options.filterMap ListOption.format?).getLast?.getD .text)
        (.showUnsafe ∈ options)⟩ := by
  have hRoles : ∀ word ∈ options.map ListOption.word,
      ∃ role, classify programSwitches word = .ok role := by
    intro word hWord
    obtain ⟨option, _, rfl⟩ := List.mem_map.1 hWord
    exact ⟨_, option.classify_word⟩
  obtain ⟨found, hWords⟩ := exists_tokens hRoles
  have hRead : read listSwitches .closed (options.map ListOption.word) =
      options.map fun option => .act option.action :=
    read_map_of_spells rfl fun option _ => option.spells_word
  refine parse_command (by decide) hWords ?_
  rw [readCommand, readList, hRead, ListRequest.foldlM_options]
  simp [Except.map]

theorem parse_lookup {names : List String} (hNames : names ≠ [])
    (h : ∀ name ∈ names, name.toList.head? ≠ some '-') :
    parse ("lookup" :: names) = .ok ⟨0, [], [], .lookup names⟩ := by
  refine parse_command (by decide) (tokens_of_undashed h) ?_
  rw [readCommand, readLookup, read_row h, LookupRequest.foldlM_operands]
  simp [hNames]

/-- A command line is read as what it was written from. The settings in front of the command can
come in any number and order and have any values but two dashes, and they are taken in order. Behind
them stands a listing with any options, of which the last format counts, or a request for at least
one name. No word is taken for another one, not even a value that looks like a switch or a command. -/
theorem parse_written {settings : List Setting}
    (hSettings : ∀ setting ∈ settings, setting.IsWritable) :
    let accepted (command : Command) : Except Stop Arguments := .ok
      { verbosity := settings.count .verbose
        flags := (settings.filterMap Setting.flag?).map some
        mutableNames := (settings.filterMap Setting.mutableName?).map some
        command }
    (∀ options : List ListOption,
      parse (settings.map Setting.word ++ "list" :: options.map ListOption.word) =
        accepted (.list ((options.filterMap ListOption.format?).getLast?.getD .text)
          (.showUnsafe ∈ options))) ∧
    ∀ names : List String, names ≠ [] → (∀ name ∈ names, name.toList.head? ≠ some '-') →
      parse (settings.map Setting.word ++ "lookup" :: names) = accepted (.lookup names) := by
  intro accepted
  have hBehind (command : Command) :
      Except.ok ((⟨0, [], [], command⟩ : Arguments).behind settings) = accepted command := by
    rw [Arguments.behind, Nat.add_zero, List.append_nil, List.append_nil]
  refine ⟨?_, ?_⟩
  · intro options
    rw [parse_settings hSettings, parse_list]
    exact hBehind _
  · intro names hNames hDashes
    rw [parse_settings hSettings, parse_lookup hNames hDashes]
    exact hBehind _

/-- Values that are empty, hold equals signs, or look like a command or a switch. -/
theorem parse_written_lookalikes :
    let front := ["--flag=", "-v", "--mutable=list", "--flag=--mutable=x y", "-v", "--flag=a=b=",
      "--mutable=-v"]
    parse (front ++ ["list", "--format=json", "--unsafe", "--format=text", "--unsafe"]) =
      .ok ⟨2, [some "", some "--mutable=x y", some "a=b="], [some "list", some "-v"],
        .list .text true⟩ ∧
    parse (front ++ ["lookup", "lookup", "", "a b", "lookup"]) =
      .ok ⟨2, [some "", some "--mutable=x y", some "a=b="], [some "list", some "-v"],
        .lookup ["lookup", "", "a b", "lookup"]⟩ := by
  intro front
  have hSettings : ∀ setting ∈ ([.flag "", .verbose, .mutableName "list",
      .flag "--mutable=x y", .verbose, .flag "a=b=", .mutableName "-v"] : List Setting),
      setting.IsWritable := by decide
  obtain ⟨hList, hLookup⟩ := parse_written hSettings
  refine ⟨hList [.format .json, .showUnsafe, .format .text, .showUnsafe], ?_⟩
  exact hLookup ["lookup", "", "a b", "lookup"] (by decide) (by decide)

end SafeTypes.CommandLine
