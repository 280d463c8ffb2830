import SafeTypes.CommandLine.Writing
import SafeTypes.Proofs.Trimming

/-! Settings in front of a command line. A setting is read as the action of its switch whatever
words follow, so a command line behind some settings means what it means alone, with the settings
added to it. -/
namespace SafeTypes.CommandLine

section Words

variable {Action : Type} {switches : List (Switch Action)}

/-- A word that stands for one action and does not wait for a value. -/
structure Spells (switches : List (Switch Action)) (word : String) (action : Action) : Prop where
  ne_separator : word ≠ "--"
  named : ∃ switch attachment, classify switches word = .ok (.switch switch attachment) ∧
    switch.expand switches attachment = .ok { actions := [action] }

/-- Words that are read as one action, whatever follows them. An ambiguous word further on stops
the reading before any action. -/
def IsReadAs (switches : List (Switch Action)) (operands : Operands) (words : List String)
    (action : Action) : Prop :=
  ∀ rest, read switches operands (words ++ rest) =
    match tokens switches rest with
    | .ok _ => .act action :: read switches operands rest
    | .error problem => [.stuck problem]

theorem Spells.isReadAs {word : String} {action : Action} (h : Spells switches word action)
    {operands : Operands} (hOperands : operands.behindSwitch = operands) :
    IsReadAs switches operands [word] action := by
  intro rest
  obtain ⟨switch, attachment, hWord, hExpand⟩ := h.named
  rw [List.singleton_append, read, read, tokens, if_neg h.ne_separator, hWord]
  cases tokens switches rest with
  | error problem => rfl
  | ok found =>
      simp only [Except.map, steps, hExpand, hOperands]
      rfl

theorem find?_eq_none {text : List Char}
    (h : ∀ entry ∈ spelled switches, entry.1.toList ≠ text) : find? switches text = none := by
  rw [find?, Option.map_eq_none_iff, List.find?_eq_none]
  intro entry hEntry
  simpa using h entry hEntry

/-- A long switch that reads a value can have any value behind an equals sign but two dashes. -/
theorem spells_value {word value : String} {stem : List Char} {switch : Switch Action}
    {make : Option String → Action} (hPlain : ∀ entry ∈ spelled switches, '=' ∉ entry.1.toList)
    (hStem : '=' ∉ stem) (hSwitch : find? switches ('-' :: '-' :: stem) = some switch)
    (hMeaning : switch.meaning = .valued make)
    (hWord : word.toList = '-' :: '-' :: stem ++ '=' :: value.toList) (hValue : value ≠ "--") :
    Spells switches word (make (some value)) where
  ne_separator := by
    intro hEq
    have hSeparator : "--".toList = ['-', '-'] := rfl
    rw [hEq, hSeparator] at hWord
    simp at hWord
  named := by
    have hNone : find? switches word.toList = none := by
      apply find?_eq_none
      intro entry hEntry hEq
      apply hPlain entry hEntry
      simp [hEq, hWord]
    have hCut : Text.cut '=' word.toList = ('-' :: '-' :: stem, some value.toList) := by
      rw [hWord]
      exact Text.cut_append (by simp [hStem]) _
    have hText : value.toList ≠ ['-', '-'] := by
      intro hEq
      apply hValue
      rw [← String.ofList_toList (s := value), hEq]
    refine ⟨switch, .value value.toList, ?_, ?_⟩
    · have hHead : (decide (word.toList.head? ≠ some '-') || decide (word.toList = ['-'])) =
          false := by simp [hWord]
      simp only [classify, hHead, hNone, hCut, hSwitch]
      rfl
    · rw [Switch.expand, Switch.expandValue, hMeaning]
      simp only [attachedValue, if_neg hText, String.ofList_toList]

/-- Only an ambiguous word keeps words from being looked at. -/
theorem exists_tokens_append {front rest : List String}
    (h : ∀ word ∈ front, ∃ role, classify switches word = .ok role)
    (hRest : ∃ found, tokens switches rest = .ok found) :
    ∃ found, tokens switches (front ++ rest) = .ok found := by
  induction front with
  | nil => exact hRest
  | cons word front ih =>
      rw [List.forall_mem_cons] at h
      obtain ⟨role, hRole⟩ := h.1
      obtain ⟨found, hFound⟩ := ih h.2
      rw [List.cons_append, tokens]
      split
      · exact ⟨_, rfl⟩
      · rw [hRole, hFound]
        exact ⟨_, rfl⟩

theorem exists_tokens {words : List String}
    (h : ∀ word ∈ words, ∃ role, classify switches word = .ok role) :
    ∃ found, tokens switches words = .ok found := by
  rw [← List.append_nil words]
  exact exists_tokens_append h ⟨[], rfl⟩

end Words

theorem equals_not_mem_programSwitches :
    ∀ entry ∈ spelled programSwitches, '=' ∉ entry.1.toList := by
  decide

/-- Words that are read as a setting. -/
def Setting.IsReadFrom (setting : Setting) (words : List String) : Prop :=
  IsReadAs programSwitches .tail words setting.action

theorem Setting.spells_word {setting : Setting} (h : setting.IsWritable) :
    Spells programSwitches setting.word setting.action := by
  cases setting with
  | verbose => exact ⟨by decide, _, _, rfl, rfl⟩
  | flag item =>
      have hStem : '=' ∉ "flag".toList := by decide
      exact spells_value equals_not_mem_programSwitches hStem rfl rfl String.toList_append h
  | mutableName name =>
      have hStem : '=' ∉ "mutable".toList := by decide
      exact spells_value equals_not_mem_programSwitches hStem rfl rfl String.toList_append h

theorem Setting.isReadFrom_word {setting : Setting} (h : setting.IsWritable) :
    setting.IsReadFrom [setting.word] :=
  (Setting.spells_word h).isReadAs rfl

/-- A setting goes in front of what is there. -/
def ProgramRequest.told (request : ProgramRequest) : Setting → ProgramRequest
  | .verbose => { request with verbosity := 1 + request.verbosity }
  | .flag item => { request with flags := some item :: request.flags }
  | .mutableName name => { request with mutableNames := some name :: request.mutableNames }

def Arguments.told (arguments : Arguments) : Setting → Arguments
  | .verbose => { arguments with verbosity := 1 + arguments.verbosity }
  | .flag item => { arguments with flags := some item :: arguments.flags }
  | .mutableName name => { arguments with mutableNames := some name :: arguments.mutableNames }

/-- Steps add at the end, so what stands in front stays there. -/
theorem ProgramRequest.next_told (request : ProgramRequest) (setting : Setting)
    (step : Step ProgramAction) :
    (request.told setting).next step = (request.next step).map (·.told setting) := by
  cases step with
  | act action => cases action <;> cases setting <;> rfl
  | operands words =>
      simp only [next]
      cases readCommand words <;> cases setting <;> rfl
  | extra word => cases setting <;> rfl
  | stuck problem => rfl

theorem ProgramRequest.foldlM_told (request : ProgramRequest) (setting : Setting)
    (steps : List (Step ProgramAction)) :
    steps.foldlM next (request.told setting) =
      (steps.foldlM next request).map (·.told setting) := by
  induction steps generalizing request with
  | nil => rfl
  | cons step rest ih =>
      rw [List.foldlM_cons, List.foldlM_cons, next_told]
      cases request.next step with
      | error stop => rfl
      | ok next => exact ih next

theorem ProgramRequest.finish_told (request : ProgramRequest) (setting : Setting) :
    (request.told setting).finish = request.finish.map (·.told setting) := by
  have hCommand : (request.told setting).command = request.command := by cases setting <;> rfl
  have hExtras : (request.told setting).extras = request.extras := by cases setting <;> rfl
  rw [finish, finish, hCommand, hExtras]
  cases request.command with
  | none => rfl
  | some understood =>
      simp only
      cases request.extras ++ understood.2 <;> cases setting <;> rfl

theorem parse_eq_bind (words : List String) :
    parse words = (read programSwitches .tail words).foldlM ProgramRequest.next {} >>=
      ProgramRequest.finish := by
  rw [parse]
  cases (read programSwitches .tail words).foldlM ProgramRequest.next {} <;> rfl

/-- A setting in front of a command line is added to it, also where the rest of the words is not
carried out. -/
theorem Setting.IsReadFrom.parse {setting : Setting} {words : List String}
    (h : setting.IsReadFrom words) (rest : List String) :
    parse (words ++ rest) = (parse rest).map (·.told setting) := by
  rw [parse_eq_bind, parse_eq_bind, h]
  cases hTokens : tokens programSwitches rest with
  | error problem =>
      rw [read, hTokens]
      rfl
  | ok found =>
      have hFirst : ({} : ProgramRequest).next (.act setting.action) =
          .ok (({} : ProgramRequest).told setting) := by cases setting <;> rfl
      have hFold : (Step.act setting.action :: read programSwitches .tail rest).foldlM
          ProgramRequest.next {} =
            ((read programSwitches .tail rest).foldlM ProgramRequest.next {}).map
              (·.told setting) := by
        rw [List.foldlM_cons, hFirst]
        exact ProgramRequest.foldlM_told {} setting _
      simp only [hFold]
      cases (read programSwitches .tail rest).foldlM ProgramRequest.next {} with
      | error stop => rfl
      | ok request => exact request.finish_told setting

/-- Arguments with settings in front of them. -/
def Arguments.behind (arguments : Arguments) (settings : List Setting) : Arguments where
  verbosity := settings.count .verbose + arguments.verbosity
  flags := (settings.filterMap Setting.flag?).map some ++ arguments.flags
  mutableNames := (settings.filterMap Setting.mutableName?).map some ++ arguments.mutableNames
  command := arguments.command

theorem Arguments.told_behind (arguments : Arguments) (setting : Setting)
    (settings : List Setting) :
    (arguments.behind settings).told setting = arguments.behind (setting :: settings) := by
  cases setting with
  | verbose =>
      have hCount : 1 + (settings.count .verbose + arguments.verbosity) =
          (Setting.verbose :: settings).count .verbose + arguments.verbosity := by
        rw [List.count_cons_self]
        omega
      rw [told, behind, behind, hCount]
      rfl
  | flag item => rfl
  | mutableName name => rfl

/-- Settings are added in their order, however each of them is written. -/
theorem parse_flatMap {settings : List Setting} {write : Setting → List String}
    (h : ∀ setting ∈ settings, setting.IsReadFrom (write setting)) (rest : List String) :
    parse (settings.flatMap write ++ rest) = (parse rest).map (·.behind settings) := by
  induction settings with
  | nil =>
      have hSame : (fun arguments : Arguments => arguments.behind []) = id := by
        funext arguments
        rw [Arguments.behind, List.count_nil, Nat.zero_add]
        rfl
      rw [hSame, Except.map_id]
      rfl
  | cons setting settings ih =>
      rw [List.forall_mem_cons] at h
      rw [List.flatMap_cons, List.append_assoc, h.1.parse, ih h.2]
      cases parse rest with
      | error stop => rfl
      | ok arguments => exact congrArg Except.ok (arguments.told_behind setting settings)

theorem parse_settings {settings : List Setting} (h : ∀ setting ∈ settings, setting.IsWritable)
    (rest : List String) :
    parse (settings.map Setting.word ++ rest) = (parse rest).map (·.behind settings) := by
  rw [List.map_eq_flatMap]
  exact parse_flatMap (fun setting hSetting => Setting.isReadFrom_word (h setting hSetting)) rest

end SafeTypes.CommandLine
