import SafeTypes.Proofs.Acceptance

/-! Batches of names and of classes. A batch is a loop over single steps, and a step can be refused.
The members of a batch ask for no parameters, though, so none of them is defective, and a step
leaves an open roster open. So a batch is taken as a whole or refused as a whole. -/
namespace SafeTypes.Roster

/-- The roster takes all of a batch or nothing of it. It takes the batch if it is open, as if each
member were a call of its own, and none of these calls is refused. A closed roster refuses the
batch and stays as it was, but it has no reason to refuse an empty one. -/
structure TakesWhole (roster : Roster) (batch : Call) (members : List Call) : Prop where
  taken : roster.isClosed = false ∨ members = [] →
    roster.answer batch = (roster.run members, none)
  each : roster.isClosed = false → ∀ before member after,
    members = before ++ member :: after → ((roster.run before).answer member).2 = none
  refused : roster.isClosed = true → members ≠ [] →
    roster.answer batch = (roster, some .alreadyClosed)

/-- Two calls, the second of them only if the first is not refused. -/
def answerBoth (roster : Roster) (first second : Call) : Roster × Option Refusal :=
  match roster.answer first with
  | (next, none) => next.answer second
  | (next, some refusal) => (next, some refusal)

/-- Sound entries leave an open roster open, so the next one is met by an open roster again. -/
theorem isClosed_run_ofEntry {roster : Roster} (h : roster.isClosed = false) {entries : Catalog}
    (hSound : ∀ entry ∈ entries, ¬ entry.IsDefective) :
    (roster.run (entries.map .ofEntry)).isClosed = false := by
  rw [run_ofEntry h hSound, isClosed_storeAll, h]

/-- A call whose entries are all sound is taken whole. -/
theorem takesWhole_of_sound (roster : Roster) {batch : Call} (hBatch : batch ≠ .close)
    (hSound : ∀ entry ∈ batch.entries, ¬ entry.IsDefective) :
    roster.TakesWhole batch (batch.entries.map .ofEntry) where
  taken := by
    intro hTaken
    cases hClosed : roster.isClosed with
    | false =>
        rw [answer_of_sound hClosed hBatch hSound, run_ofEntry hClosed hSound]
    | true =>
        have hEmpty : batch.entries = [] := by simpa [hClosed] using hTaken
        rw [answer_of_closed hClosed, hEmpty]
        rfl
  each := by
    intro hOpen before member after hMembers
    obtain ⟨earlier, rest, hEntries, rfl, hRest⟩ := List.map_eq_append_iff.1 hMembers
    obtain ⟨entry, later, rfl, rfl, rfl⟩ := List.map_eq_cons_iff.1 hRest
    have hEarlier : ∀ other ∈ earlier, ¬ other.IsDefective := by
      intro other hOther
      exact hSound other (hEntries ▸ List.mem_append_left _ hOther)
    have hEntry : ¬ entry.IsDefective :=
      hSound entry (hEntries ▸ List.mem_append_cons_self)
    rw [answer_ofEntry, enterEntry_of_open (isClosed_run_ofEntry hOpen hEarlier),
      Catalog.Entry.defect?_eq_none_iff.2 hEntry]
    rfl
  refused := by
    intro hClosed hMembers
    have hEntries : batch.entries ≠ [] := by simpa using hMembers
    obtain ⟨entry, rest, hBatchEntries⟩ := List.exists_cons_of_ne_nil hEntries
    rw [answer_of_closed hClosed, hBatchEntries]
    rfl

theorem takesWhole_enterNames (roster : Roster) (names : List String) :
    roster.TakesWhole (.enterNames names) (names.map fun name => .enterName name []) := by
  have hBatch : Call.enterNames names ≠ .close := nofun
  have hWhole := roster.takesWhole_of_sound hBatch fun _ => Call.not_isDefective_enterNames
  rw [Call.entries, List.map_map] at hWhole
  exact hWhole

theorem takesWhole_enterClasses (roster : Roster) (targets : List Class) :
    roster.TakesWhole (.enterClasses targets) (targets.map fun target => .enterClass target []) := by
  have hBatch : Call.enterClasses targets ≠ .close := nofun
  have hWhole := roster.takesWhole_of_sound hBatch fun _ => Call.not_isDefective_enterClasses
  rw [Call.entries, List.map_map] at hWhole
  exact hWhole

/-- Behind a batch that is taken whole it makes no difference to the roster whether a refusal ends
the calls, since only a closed roster refuses the batch. -/
theorem TakesWhole.fst_answerBoth {roster : Roster} {first : Call} {members : List Call}
    (h : roster.TakesWhole first members) (second : Call) :
    (roster.answerBoth first second).1 = roster.run [first, second] := by
  have hRun : roster.run [first, second] = ((roster.answer first).1.answer second).1 := rfl
  rw [hRun, answerBoth]
  cases hClosed : roster.isClosed with
  | false => rw [h.taken (.inl hClosed)]
  | true =>
      rw [answer_of_closed hClosed first]
      cases first.entries.head? with
      | none => rfl
      | some entry => rw [Option.map_some, answer_of_closed hClosed second]

/-- A batch is taken whole or not at all, by a roster in any state. If it is taken, the entries,
their order and the log are those of the single calls, and if it is refused, the reason is that the
roster is closed, and not a defect. Two batches in a row do what one batch of all their members
does, also if the second is tried after the first was refused. -/
theorem batches_taken_whole (roster : Roster) (targets : List Class) (names : List String) :
    roster.TakesWhole (.enterClasses targets)
      (targets.map fun target => .enterClass target []) ∧
    roster.TakesWhole (.enterNames names) (names.map fun name => .enterName name []) ∧
    (∀ more, roster.answer (.enterClasses (targets ++ more)) =
        roster.answerBoth (.enterClasses targets) (.enterClasses more) ∧
      (roster.answer (.enterClasses (targets ++ more))).1 =
        roster.run [.enterClasses targets, .enterClasses more]) ∧
    ∀ more, roster.answer (.enterNames (names ++ more)) =
        roster.answerBoth (.enterNames names) (.enterNames more) ∧
      (roster.answer (.enterNames (names ++ more))).1 =
        roster.run [.enterNames names, .enterNames more] := by
  have hClasses := roster.takesWhole_enterClasses targets
  have hNames := roster.takesWhole_enterNames names
  refine ⟨hClasses, hNames, ?_, ?_⟩
  · intro more
    have hBoth : roster.answer (.enterClasses (targets ++ more)) =
        roster.answerBoth (.enterClasses targets) (.enterClasses more) :=
      enterEach_append _ roster targets more
    exact ⟨hBoth, hBoth ▸ hClasses.fst_answerBoth _⟩
  · intro more
    have hBoth : roster.answer (.enterNames (names ++ more)) =
        roster.answerBoth (.enterNames names) (.enterNames more) :=
      enterEach_append _ roster names more
    exact ⟨hBoth, hBoth ▸ hNames.fst_answerBoth _⟩

end SafeTypes.Roster
