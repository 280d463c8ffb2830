import SafeTypes.Proofs.Registration

/-! Runs of calls on a new roster. A run is a log of registrations up to the first closing,
and nothing that comes after that closing leaves a trace. -/
namespace SafeTypes

namespace Roster

@[simp] theorem isClosed_close (roster : Roster) : roster.close.isClosed = true := by
  cases h : roster.isClosed <;> simp [close, h]

@[simp] theorem entries_close (roster : Roster) : roster.close.entries = roster.entries := by
  cases h : roster.isClosed <;> simp [close, h]

theorem table?_close (roster : Roster) : roster.close.table? = some roster.entries := by
  rw [table?, if_pos roster.isClosed_close, entries_close]

theorem close_of_closed {roster : Roster} (h : roster.isClosed = true) :
    roster.close = roster :=
  if_pos h

theorem run_append (roster : Roster) (first second : List Call) :
    roster.run (first ++ second) = (roster.run first).run second :=
  List.foldl_append

/-- The records that a call registers on an open roster. -/
def Call.records (call : Call) : List SafeType :=
  call.entries.soundPart.map Catalog.Entry.record

theorem answer_of_closed {roster : Roster} (h : roster.isClosed = true) (call : Call) :
    roster.answer call = (roster, call.entries.head?.map fun _ => .alreadyClosed) := by
  by_cases hClose : call = .close
  · rw [hClose, answer, close_of_closed h]
    rfl
  · rw [roster.answer_eq_enterCatalog hClose, enterCatalog_of_closed h]

theorem answer_of_open {roster : Roster} (h : roster.isClosed = false) {call : Call}
    (hCall : call ≠ .close) :
    roster.answer call =
      (roster.storeAll call.records, call.entries.firstDefect?.map .defective) := by
  rw [roster.answer_eq_enterCatalog hCall, enterCatalog_of_open h, Call.records]

/-- If no entry of a call is defective, then an open roster takes all of them. -/
theorem answer_of_sound {roster : Roster} (h : roster.isClosed = false) {call : Call}
    (hCall : call ≠ .close) (hSound : ∀ entry ∈ call.entries, ¬ entry.IsDefective) :
    roster.answer call = (roster.storeAll (call.entries.map Catalog.Entry.record), none) := by
  rw [answer_of_open h hCall, Call.records, Catalog.soundPart_eq_self hSound,
    Catalog.firstDefect?_eq_none_iff.2 hSound]
  rfl

theorem Call.not_isDefective_enterNames {names : List String} {entry : Catalog.Entry}
    (h : entry ∈ (Call.enterNames names).entries) : ¬ entry.IsDefective := by
  obtain ⟨name, _, rfl⟩ := List.mem_map.1 h
  exact Catalog.Entry.not_isDefective_of_nil rfl

/-- A class in a batch is asked for no parameters, so it may declare any. -/
theorem Call.not_isDefective_enterClasses {targets : List Class} {entry : Catalog.Entry}
    (h : entry ∈ (Call.enterClasses targets).entries) : ¬ entry.IsDefective := by
  obtain ⟨target, _, rfl⟩ := List.mem_map.1 h
  exact Catalog.Entry.not_isDefective_of_nil rfl

theorem run_of_closed {roster : Roster} (h : roster.isClosed = true) (calls : List Call) :
    roster.run calls = roster := by
  induction calls with
  | nil => rfl
  | cons call rest ih =>
      rw [run, List.foldl_cons, answer_of_closed h]
      exact ih

/-- Until it is closed a roster collects what its calls register. -/
theorem run_of_open {roster : Roster} (h : roster.isClosed = false) {calls : List Call}
    (hCalls : .close ∉ calls) :
    roster.run calls = roster.storeAll (calls.flatMap Call.records) := by
  induction calls generalizing roster with
  | nil => rfl
  | cons call rest ih =>
      rw [List.mem_cons, not_or] at hCalls
      rw [run, List.foldl_cons, answer_of_open h (Ne.symm hCalls.1)]
      have hNext : (roster.storeAll call.records).isClosed = false := by
        rw [isClosed_storeAll, h]
      exact (ih hNext hCalls.2).trans (roster.storeAll_append _ _).symm

/-- The records that a run on a new roster registers. They come from the calls in front of
the first closing, and from the entries of each call in front of its first defective one. -/
def registered (calls : List Call) : List SafeType :=
  (calls.takeWhile (· ≠ .close)).flatMap Call.records

theorem decide_ne_close {calls : List Call} (h : .close ∉ calls) {call : Call}
    (hCall : call ∈ calls) : decide (call ≠ .close) = true :=
  decide_eq_true fun hEq => h (hEq ▸ hCall)

theorem registered_of_open {calls : List Call} (h : .close ∉ calls) :
    registered calls = calls.flatMap Call.records := by
  rw [registered, List.takeWhile_eq_self_iff.2 fun _ => decide_ne_close h]

theorem registered_append_close {before : List Call} (h : .close ∉ before)
    (after : List Call) : registered (before ++ .close :: after) = registered before := by
  rw [registered_of_open h, registered,
    List.takeWhile_append_of_pos fun _ => decide_ne_close h,
    List.takeWhile_cons_of_neg (by simp), List.append_nil]

theorem run_append_close {before : List Call} (h : .close ∉ before) (after : List Call) :
    ({} : Roster).run (before ++ .close :: after) =
      (({} : Roster).storeAll (registered before)).close := by
  rw [run_append, run_of_open rfl h, ← registered_of_open h]
  exact run_of_closed (isClosed_close _) after

/-- The whole state after a run, by the records that it registers. -/
theorem run_new (calls : List Call) :
    ({} : Roster).run calls =
      if .close ∈ calls then (({} : Roster).storeAll (registered calls)).close
      else ({} : Roster).storeAll (registered calls) := by
  by_cases h : .close ∈ calls
  · obtain ⟨before, after, rfl, hBefore⟩ := List.eq_append_cons_of_mem h
    rw [if_pos h, run_append_close hBefore, registered_append_close hBefore]
  · rw [if_neg h, run_of_open rfl h, registered_of_open h]

theorem lastWins_run (calls : List Call) :
    (({} : Roster).run calls).entries.LastWins
      ((registered calls).map SafeType.write) := by
  have hEntries : (({} : Roster).run calls).entries =
      .ofList ((registered calls).map SafeType.write) := by
    rw [run_new]
    split
    · rw [entries_close, entries_storeAll]
      rfl
    · rw [entries_storeAll]
      rfl
  rw [hEntries]
  exact Table.lastWins_ofList _

theorem isClosed_run (calls : List Call) :
    (({} : Roster).run calls).isClosed = decide (.close ∈ calls) := by
  rw [run_new]
  by_cases h : .close ∈ calls
  · rw [if_pos h, isClosed_close, decide_eq_true h]
  · rw [if_neg h, isClosed_storeAll, decide_eq_false h]

/-- Whether and why a call behind a run is refused. A closed roster refuses every call that
has something to enter, and an open one refuses a defect only. -/
theorem answer_run (before : List Call) (call : Call) :
    ((({} : Roster).run before).answer call).2 =
      if .close ∈ before then call.entries.head?.map fun _ => .alreadyClosed
      else call.entries.firstDefect?.map .defective := by
  have hClosed := isClosed_run before
  by_cases h : .close ∈ before
  · rw [decide_eq_true h] at hClosed
    rw [if_pos h, answer_of_closed hClosed]
  · rw [decide_eq_false h] at hClosed
    rw [if_neg h]
    by_cases hCall : call = .close
    · rw [hCall]
      rfl
    · rw [answer_of_open hClosed hCall]

/-- A run on a new roster is the log of what it registers, read with the last record of each
name winning. Every beginning of a run is a run, so this holds at every point. The calls
that are refused are told apart as in `answer_run`, and the table that the first closing
finishes stays as it is and is finished again by every later one. -/
theorem run_refines_registered (calls : List Call) :
    (({} : Roster).run calls).entries.names.Nodup ∧
    (({} : Roster).run calls).entries.names =
      ((registered calls).map SafeType.name).eraseDups ∧
    (∀ name, (({} : Roster).run calls).entries.get? name =
      (registered calls).findRev? fun record => record.name = name) ∧
    (∀ before call after, calls = before ++ call :: after →
      ((({} : Roster).run before).answer call).2 =
        if .close ∈ before then call.entries.head?.map fun _ => .alreadyClosed
        else call.entries.firstDefect?.map .defective) ∧
    (∀ before after, calls = before ++ .close :: after → .close ∉ before →
      (({} : Roster).run before).table? = none ∧
      (({} : Roster).run calls).table? = some (({} : Roster).run before).entries ∧
      (({} : Roster).run calls).close.table? = (({} : Roster).run calls).table?) := by
  have hLog := lastWins_run calls
  refine ⟨(({} : Roster).run calls).entries.nodup_names, ?_, ?_, ?_, ?_⟩
  · rw [hLog.order, List.map_map]
    rfl
  · intro name
    rw [hLog.value, Table.lastWrite_map]
    exact congrFun Option.map_id _
  · intro before call after _
    exact answer_run before call
  · rintro before after rfl hBefore
    have hOpen : (({} : Roster).run before).isClosed = false := by
      rw [isClosed_run, decide_eq_false hBefore]
    have hRun : ({} : Roster).run (before ++ .close :: after) =
        (({} : Roster).run before).close := by
      rw [run_append_close hBefore, registered_of_open hBefore, run_of_open rfl hBefore]
    refine ⟨?_, ?_, ?_⟩
    · rw [table?, hOpen]
      rfl
    · rw [hRun, table?_close]
    · rw [hRun, close_close]

/-- What a roster that a run has closed says to someone who wants to enter something. A name
or a class is refused because the roster is closed, whatever comes with it, and so is a batch
with a member. An empty batch has nothing that could be refused. The roster keeps its entries,
its finished table and its log in every case. -/
theorem answer_run_closed (before after : List Call) :
    let roster := ({} : Roster).run (before ++ .close :: after)
    roster.table? = some roster.entries ∧
    (∀ name containerOf,
      roster.answer (.enterName name containerOf) = (roster, some .alreadyClosed)) ∧
    (∀ target containerOf,
      roster.answer (.enterClass target containerOf) = (roster, some .alreadyClosed)) ∧
    (∀ names, roster.answer (.enterNames names) =
      (roster, if names = [] then none else some .alreadyClosed)) ∧
    ∀ targets, roster.answer (.enterClasses targets) =
      (roster, if targets = [] then none else some .alreadyClosed) := by
  intro roster
  have hClosed : roster.isClosed = true := by
    rw [isClosed_run]
    simp
  have hAnswer := answer_of_closed hClosed
  refine ⟨if_pos hClosed, ?_, ?_, ?_, ?_⟩
  · intro name containerOf
    exact hAnswer (.enterName name containerOf)
  · intro target containerOf
    exact hAnswer (.enterClass target containerOf)
  · intro names
    rw [hAnswer]
    cases names with
    | nil => rfl
    | cons name rest => rfl
  · intro targets
    rw [hAnswer]
    cases targets with
    | nil => rfl
    | cons target rest => rfl

/-- A closed roster does not refuse every call: two empty batches pass. -/
theorem answer_closed_emptyBatch :
    let roster := ({} : Roster).run [.enterName "a.B" [], .close]
    roster.isClosed = true ∧ (roster.answer (.enterNames [])).2 = none ∧
      (roster.answer (.enterClasses [])).2 = none := by
  decide

end Roster

end SafeTypes
