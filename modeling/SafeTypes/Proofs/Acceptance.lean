import SafeTypes.Proofs.RosterRun

/-! Which entries are accepted. An entry is accepted by an open roster if it is sound, and a
call has no other effect than to store the entries that are accepted, one after another and up
to the first refusal. The log of what a run accepts tells for each name which entry registered
it last. -/
namespace SafeTypes

/-- Undeclared parameters are reported in the order in which they were first asked for. -/
theorem Class.pairwise_undeclared (target : Class) (requested : List String) :
    (target.undeclared requested).Pairwise fun a b =>
      requested.idxOf a < requested.idxOf b :=
  (pairwise_idxOf_eraseDups requested).filter _

theorem Class.nodup_undeclared (target : Class) (requested : List String) :
    (target.undeclared requested).Nodup := by
  refine (target.pairwise_undeclared requested).imp ?_
  intro a b hLt hEq
  rw [hEq] at hLt
  exact Nat.lt_irrefl _ hLt

theorem Catalog.not_isDefective_of_mem_soundPart {catalog : Catalog} {entry : Catalog.Entry}
    (h : entry ∈ catalog.soundPart) : ¬ entry.IsDefective := by
  rw [soundPart] at h
  have hTaken := List.mem_takeWhile_imp h
  exact of_decide_eq_true hTaken

/-- The sound part of a catalog ends in front of the first defective entry. -/
theorem Catalog.soundPart_eq_take (catalog : Catalog) :
    catalog.soundPart = catalog.take (catalog.findIdx fun entry => entry.IsDefective) := by
  rw [soundPart, List.takeWhile_eq_take_findIdx_not]
  simp only [decide_not, Bool.not_not]

theorem Catalog.firstDefect?_eq_bind_getElem? (catalog : Catalog) :
    catalog.firstDefect? =
      catalog[catalog.findIdx fun entry => entry.IsDefective]?.bind Catalog.Entry.defect? := by
  rw [firstDefect?_eq_bind_find?, List.find?_eq_getElem?_findIdx]

namespace Roster

/-- The call that enters one entry of a catalog. -/
def Call.ofEntry (entry : Catalog.Entry) : Call :=
  match entry.target with
  | .ofClass target => .enterClass target entry.containerOf
  | .named name => .enterName name entry.containerOf

theorem answer_ofEntry (roster : Roster) (entry : Catalog.Entry) :
    roster.answer (.ofEntry entry) = roster.after (roster.enterEntry entry) := by
  obtain ⟨target, containerOf, documented⟩ := entry
  cases target with
  | ofClass target => rfl
  | named name => rfl

/-- The entries of a list that are accepted when they are entered one after another, up to the
first refusal. -/
def acceptedOf (roster : Roster) : Catalog → Catalog
  | [] => []
  | entry :: rest =>
      match roster.enterEntry entry with
      | .ok next => entry :: next.acceptedOf rest
      | .error _ => []

/-- The entries that are accepted in a run of calls, in order. -/
def accepted (roster : Roster) : List Call → Catalog
  | [] => []
  | call :: rest => roster.acceptedOf call.entries ++ (roster.answer call).1.accepted rest

theorem acceptedOf_of_closed {roster : Roster} (h : roster.isClosed = true)
    (catalog : Catalog) : roster.acceptedOf catalog = [] := by
  cases catalog with
  | nil => rfl
  | cons entry rest => rw [acceptedOf, enterEntry_of_closed h]

theorem acceptedOf_of_open {roster : Roster} (h : roster.isClosed = false)
    (catalog : Catalog) : roster.acceptedOf catalog = catalog.soundPart := by
  induction catalog generalizing roster with
  | nil => rfl
  | cons entry rest ih =>
      rw [acceptedOf, enterEntry_of_open h]
      cases hDefect : entry.defect? with
      | none =>
          have hNext : (roster.store entry.record).isClosed = false := h
          have hSound : ¬ entry.IsDefective := Catalog.Entry.defect?_eq_none_iff.1 hDefect
          rw [Catalog.soundPart_cons_of_sound hSound]
          exact congrArg (entry :: ·) (ih hNext)
      | some defect =>
          have hDefective : entry.IsDefective := Catalog.Entry.isDefective_of_defect? hDefect
          rw [Catalog.soundPart_cons_of_defective hDefective]

theorem not_isDefective_of_mem_acceptedOf {roster : Roster} {catalog : Catalog}
    {entry : Catalog.Entry} (h : entry ∈ roster.acceptedOf catalog) : ¬ entry.IsDefective := by
  cases hClosed : roster.isClosed with
  | true =>
      rw [acceptedOf_of_closed hClosed] at h
      exact (List.not_mem_nil h).elim
  | false =>
      rw [acceptedOf_of_open hClosed] at h
      exact Catalog.not_isDefective_of_mem_soundPart h

theorem not_isDefective_of_mem_accepted {roster : Roster} {calls : List Call}
    {entry : Catalog.Entry} (h : entry ∈ roster.accepted calls) : ¬ entry.IsDefective := by
  induction calls generalizing roster with
  | nil => exact (List.not_mem_nil h).elim
  | cons call rest ih =>
      rcases List.mem_append.1 h with hCall | hRest
      · exact not_isDefective_of_mem_acceptedOf hCall
      · exact ih hRest

theorem accepted_of_closed {roster : Roster} (h : roster.isClosed = true) (calls : List Call) :
    roster.accepted calls = [] := by
  induction calls with
  | nil => rfl
  | cons call rest ih =>
      rw [accepted, acceptedOf_of_closed h, answer_of_closed h, List.nil_append]
      exact ih

/-- What a run accepts is what it registers. -/
theorem map_record_accepted {roster : Roster} (h : roster.isClosed = false) (calls : List Call) :
    (roster.accepted calls).map Catalog.Entry.record = registered calls := by
  induction calls generalizing roster with
  | nil => rfl
  | cons call rest ih =>
      rw [accepted, List.map_append, acceptedOf_of_open h]
      by_cases hCall : call = .close
      · have hNone : roster.close.accepted rest = [] :=
          accepted_of_closed roster.isClosed_close rest
        simp [hCall, answer, hNone, registered, Call.entries, Catalog.soundPart]
      · have hNext : (roster.answer call).1.isClosed = false := by
          rw [answer_of_open h hCall, isClosed_storeAll, h]
        rw [ih hNext, registered, registered, List.takeWhile_cons_of_pos (by simpa using hCall),
          List.flatMap_cons, Call.records]

theorem fst_enterCatalog (roster : Roster) (catalog : Catalog) :
    (roster.enterCatalog catalog).1 =
      roster.storeAll ((roster.acceptedOf catalog).map Catalog.Entry.record) := by
  cases hClosed : roster.isClosed with
  | true =>
      rw [enterCatalog_of_closed hClosed, acceptedOf_of_closed hClosed]
      rfl
  | false => rw [enterCatalog_of_open hClosed, acceptedOf_of_open hClosed]

/-- One call writes what it accepts into the table and nothing else. -/
theorem entries_answer (roster : Roster) (call : Call) :
    (roster.answer call).1.entries = roster.entries.insertAll
      ((roster.acceptedOf call.entries).map fun entry => (entry.name, entry.record)) := by
  by_cases hClose : call = .close
  · rw [hClose]
    exact roster.entries_close
  · rw [roster.answer_eq_enterCatalog hClose, fst_enterCatalog, entries_storeAll, List.map_map]
    rfl

/-- A call leaves each name the record of the last entry that it accepts for it. Any other name
keeps the record that it has. -/
theorem get?_answer (roster : Roster) (call : Call) (name : String) :
    (roster.answer call).1.entries.get? name =
      (((roster.acceptedOf call.entries).findRev? fun entry => entry.name = name).map
        Catalog.Entry.record).or (roster.entries.get? name) := by
  rw [entries_answer, Table.get?_insertAll, Table.lastWrite_map]

/-- A run writes what it accepts into the table, in order. -/
theorem entries_run (roster : Roster) (calls : List Call) :
    (roster.run calls).entries = roster.entries.insertAll
      ((roster.accepted calls).map fun entry => (entry.name, entry.record)) := by
  induction calls generalizing roster with
  | nil => rfl
  | cons call rest ih =>
      have hRest : (roster.run (call :: rest)).entries = _ := ih (roster.answer call).1
      rw [hRest, entries_answer, accepted, List.map_append, Table.insertAll, Table.insertAll,
        Table.insertAll, List.foldl_append]

/-- The record of a name is the one of the last entry that a run accepts for it. -/
theorem get?_run (calls : List Call) (name : String) :
    (({} : Roster).run calls).entries.get? name =
      ((({} : Roster).accepted calls).findRev? fun entry => entry.name = name).map
        Catalog.Entry.record := by
  have hLog := Table.lastWins_ofList
    ((({} : Roster).accepted calls).map fun entry => (entry.name, entry.record))
  rw [entries_run]
  exact (hLog.value name).trans (Table.lastWrite_map _ _ name)

/-- Every record comes from the last entry that was accepted for its name, and if that was a
class, then the record lists declared parameters only. -/
theorem last_accepted (calls : List Call) (name : String) (record : SafeType)
    (h : (({} : Roster).run calls).entries.get? name = some record) :
    ∃ entry,
      (({} : Roster).accepted calls).findRev? (fun entry => entry.name = name) = some entry ∧
      record = entry.record ∧
      ∀ declaring, entry.target = .ofClass declaring →
        ∀ parameter ∈ record.containerOf, parameter ∈ declaring.declared := by
  rw [get?_run, Option.map_eq_some_iff] at h
  obtain ⟨entry, hEntry, rfl⟩ := h
  refine ⟨entry, hEntry, rfl, ?_⟩
  intro declaring hTarget parameter hParameter
  have hSound := not_isDefective_of_mem_accepted (mem_of_findRev? hEntry).1
  refine Classical.byContradiction fun hMissing => hSound ?_
  exact ⟨declaring, hTarget, parameter, hParameter, hMissing⟩

theorem answer_enterName_of_open {roster : Roster} (h : roster.isClosed = false)
    (name : String) (containerOf : List String) :
    roster.answer (.enterName name containerOf) = (roster.store ⟨name, containerOf⟩, none) := by
  simp [answer, enterName, after, h]

/-- An open roster stores a class under its name, unless it asks for an undeclared parameter.
It is then reported, and the roster stays as it was. -/
theorem answer_enterClass_of_open {roster : Roster} (h : roster.isClosed = false)
    (target : Class) (requested : List String) :
    roster.answer (.enterClass target requested) =
      if target.undeclared requested = [] then
        (roster.store ⟨target.qualifiedName, requested⟩, none)
      else (roster, some (.defective
        ⟨target.qualifiedName, target.undeclared requested, target.declared⟩)) := by
  simp only [answer, enterClass, h]
  cases target.undeclared requested with
  | nil => rfl
  | cons name names => rfl

/-- Sound entries are all stored when they are entered by calls of their own. -/
theorem run_ofEntry {roster : Roster} (h : roster.isClosed = false) {entries : Catalog}
    (hSound : ∀ entry ∈ entries, ¬ entry.IsDefective) :
    roster.run (entries.map .ofEntry) = roster.storeAll (entries.map Catalog.Entry.record) := by
  induction entries generalizing roster with
  | nil => rfl
  | cons entry rest ih =>
      have hDefect := Catalog.Entry.defect?_eq_none_iff.2 (hSound entry List.mem_cons_self)
      have hNext : (roster.store entry.record).isClosed = false := h
      rw [List.map_cons, run, List.foldl_cons, answer_ofEntry, enterEntry_of_open h, hDefect]
      exact ih hNext fun other hOther => hSound other (List.mem_cons_of_mem _ hOther)

/-- A class is entered with its parameters checked, or not at all. An open roster refuses it
exactly if it asks for a parameter that the class does not declare, reports each such parameter
once and in the order of the first requests, and stays as it was. Otherwise the class is entered
as its name would be, with all that was asked for. So in every state that a run leads to, a
record that a class was the last to register lists declared parameters only. -/
theorem enterClass_atomic {roster : Roster} (hOpen : roster.isClosed = false) (target : Class)
    (requested : List String) :
    let answer := roster.answer (.enterClass target requested)
    ((∃ defect, answer.2 = some (.defective defect)) ↔
      ∃ parameter ∈ requested, parameter ∉ target.declared) ∧
    (∀ refusal, answer.2 = some refusal →
      answer.1 = roster ∧ ∃ undeclared,
        refusal = .defective ⟨target.qualifiedName, undeclared, target.declared⟩ ∧
        undeclared ≠ [] ∧
        (∀ parameter, parameter ∈ undeclared ↔
          parameter ∈ requested ∧ parameter ∉ target.declared) ∧
        undeclared.Nodup ∧
        undeclared.Pairwise fun a b => requested.idxOf a < requested.idxOf b) ∧
    (answer.2 = none →
      answer = roster.answer (.enterName target.qualifiedName requested) ∧
      answer.1.entries.get? target.qualifiedName =
        some ⟨target.qualifiedName, requested⟩) ∧
    ∀ calls name record, (({} : Roster).run calls).entries.get? name = some record →
      ∃ entry,
        (({} : Roster).accepted calls).findRev? (fun entry => entry.name = name) = some entry ∧
        record = entry.record ∧
        ∀ declaring, entry.target = .ofClass declaring →
          ∀ parameter ∈ record.containerOf, parameter ∈ declaring.declared := by
  intro answer
  have hAnswer : answer = _ := answer_enterClass_of_open hOpen target requested
  by_cases hUndeclared : target.undeclared requested = []
  · rw [if_pos hUndeclared] at hAnswer
    have hDeclared := target.undeclared_eq_nil_iff.1 hUndeclared
    rw [hAnswer]
    refine ⟨⟨?_, ?_⟩, ?_, ?_, last_accepted⟩
    · rintro ⟨defect, hDefect⟩
      cases hDefect
    · rintro ⟨parameter, hRequested, hMissing⟩
      exact (hMissing (hDeclared parameter hRequested)).elim
    · intro refusal hRefusal
      cases hRefusal
    · intro _
      refine ⟨(answer_enterName_of_open hOpen _ _).symm, ?_⟩
      change (roster.entries.insert _ _).get? _ = _
      rw [Table.get?_insert, if_pos rfl]
  · rw [if_neg hUndeclared] at hAnswer
    obtain ⟨parameter, hParameter⟩ := List.exists_mem_of_ne_nil _ hUndeclared
    rw [hAnswer]
    refine ⟨⟨?_, fun _ => ⟨_, rfl⟩⟩, ?_, ?_, last_accepted⟩
    · intro _
      exact ⟨parameter, target.mem_undeclared.1 hParameter⟩
    · intro refusal hRefusal
      cases hRefusal
      exact ⟨rfl, _, rfl, hUndeclared, fun _ => target.mem_undeclared,
        target.nodup_undeclared requested, target.pairwise_undeclared requested⟩
    · intro hNone
      cases hNone

/-- Two requests for a class that is known by name already: one with parameters that the class
does not declare, and one that repeats a declared parameter. -/
theorem enterClass_atomic_mixed :
    let roster := ({} : Roster).run [.enterName "m.Pair" ["Z"]]
    let pair : Class := ⟨"m.Pair", { genericOver := some ["K", "V"] }, []⟩
    roster.isClosed = false ∧
    roster.answer (.enterClass pair ["X", "K", "Y", "X"]) =
      (roster, some (.defective ⟨"m.Pair", ["X", "Y"], ["K", "V"]⟩)) ∧
    roster.answer (.enterClass pair ["V", "K", "V"]) =
      roster.answer (.enterName "m.Pair" ["V", "K", "V"]) := by
  intro roster pair
  have hOpen : roster.isClosed = false := rfl
  have hRefused := enterClass_atomic hOpen pair ["X", "K", "Y", "X"]
  have hEntered := enterClass_atomic hOpen pair ["V", "K", "V"]
  have hDefect : (roster.answer (.enterClass pair ["X", "K", "Y", "X"])).2 =
      some (.defective ⟨"m.Pair", ["X", "Y"], ["K", "V"]⟩) := by decide
  refine ⟨hOpen, ?_, (hEntered.2.2.1 (by decide)).1⟩
  exact Prod.ext (hRefused.2.1 _ hDefect).1 hDefect

/-- Registering a catalog stops at its first defective entry. The entries in front of it are
accepted, and the roster is then, with its log, the one that calls for these entries alone lead
to: no name loses its place, a name of theirs has the record of the last of them for it, and no
other record changes. The defect that is reported is the one of the entry at which it stopped. A
closed roster refuses every catalog with an entry, whatever the first entry is, and stays as it
was. -/
theorem enterCatalog_stops (roster : Roster) (catalog : Catalog) :
    let i := catalog.findIdx fun entry => entry.IsDefective
    let answer := roster.answer (.enterCatalog catalog)
    (roster.isClosed = false →
      answer.1 = roster.run ((catalog.take i).map .ofEntry) ∧
      roster.acceptedOf catalog = catalog.take i ∧
      roster.entries.names <+: answer.1.entries.names ∧
      (∀ name entry, (catalog.take i).findRev? (fun entry => entry.name = name) = some entry →
        answer.1.entries.get? name = some entry.record) ∧
      (∀ name, (∀ entry ∈ catalog.take i, entry.name ≠ name) →
        answer.1.entries.get? name = roster.entries.get? name) ∧
      match catalog[i]? with
      | some entry => ∃ target, entry.target = .ofClass target ∧ entry.IsDefective ∧
          answer.2 = some (.defective
            { typeName := target.qualifiedName
              undeclared := entry.containerOf.eraseDups.filter fun name =>
                name ∉ target.declared
              declared := target.declared })
      | none => catalog.take i = catalog ∧ answer.2 = none) ∧
    (roster.isClosed = true → catalog ≠ [] → answer = (roster, some .alreadyClosed)) := by
  intro i answer
  refine ⟨?_, ?_⟩
  · intro hOpen
    have hAccepted : roster.acceptedOf catalog = catalog.take i :=
      (acceptedOf_of_open hOpen catalog).trans catalog.soundPart_eq_take
    have hSound : ∀ entry ∈ catalog.take i, ¬ entry.IsDefective := by
      intro entry hEntry
      rw [← hAccepted] at hEntry
      exact not_isDefective_of_mem_acceptedOf hEntry
    have hEntries : answer.1.entries = _ := roster.entries_answer (.enterCatalog catalog)
    refine ⟨?_, hAccepted, ?_, ?_, ?_, ?_⟩
    · rw [run_ofEntry hOpen hSound, ← hAccepted]
      exact roster.fst_enterCatalog catalog
    · rw [hEntries]
      exact Table.isPrefix_names_insertAll _ _
    · intro name entry hLast
      have hRecord : answer.1.entries.get? name = _ :=
        roster.get?_answer (.enterCatalog catalog) name
      rw [Call.entries, hAccepted, hLast] at hRecord
      exact hRecord
    · intro name hName
      rw [hEntries]
      apply Table.get?_insertAll_of_not_mem
      change name ∉ ((roster.acceptedOf catalog).map _).map Prod.fst
      rw [hAccepted, List.map_map, List.mem_map]
      rintro ⟨entry, hEntry, hEq⟩
      exact hName entry hEntry hEq
    · have hRefusal : answer.2 = (catalog[i]?.bind Catalog.Entry.defect?).map .defective := by
        change (roster.enterCatalog catalog).2 = _
        rw [enterCatalog_of_open hOpen, catalog.firstDefect?_eq_bind_getElem?]
      cases hFound : catalog[i]? with
      | some entry =>
          have hDefective : entry.IsDefective := by
            simpa using List.findIdx_of_getElem?_eq_some hFound
          obtain ⟨target, hTarget, hDefect⟩ := Catalog.Entry.defect?_of_isDefective hDefective
          refine ⟨target, hTarget, hDefective, ?_⟩
          rw [hRefusal, hFound, Option.bind_some, hDefect, Option.map_some]
      | none =>
          refine ⟨List.take_of_length_le (List.getElem?_eq_none_iff.1 hFound), ?_⟩
          rw [hRefusal, hFound]
          rfl
  · intro hClosed hEntries
    obtain ⟨entry, rest, rfl⟩ := List.exists_cons_of_ne_nil hEntries
    exact enterCatalog_of_closed hClosed (entry :: rest)

end Roster

end SafeTypes
