import Mathlib.Data.List.TakeWhile
import SafeTypes.Proofs.LastWrite
import SafeTypes.Roster

/-! What registering does to a roster. Every call but closing comes down to entering a
list of catalog entries in order, so that one law covers single calls, batches and
catalogs: the entries in front of the first defective one are stored, and its defect is
the answer. -/
namespace SafeTypes

theorem Class.mem_undeclared (target : Class) {requested : List String} {name : String} :
    name ∈ target.undeclared requested ↔ name ∈ requested ∧ name ∉ target.declared := by
  simp [Class.undeclared]

theorem Class.undeclared_eq_filter (target : Class) (requested : List String) :
    target.undeclared requested =
      requested.eraseDups.filter fun name => name ∉ target.declared := by
  simp [Class.undeclared]

theorem Class.undeclared_eq_nil_iff (target : Class) {requested : List String} :
    target.undeclared requested = [] ↔ ∀ name ∈ requested, name ∈ target.declared := by
  rw [List.eq_nil_iff_forall_not_mem]
  simp only [target.mem_undeclared, not_and, Decidable.not_not]

namespace Catalog

/-- An entry is defective if it asks for a parameter that its class does not declare. The
parameters of a type that is given by name are trusted. -/
def Entry.IsDefective (entry : Entry) : Prop :=
  ∃ target, entry.target = .ofClass target ∧
    ∃ parameter ∈ entry.containerOf, parameter ∉ target.declared

/-- What is reported of an entry. -/
def Entry.defect? (entry : Entry) : Option CatalogDefect :=
  match entry.target with
  | .named _ => none
  | .ofClass target =>
      match target.undeclared entry.containerOf with
      | [] => none
      | undeclared => some ⟨target.qualifiedName, undeclared, target.declared⟩

/-- Only a class has a defect, and the report of it names the class, the parameters that
are not declared and the ones that are. -/
theorem Entry.defect?_eq_some_iff {entry : Entry} {defect : CatalogDefect} :
    entry.defect? = some defect ↔
      ∃ target, entry.target = .ofClass target ∧ target.undeclared entry.containerOf ≠ [] ∧
        defect = ⟨target.qualifiedName, target.undeclared entry.containerOf,
          target.declared⟩ := by
  obtain ⟨target, containerOf, documented⟩ := entry
  cases target with
  | named name => simp [Entry.defect?]
  | ofClass target =>
      simp only [Entry.defect?, Target.ofClass.injEq, exists_eq_left']
      cases target.undeclared containerOf with
      | nil => simp
      | cons name names => simp [eq_comm (a := defect)]

theorem Entry.defect?_eq_none_iff {entry : Entry} :
    entry.defect? = none ↔ ¬ entry.IsDefective := by
  have hUndeclared (target : Class) : target.undeclared entry.containerOf ≠ [] ↔
      ∃ parameter ∈ entry.containerOf, parameter ∉ target.declared := by
    rw [Ne, target.undeclared_eq_nil_iff]
    simp only [Classical.not_forall, exists_prop]
  rw [Option.eq_none_iff_forall_ne_some]
  constructor
  · rintro h ⟨target, hTarget, hMissing⟩
    exact h _ (Entry.defect?_eq_some_iff.2 ⟨target, hTarget, (hUndeclared target).2 hMissing, rfl⟩)
  · intro h defect hDefect
    obtain ⟨target, hTarget, hMissing, _⟩ := Entry.defect?_eq_some_iff.1 hDefect
    exact h ⟨target, hTarget, (hUndeclared target).1 hMissing⟩

theorem Entry.isDefective_of_defect? {entry : Entry} {defect : CatalogDefect}
    (h : entry.defect? = some defect) : entry.IsDefective := by
  refine Classical.byContradiction fun hSound => ?_
  rw [Entry.defect?_eq_none_iff.2 hSound] at h
  cases h

/-- The report of a defective entry names the requested parameters that its class does not
declare, each at its first place, and the ones that it does. -/
theorem Entry.defect?_of_isDefective {entry : Entry} (h : entry.IsDefective) :
    ∃ target, entry.target = .ofClass target ∧ entry.defect? = some
      { typeName := target.qualifiedName
        undeclared := entry.containerOf.eraseDups.filter fun name => name ∉ target.declared
        declared := target.declared } := by
  have hSome : entry.defect? ≠ none := fun hNone => Entry.defect?_eq_none_iff.1 hNone h
  obtain ⟨defect, hDefect⟩ := Option.ne_none_iff_exists'.1 hSome
  obtain ⟨target, hTarget, _, rfl⟩ := Entry.defect?_eq_some_iff.1 hDefect
  rw [target.undeclared_eq_filter] at hDefect
  exact ⟨target, hTarget, hDefect⟩

theorem Entry.not_isDefective_of_nil {entry : Entry} (h : entry.containerOf = []) :
    ¬ entry.IsDefective := by
  rintro ⟨_, _, parameter, hParameter, _⟩
  rw [h] at hParameter
  exact List.not_mem_nil hParameter

instance (entry : Entry) : Decidable entry.IsDefective :=
  decidable_of_iff (¬ entry.defect? = none)
    ((not_congr Entry.defect?_eq_none_iff).trans Classical.not_not)

/-- The entries in front of the first defective one. -/
def soundPart (catalog : Catalog) : Catalog :=
  catalog.takeWhile fun entry => ¬ entry.IsDefective

theorem soundPart_cons_of_sound {entry : Entry} (h : ¬ entry.IsDefective) (rest : Catalog) :
    soundPart (entry :: rest) = entry :: soundPart rest :=
  List.takeWhile_cons_of_pos (decide_eq_true h)

theorem soundPart_cons_of_defective {entry : Entry} (h : entry.IsDefective) (rest : Catalog) :
    soundPart (entry :: rest) = [] :=
  List.takeWhile_cons_of_neg fun hSound => of_decide_eq_true hSound h

/-- What is reported of the first defective entry. -/
def firstDefect? (catalog : Catalog) : Option CatalogDefect :=
  catalog.findSome? Entry.defect?

theorem firstDefect?_cons (entry : Entry) (rest : Catalog) :
    firstDefect? (entry :: rest) = entry.defect?.or (firstDefect? rest) := by
  rw [firstDefect?, List.findSome?_cons]
  cases entry.defect? with
  | none => rfl
  | some defect => rfl

theorem firstDefect?_eq_none_iff {catalog : Catalog} :
    catalog.firstDefect? = none ↔ ∀ entry ∈ catalog, ¬ entry.IsDefective := by
  simp only [firstDefect?, List.findSome?_eq_none_iff, Entry.defect?_eq_none_iff]

theorem firstDefect?_eq_some_iff {catalog : Catalog} {defect : CatalogDefect} :
    catalog.firstDefect? = some defect ↔
      ∃ before entry after, catalog = before ++ entry :: after ∧
        entry.defect? = some defect ∧ ∀ earlier ∈ before, ¬ earlier.IsDefective := by
  simp only [firstDefect?, List.findSome?_eq_some_iff, Entry.defect?_eq_none_iff]

/-- The defect that is reported is the one of the first defective entry. -/
theorem firstDefect?_eq_bind_find? (catalog : Catalog) :
    catalog.firstDefect? =
      (catalog.find? fun entry => entry.IsDefective).bind Entry.defect? := by
  induction catalog with
  | nil => rfl
  | cons entry rest ih =>
      rw [firstDefect?_cons]
      by_cases h : entry.IsDefective
      · obtain ⟨target, _, hDefect⟩ := Entry.defect?_of_isDefective h
        simp [h, hDefect]
      · rw [Entry.defect?_eq_none_iff.2 h, Option.none_or, ih]
        simp [h]

theorem soundPart_eq_self {catalog : Catalog}
    (h : ∀ entry ∈ catalog, ¬ entry.IsDefective) : catalog.soundPart = catalog := by
  rw [soundPart, List.takeWhile_eq_self_iff]
  intro entry hEntry
  exact decide_eq_true (h entry hEntry)

end Catalog

/-- What a record is stored as. -/
def SafeType.write (record : SafeType) : String × SafeType :=
  (record.name, record)

namespace Roster

/-- Stores records one after another. -/
def storeAll (roster : Roster) (records : List SafeType) : Roster :=
  records.foldl store roster

@[simp] theorem isClosed_storeAll (roster : Roster) (records : List SafeType) :
    (roster.storeAll records).isClosed = roster.isClosed := by
  induction records generalizing roster with
  | nil => rfl
  | cons record rest ih => exact ih (roster.store record)

theorem entries_storeAll (roster : Roster) (records : List SafeType) :
    (roster.storeAll records).entries =
      roster.entries.insertAll (records.map SafeType.write) := by
  induction records generalizing roster with
  | nil => rfl
  | cons record rest ih => exact ih (roster.store record)

theorem storeAll_append (roster : Roster) (first second : List SafeType) :
    roster.storeAll (first ++ second) = (roster.storeAll first).storeAll second :=
  List.foldl_append

/-- A closed roster is asked before anything else is looked at. -/
theorem enterEntry_of_closed {roster : Roster} (h : roster.isClosed = true)
    (entry : Catalog.Entry) : roster.enterEntry entry = .error .alreadyClosed := by
  obtain ⟨target, containerOf, documented⟩ := entry
  cases target with
  | named name => simp [enterEntry, enterName, h]
  | ofClass target => simp [enterEntry, enterClass, h]

theorem enterEntry_of_open {roster : Roster} (h : roster.isClosed = false)
    (entry : Catalog.Entry) :
    roster.enterEntry entry =
      match entry.defect? with
      | none => .ok (roster.store entry.record)
      | some defect => .error (.defective defect) := by
  obtain ⟨target, containerOf, documented⟩ := entry
  cases target with
  | named name => simp [enterEntry, enterName, Catalog.Entry.defect?, Catalog.Entry.record,
      Catalog.Entry.name, Catalog.Target.name, h]
  | ofClass target =>
      simp only [enterEntry, enterClass, Catalog.Entry.defect?, h]
      cases target.undeclared containerOf with
      | nil => rfl
      | cons name names => rfl

/-- A closed roster refuses the first entry of a list, and has nothing to refuse in an
empty one. -/
theorem enterCatalog_of_closed {roster : Roster} (h : roster.isClosed = true)
    (catalog : Catalog) :
    roster.enterCatalog catalog = (roster, catalog.head?.map fun _ => .alreadyClosed) := by
  cases catalog with
  | nil => rfl
  | cons entry rest => simp [enterCatalog, enterEach, enterEntry_of_closed h]

/-- An open roster stores the sound part of a catalog and reports the first defect. -/
theorem enterCatalog_of_open {roster : Roster} (h : roster.isClosed = false)
    (catalog : Catalog) :
    roster.enterCatalog catalog =
      (roster.storeAll (catalog.soundPart.map Catalog.Entry.record),
        catalog.firstDefect?.map .defective) := by
  induction catalog generalizing roster with
  | nil => rfl
  | cons entry rest ih =>
      have hStep := enterEntry_of_open h entry
      cases hDefect : entry.defect? with
      | none =>
          -- Storing leaves the roster open, so the rest of the catalog meets the same law.
          have hNext : (roster.store entry.record).isClosed = false := h
          have hSound : ¬ entry.IsDefective := Catalog.Entry.defect?_eq_none_iff.1 hDefect
          rw [hDefect] at hStep
          rw [enterCatalog, enterEach, hStep]
          change enterCatalog (roster.store entry.record) rest = _
          rw [ih hNext, Catalog.soundPart_cons_of_sound hSound, Catalog.firstDefect?_cons,
            hDefect, Option.none_or]
          rfl
      | some defect =>
          have hDefective : entry.IsDefective :=
            Catalog.Entry.isDefective_of_defect? hDefect
          rw [hDefect] at hStep
          rw [enterCatalog, enterEach, hStep, Catalog.soundPart_cons_of_defective hDefective,
            Catalog.firstDefect?_cons, hDefect, Option.some_or]
          rfl

theorem enterEach_map {Item Source : Type} (enter : Roster → Item → Except Refusal Roster)
    (make : Source → Item) (roster : Roster) (sources : List Source) :
    enterEach enter roster (sources.map make) =
      enterEach (fun roster source => enter roster (make source)) roster sources := by
  induction sources generalizing roster with
  | nil => rfl
  | cons source rest ih =>
      simp only [List.map_cons, enterEach]
      split
      · next next hNext => exact ih next
      · rfl

/-- The entries that a call gives to a roster, in order. -/
def Call.entries : Call → Catalog
  | .enterName name containerOf => [{ target := .named name, containerOf }]
  | .enterClass target containerOf => [{ target := .ofClass target, containerOf }]
  | .enterNames names => names.map fun name => { target := .named name }
  | .enterClasses targets => targets.map fun target => { target := .ofClass target }
  | .enterCatalog catalog => catalog
  | .close => []

theorem answer_eq_enterCatalog (roster : Roster) {call : Call} (h : call ≠ .close) :
    roster.answer call = roster.enterCatalog call.entries := by
  cases call with
  | enterName name containerOf =>
      simp only [answer, Call.entries, enterCatalog, enterEach, enterEntry]
      cases roster.enterName name containerOf with
      | ok next => rfl
      | error refusal => rfl
  | enterClass target containerOf =>
      simp only [answer, Call.entries, enterCatalog, enterEach, enterEntry]
      cases roster.enterClass target containerOf with
      | ok next => rfl
      | error refusal => rfl
  | enterNames names =>
      rw [Call.entries, enterCatalog, enterEach_map]
      rfl
  | enterClasses targets =>
      rw [Call.entries, enterCatalog, enterEach_map]
      rfl
  | enterCatalog catalog => rfl
  | close => exact (h rfl).elim

end Roster

end SafeTypes
