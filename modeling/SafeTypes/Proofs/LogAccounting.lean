import Mathlib.Data.Finset.Card
import SafeTypes.Proofs.Acceptance
import SafeTypes.Proofs.AssemblyOrder

/-! The log of a roster as its account. Every record that is stored either adds a name to the
table or is logged with the record that it takes the place of, so the replacements in the log,
the size of the table and the number of accepted entries balance. -/
namespace SafeTypes

namespace Log

/-- A record and the one that takes its place. -/
abbrev Replacement := SafeType × SafeType

def Event.replacement? : Event → Option Replacement
  | .overriding previous record => some (previous, record)
  | _ => none

/-- The replacements that a log reports, in order. -/
def replacements (log : Log) : List Replacement :=
  log.filterMap Event.replacement?

def Event.closing? : Event → Option Nat
  | .closed count => some count
  | _ => none

/-- The sizes of the tables whose closing a log reports. -/
def closings (log : Log) : List Nat :=
  log.filterMap Event.closing?

/-- Replacements, and closings behind them. -/
def ofParts (replaced : List Replacement) (counts : List Nat) : Log :=
  (replaced.map fun pair => .overriding pair.1 pair.2) ++ counts.map .closed

/-- Each record with the next one. -/
def successions (records : List SafeType) : List Replacement :=
  records.zip records.tail

/-- Replacements account for records that make a table of some size if each of the records is
an entry of the table or is replaced, and the replacements of a name lead from each of its
records to the next. -/
structure Accounts (replaced : List Replacement) (records : List SafeType) (size : Nat) :
    Prop where
  balance : replaced.length + size = records.length
  chain (name : String) : (replaced.filter fun pair => pair.2.name = name) =
    successions (records.filter fun record => record.name = name)

@[simp] theorem replacements_ofParts (replaced : List Replacement) (counts : List Nat) :
    (ofParts replaced counts).replacements = replaced := by
  simp [ofParts, replacements, List.filterMap_map, Function.comp_def, Event.replacement?]

@[simp] theorem closings_ofParts (replaced : List Replacement) (counts : List Nat) :
    (ofParts replaced counts).closings = counts := by
  simp [ofParts, closings, List.filterMap_map, Function.comp_def, Event.closing?]

end Log

namespace Table

variable {Value : Type}

theorem size_eq_card (table : Table Value) : table.size = table.names.toFinset.card := by
  rw [← length_names]
  exact (List.toFinset_card_of_nodup table.nodup_names).symm

/-- A table is as large as the number of different names that were written to it. -/
theorem LastWins.size_eq_card {table : Table Value} {writes : List (String × Value)}
    (h : LastWins table writes) : table.size = (writes.map Prod.fst).toFinset.card := by
  have hNames : table.names.toFinset = (writes.map Prod.fst).toFinset := by
    ext name
    simp [h.order]
  rw [Table.size_eq_card, hNames]

end Table

namespace Roster

/-- The replacements that storing records one after another over a table leads to. -/
def replacing (entries : Table SafeType) : List SafeType → List Log.Replacement
  | [] => []
  | record :: rest =>
      (entries.get? record.name).toList.map (fun previous => (previous, record)) ++
        replacing (entries.insert record.name record) rest

theorem log_store (roster : Roster) (record : SafeType) :
    (roster.store record).log = roster.log ++ Log.ofParts
      ((roster.entries.get? record.name).toList.map fun previous => (previous, record)) [] := by
  cases h : roster.entries.get? record.name with
  | none => simp [store, h, Log.ofParts]
  | some previous => simp [store, h, Log.ofParts]

theorem log_storeAll (roster : Roster) (records : List SafeType) :
    (roster.storeAll records).log =
      roster.log ++ Log.ofParts (replacing roster.entries records) [] := by
  induction records generalizing roster with
  | nil => simp [storeAll, replacing, Log.ofParts]
  | cons record rest ih =>
      have hRest : (roster.storeAll (record :: rest)).log = _ := ih (roster.store record)
      rw [hRest, log_store]
      simp [replacing, Log.ofParts, store]

/-- Each record that is stored is a new entry or a replacement. -/
theorem length_replacing (entries : Table SafeType) (records : List SafeType) :
    (replacing entries records).length + (entries.insertAll (records.map SafeType.write)).size =
      entries.size + records.length := by
  induction records generalizing entries with
  | nil => simp [replacing, Table.insertAll]
  | cons record rest ih =>
      have hRest := ih (entries.insert record.name record)
      have hStep := entries.size_insert record.name record
      have hAll : (entries.insertAll ((record :: rest).map SafeType.write)) =
          (entries.insert record.name record).insertAll (rest.map SafeType.write) := rfl
      rw [hAll, replacing, List.length_append, List.length_map, List.length_cons]
      omega

/-- The replacements of a name lead from each of its records to the next. -/
theorem filter_replacing (entries : Table SafeType) (records : List SafeType) (name : String) :
    (replacing entries records).filter (fun pair => pair.2.name = name) =
      Log.successions
        ((entries.get? name).toList ++ records.filter fun record => record.name = name) := by
  induction records generalizing entries with
  | nil => cases h : entries.get? name <;> simp [replacing, Log.successions]
  | cons record rest ih =>
      have hRest := ih (entries.insert record.name record)
      rw [replacing, List.filter_append, hRest, Table.get?_insert]
      by_cases hName : record.name = name
      · subst hName
        cases h : entries.get? record.name <;> simp [Log.successions]
      · have hNe : ¬ name = record.name := fun hEq => hName hEq.symm
        have hOther : ((entries.get? record.name).toList.map fun previous =>
            (previous, record)).filter (fun pair => pair.2.name = name) = [] := by
          simp [List.filter_eq_nil_iff, hName]
        rw [hOther, if_neg hNe, List.filter_cons_of_neg (by simpa using hName)]
        rfl

theorem accounts_replacing (records : List SafeType) :
    Log.Accounts (replacing .empty records) records
      (Table.ofList (records.map SafeType.write)).size where
  balance := by
    have hCount := length_replacing .empty records
    have hEmpty : (Table.empty : Table SafeType).size = 0 := rfl
    rw [hEmpty, Nat.zero_add] at hCount
    exact hCount
  chain name := filter_replacing .empty records name

/-- The log of a run reports what the accepted entries replace, and then the closing if there is
one, with the size of the finished table. -/
theorem log_run (calls : List Call) :
    (({} : Roster).run calls).log = Log.ofParts
      (replacing .empty ((({} : Roster).accepted calls).map Catalog.Entry.record))
      ((({} : Roster).run calls).table?.map Table.size).toList := by
  have hNew : ({} : Roster).isClosed = false := rfl
  have hLog := log_storeAll {} (registered calls)
  rw [map_record_accepted hNew, run_new]
  split
  · rw [table?_close, close, if_neg (by simp), hLog]
    simp [Log.ofParts]
  · rw [table?, if_neg (by simp), hLog]
    rfl

/-- The whole account of a run. -/
theorem accounts_run (calls : List Call) :
    Log.Accounts (({} : Roster).run calls).log.replacements
      ((({} : Roster).accepted calls).map Catalog.Entry.record)
      (({} : Roster).run calls).entries.size := by
  have hEntries := entries_run {} calls
  have hAccounts := accounts_replacing ((({} : Roster).accepted calls).map Catalog.Entry.record)
  rw [List.map_map] at hAccounts
  rw [log_run, Log.replacements_ofParts, hEntries]
  exact hAccounts

end Roster

namespace Assembly

variable {catalog : Catalog} (hCatalog : catalog.firstDefect? = none) (names : List String)
  (immutable : Table SafeType)

include hCatalog

/-- The log of an assembly is that of its roster, with the counts behind it. -/
theorem log_make :
    (make catalog names immutable).log =
      Log.ofParts (Roster.replacing .empty
        ((names.map fun name => ⟨name, []⟩) ++ catalog.map Catalog.Entry.record))
        [(roster catalog names).entries.size] ++
      [.assembled (Table.ofList (writes catalog names immutable)).size immutable.size] := by
  have hOpen : (roster catalog names).isClosed = false := Roster.isClosed_storeAll {} _
  have hLog := Roster.log_storeAll {}
    ((names.map fun name => SafeType.mk name []) ++ catalog.soundPart.map Catalog.Entry.record)
  rw [← roster] at hLog
  rw [make_eq, hCatalog]
  simp only [finish, Roster.entries_close, overlay_roster hCatalog]
  rw [Roster.close, if_neg (by simp [hOpen]), hLog,
    Catalog.soundPart_eq_self (Catalog.firstDefect?_eq_none_iff.1 hCatalog)]
  simp [Log.ofParts]

theorem size_roster :
    (roster catalog names).entries.size =
      (names ++ catalog.map Catalog.Entry.name).toFinset.card := by
  have hSize := (lastWins_roster hCatalog names).size_eq_card
  simpa [Function.comp_def] using hSize

theorem accounts_make :
    Log.Accounts (Roster.replacing .empty
        ((names.map fun name => ⟨name, []⟩) ++ catalog.map Catalog.Entry.record))
      ((names.map fun name => ⟨name, []⟩) ++ catalog.map Catalog.Entry.record)
      (names ++ catalog.map Catalog.Entry.name).toFinset.card := by
  have hAccounts := Roster.accounts_replacing
    ((names.map fun name => SafeType.mk name []) ++ catalog.map Catalog.Entry.record)
  rw [List.map_append, List.map_map, List.map_map] at hAccounts
  rw [← size_roster hCatalog, (lastWins_roster hCatalog names).eq_ofList]
  exact hAccounts

omit hCatalog in
/-- A name that is immutable and listed is counted once. -/
theorem size_ofList_writes :
    (Table.ofList (writes catalog names immutable)).size +
        (immutable.names.toFinset ∩ (names ++ catalog.map Catalog.Entry.name).toFinset).card =
      immutable.size + (names ++ catalog.map Catalog.Entry.name).toFinset.card := by
  have hSize := (Table.lastWins_ofList (writes catalog names immutable)).size_eq_card
  rw [map_fst_writes, List.append_assoc, List.toFinset_append] at hSize
  rw [hSize, immutable.size_eq_card, Finset.card_union_add_card_inter]

end Assembly

/-- The log balances. In every run the log holds replacements and then at most one closing, with
the size of the finished table, however often the roster is closed. The replacements account for
the accepted entries, also where a record takes the place of an equal one. The log of an assembly
with a sound catalog accounts for one record of each listed name and of each entry. It has one
closing, with the number of different names among these, and ends with the size of the registry
and of the table of immutable types, where a name that is immutable and listed counts once. -/
theorem Roster.log_balances (calls : List Call) {catalog : Catalog}
    (hCatalog : ∀ entry ∈ catalog, ¬ entry.IsDefective) (names : List String)
    (immutable : Table SafeType) :
    let roster := ({} : Roster).run calls
    let accepted := (({} : Roster).accepted calls).map Catalog.Entry.record
    let listed := names ++ catalog.map Catalog.Entry.name
    let records := (names.map fun name => ⟨name, []⟩) ++ catalog.map Catalog.Entry.record
    let assembly := Assembly.make catalog names immutable
    (roster.log = Log.ofParts roster.log.replacements roster.log.closings ∧
      roster.log.closings = (roster.table?.map Table.size).toList ∧
      Log.Accounts roster.log.replacements accepted roster.entries.size) ∧
    ∃ safe replaced, assembly.outcome = .ok safe ∧
      assembly.log = Log.ofParts replaced [listed.toFinset.card] ++
        [.assembled safe.size immutable.size] ∧
      Log.Accounts replaced records listed.toFinset.card ∧
      safe.size + (immutable.names.toFinset ∩ listed.toFinset).card =
        immutable.size + listed.toFinset.card := by
  intro roster accepted listed records assembly
  have hDefect := Catalog.firstDefect?_eq_none_iff.2 hCatalog
  have hRun : roster.log = _ := log_run calls
  have hOutcome : assembly.outcome = _ := Assembly.outcome_make catalog names immutable
  have hLog : assembly.log = _ := Assembly.log_make hDefect names immutable
  rw [hDefect] at hOutcome
  rw [Assembly.size_roster hDefect] at hLog
  refine ⟨⟨?_, ?_, accounts_run calls⟩, _, replacing .empty records, hOutcome, hLog,
    Assembly.accounts_make hDefect names, Assembly.size_ofList_writes names immutable⟩
  · rw [hRun, Log.replacements_ofParts, Log.closings_ofParts]
  · rw [hRun, Log.closings_ofParts]

/-- A record that replaces an equal one, two closings and a refused call between them, and an
assembly from sources that share names. -/
theorem Roster.log_balances_overlapping :
    let roster := ({} : Roster).run [.enterName "a" ["T"], .enterNames ["b", "b"],
      .enterName "a" [], .close, .enterName "c" [], .close]
    let assembly := Assembly.make [⟨.named "a", ["P"], none⟩, ⟨.named "d", [], none⟩]
      ["a", "b", "a"] (.ofList [("b", ⟨"b", []⟩), ("c", ⟨"x", []⟩)])
    (roster.log.replacements.length = 2 ∧ roster.log.closings = [2]) ∧
      ∃ replaced, replaced.length = 2 ∧
        assembly.log = Log.ofParts replaced [3] ++ [.assembled 4 2] := by
  intro roster assembly
  have hSound : ∀ entry ∈ ([⟨.named "a", ["P"], none⟩, ⟨.named "d", [], none⟩] : Catalog),
      ¬ entry.IsDefective := by decide
  obtain ⟨⟨_, hClosings, hRun⟩, safe, replaced, _, hLog, hAccounts, hSize⟩ :=
    log_balances [.enterName "a" ["T"], .enterNames ["b", "b"], .enterName "a" [], .close,
      .enterName "c" [], .close] hSound ["a", "b", "a"]
      (.ofList [("b", ⟨"b", []⟩), ("c", ⟨"x", []⟩)])
  have hAccepted : roster.entries.size = 2 ∧ roster.table?.map Table.size = some 2 := by decide
  have hListed : (["a", "b", "a"] ++ ([⟨.named "a", ["P"], none⟩, ⟨.named "d", [], none⟩] :
      Catalog).map Catalog.Entry.name).toFinset.card = 3 := by decide
  have hShared : ((Table.ofList [("b", SafeType.mk "b" []), ("c", ⟨"x", []⟩)]).names.toFinset ∩
      (["a", "b", "a"] ++ ([⟨.named "a", ["P"], none⟩, ⟨.named "d", [], none⟩] :
        Catalog).map Catalog.Entry.name).toFinset).card = 1 := by decide
  have hImmutable : (Table.ofList [("b", SafeType.mk "b" []), ("c", ⟨"x", []⟩)]).size = 2 := rfl
  have hRunBalance : roster.log.replacements.length + roster.entries.size = 4 := hRun.balance
  have hBalance := hAccounts.balance
  rw [hListed] at hLog hBalance
  rw [hListed, hShared, hImmutable] at hSize
  have hSafe : safe.size = 4 := by omega
  refine ⟨⟨by omega, ?_⟩, replaced, Nat.add_right_cancel hBalance, ?_⟩
  · rw [hClosings, hAccepted.2]
    rfl
  · rw [hSafe, hImmutable] at hLog
    exact hLog

end SafeTypes
