import Mathlib.Data.List.Basic
import Mathlib.Data.List.Induction
import SafeTypes.Table

/-! Tables as logs of writes. A table gives each name the last value that was written to
it, at the place of the first write, and these two facts determine the table. -/
namespace SafeTypes

section FirstPlaces

variable {α : Type} [BEq α] [LawfulBEq α]

/-- An element behind a list is kept only if it is new. -/
theorem eraseDups_concat (xs : List α) (x : α) :
    (xs ++ [x]).eraseDups = if x ∈ xs then xs.eraseDups else xs.eraseDups ++ [x] := by
  rw [List.eraseDups_append]
  by_cases h : x ∈ xs
  · rw [if_pos h]
    simp [List.removeAll, h]
  · rw [if_neg h]
    simp [List.removeAll, h, List.eraseDups_cons]

/-- Repetitions inside the second list do not move any first place. -/
theorem eraseDups_append_eraseDups (xs ys : List α) :
    (xs ++ ys.eraseDups).eraseDups = (xs ++ ys).eraseDups := by
  induction ys using List.reverseRecOn with
  | nil => rfl
  | append_singleton ys y ih =>
      rw [eraseDups_concat, ← List.append_assoc, eraseDups_concat]
      by_cases h : y ∈ ys
      · rw [if_pos h, if_pos (List.mem_append_right xs h), ih]
      · rw [if_neg h, ← List.append_assoc, eraseDups_concat, ih]
        simp only [List.mem_append, List.mem_eraseDups]

/-- First places are in increasing order. -/
theorem pairwise_idxOf_eraseDups (xs : List α) :
    xs.eraseDups.Pairwise fun a b => xs.idxOf a < xs.idxOf b := by
  induction xs using List.reverseRecOn with
  | nil => exact List.Pairwise.nil
  | append_singleton xs x ih =>
      have hOld : ∀ a ∈ xs.eraseDups, (xs ++ [x]).idxOf a = xs.idxOf a := by
        intro a ha
        rw [List.idxOf_append, if_pos (List.mem_eraseDups.1 ha)]
      have hKept : xs.eraseDups.Pairwise fun a b =>
          (xs ++ [x]).idxOf a < (xs ++ [x]).idxOf b := by
        refine ih.imp_of_mem ?_
        intro a b ha hb hLt
        rw [hOld a ha, hOld b hb]
        exact hLt
      rw [eraseDups_concat]
      split
      · exact hKept
      · next hNew =>
          rw [List.pairwise_append]
          refine ⟨hKept, List.pairwise_singleton _ _, ?_⟩
          intro a ha b hb
          -- What is new stands behind all of the list.
          rw [List.mem_singleton.1 hb, hOld a ha, List.idxOf_append, if_neg hNew]
          have hLt := List.idxOf_lt_length_of_mem (List.mem_eraseDups.1 ha)
          omega

theorem eraseDups_eq_self {xs : List α} (h : xs.Nodup) : xs.eraseDups = xs := by
  induction xs using List.reverseRecOn with
  | nil => rfl
  | append_singleton xs x ih =>
      have hParts := List.nodup_append.1 h
      have hNew : x ∉ xs := fun hx => hParts.2.2 x hx x (by simp) rfl
      rw [eraseDups_concat, if_neg hNew, ih hParts.1]

end FirstPlaces

theorem mem_of_findRev? {α : Type} {p : α → Bool} {xs : List α} {x : α}
    (h : xs.findRev? p = some x) : x ∈ xs ∧ p x = true := by
  rw [List.findRev?_eq_find?_reverse] at h
  exact ⟨List.mem_reverse.1 (List.mem_of_find?_eq_some h), List.find?_some h⟩

namespace Table

variable {Value : Type}

/-- The last value that a log of writes gives a name. -/
def lastWrite (writes : List (String × Value)) (name : String) : Option Value :=
  (writes.findRev? fun write => write.1 = name).map Prod.snd

theorem lastWrite_append (first second : List (String × Value)) (name : String) :
    lastWrite (first ++ second) name =
      (lastWrite second name).or (lastWrite first name) := by
  simp [lastWrite, List.find?_append, Option.map_or]

theorem lastWrite_map {Item : Type} (write : Item → String × Value) (items : List Item)
    (name : String) :
    lastWrite (items.map write) name =
      (items.findRev? fun item => (write item).1 = name).map fun item => (write item).2 := by
  rw [lastWrite, List.findRev?_eq_find?_reverse, ← List.map_reverse, List.find?_map,
    Option.map_map, List.findRev?_eq_find?_reverse]
  rfl

theorem lastWrite_map_names (make : String → Value) (names : List String) (key : String) :
    lastWrite (names.map fun name => (name, make name)) key =
      if key ∈ names then some (make key) else none := by
  rw [lastWrite_map]
  cases hFound : names.findRev? fun name => name = key with
  | none =>
      have hNew : key ∉ names := by
        intro hMem
        rw [List.findRev?_eq_find?_reverse] at hFound
        simpa using List.find?_eq_none.1 hFound key (List.mem_reverse.2 hMem)
      rw [if_neg hNew]
      rfl
  | some found =>
      obtain ⟨hMem, hName⟩ := mem_of_findRev? hFound
      have hEq : found = key := of_decide_eq_true hName
      rw [if_pos (hEq ▸ hMem), ← hEq]
      rfl

theorem lastWrite_singleton (written name : String) (value : Value) :
    lastWrite [(written, value)] name = if name = written then some value else none := by
  by_cases h : name = written
  · simp [lastWrite, h]
  · simp [lastWrite, h, Ne.symm h]

theorem mem_of_lastWrite {writes : List (String × Value)} {name : String} {value : Value}
    (h : lastWrite writes name = some value) : (name, value) ∈ writes := by
  rw [lastWrite, Option.map_eq_some_iff] at h
  obtain ⟨write, hFound, rfl⟩ := h
  obtain ⟨hMem, hWrite⟩ := mem_of_findRev? hFound
  have hName : write.1 = name := of_decide_eq_true hWrite
  rw [← hName]
  exact hMem

theorem lastWrite_eq_none {writes : List (String × Value)} {name : String}
    (h : name ∉ writes.map Prod.fst) : lastWrite writes name = none := by
  cases hLast : lastWrite writes name with
  | none => rfl
  | some value => exact (h (List.mem_map_of_mem (mem_of_lastWrite hLast))).elim

/-- Among entries that repeat no name the first one of a name is also its last. -/
theorem lastWrite_eq_find {entries : List (String × Value)}
    (h : (entries.map Prod.fst).Nodup) (name : String) :
    lastWrite entries name = find name entries := by
  induction entries with
  | nil => rfl
  | cons entry rest ih =>
      rw [List.map_cons, List.nodup_cons] at h
      have hSplit := lastWrite_append [entry] rest name
      rw [List.singleton_append, ih h.2, lastWrite_singleton] at hSplit
      rw [hSplit, find]
      by_cases hName : entry.1 = name
      · have hRest : find name rest = none := by
          rw [← ih h.2, lastWrite_eq_none (hName ▸ h.1)]
        rw [if_pos hName, hRest, Option.none_or, if_pos hName.symm]
      · rw [if_neg hName, if_neg (Ne.symm hName), Option.or_none]

theorem mem_entries_iff {table : Table Value} {entry : String × Value} :
    entry ∈ table.entries ↔ table.get? entry.1 = some entry.2 := by
  obtain ⟨entries, hNodup⟩ := table
  simp only [get?]
  induction entries with
  | nil => simp [find]
  | cons first rest ih =>
      rw [List.map_cons, List.nodup_cons] at hNodup
      rw [List.mem_cons, ih hNodup.2, find]
      by_cases hName : first.1 = entry.1
      · -- The name of the first entry does not come again, so no later value counts.
        have hNew : find entry.1 rest ≠ some entry.2 := by
          intro hFound
          have hMem : entry ∈ rest := (ih hNodup.2).2 hFound
          exact hNodup.1 (hName ▸ List.mem_map_of_mem hMem)
        rw [if_pos hName, Option.some.injEq, or_iff_left hNew, Prod.ext_iff]
        exact ⟨fun hEq => hEq.2.symm, fun hEq => ⟨hName.symm, hEq.symm⟩⟩
      · have hNe : entry ≠ first := fun hEq => hName (hEq ▸ rfl)
        rw [if_neg hName, or_iff_right hNe]

theorem mem_names_iff {table : Table Value} {name : String} :
    name ∈ table.names ↔ ∃ value, table.get? name = some value := by
  constructor
  · intro h
    obtain ⟨entry, hEntry, rfl⟩ := List.mem_map.1 h
    exact ⟨entry.2, mem_entries_iff.1 hEntry⟩
  · rintro ⟨value, hValue⟩
    have hEntry : (name, value) ∈ table.entries := mem_entries_iff.2 hValue
    exact List.mem_map_of_mem hEntry

theorem length_names (table : Table Value) : table.names.length = table.size :=
  List.length_map Prod.fst

/-- A write makes the table larger unless its name has a value. -/
theorem size_insert (table : Table Value) (name : String) (value : Value) :
    (table.insert name value).size + (table.get? name).toList.length = table.size + 1 := by
  rw [← length_names, ← length_names, names_insert]
  cases hGet : table.get? name with
  | some previous => simp [mem_names_iff, hGet]
  | none => simp [mem_names_iff, hGet]

/-- A table reads a log with the last write winning if it lists each written name at the
place of its first write and gives it the value of its last. -/
structure LastWins (table : Table Value) (writes : List (String × Value)) : Prop where
  order : table.names = (writes.map Prod.fst).eraseDups
  value : ∀ name, table.get? name = lastWrite writes name

theorem lastWins_empty : LastWins (empty : Table Value) [] :=
  ⟨rfl, fun _ => rfl⟩

theorem LastWins.insert {table : Table Value} {writes : List (String × Value)}
    (h : LastWins table writes) (name : String) (value : Value) :
    LastWins (table.insert name value) (writes ++ [(name, value)]) := by
  constructor
  · rw [names_insert, List.map_append, List.map_cons, List.map_nil, eraseDups_concat, h.order]
    simp only [List.mem_eraseDups]
  · intro other
    rw [get?_insert, lastWrite_append, lastWrite_singleton, h.value]
    split <;> rfl

theorem LastWins.insertAll {table : Table Value} {writes : List (String × Value)}
    (h : LastWins table writes) (more : List (String × Value)) :
    LastWins (table.insertAll more) (writes ++ more) := by
  induction more generalizing table writes with
  | nil => simpa [Table.insertAll] using h
  | cons write rest ih =>
      have hRest := ih (h.insert write.1 write.2)
      rw [List.append_assoc, List.singleton_append] at hRest
      exact hRest

theorem lastWins_ofList (writes : List (String × Value)) : LastWins (ofList writes) writes :=
  lastWins_empty.insertAll writes

theorem lastWins_entries (table : Table Value) : LastWins table table.entries :=
  ⟨(eraseDups_eq_self table.nodup_names).symm,
    fun name => (lastWrite_eq_find table.nodup_names name).symm⟩

/-- Names keep their places whatever is written later. -/
theorem isPrefix_names_insertAll (table : Table Value) (writes : List (String × Value)) :
    table.names <+: (table.insertAll writes).names := by
  have hNames : (table.entries.map Prod.fst).eraseDups = table.names :=
    eraseDups_eq_self table.nodup_names
  rw [((lastWins_entries table).insertAll writes).order, List.map_append, List.eraseDups_append,
    hNames]
  exact List.prefix_append _ _

/-- What is written counts before what is there. -/
theorem get?_insertAll (table : Table Value) (writes : List (String × Value)) (name : String) :
    (table.insertAll writes).get? name = (lastWrite writes name).or (table.get? name) := by
  rw [((lastWins_entries table).insertAll writes).value, lastWrite_append,
    ← (lastWins_entries table).value]

theorem get?_insertAll_of_not_mem {table : Table Value} {writes : List (String × Value)}
    {name : String} (h : name ∉ writes.map Prod.fst) :
    (table.insertAll writes).get? name = table.get? name := by
  rw [get?_insertAll, lastWrite_eq_none h, Option.none_or]

/-- Nothing is in the table that was not written. -/
theorem LastWins.subset {table : Table Value} {writes : List (String × Value)}
    (h : LastWins table writes) : table.entries ⊆ writes := by
  intro entry hEntry
  apply mem_of_lastWrite
  rw [← h.value]
  exact mem_entries_iff.1 hEntry

/-- Filling a table on its own and writing it over another one afterwards is the same as
writing both logs in one pass. The merge drops the repetitions of the second log, which
move no first place and are not the last write to any name. -/
theorem LastWins.overlay {table other : Table Value} {writes more : List (String × Value)}
    (h : LastWins table writes) (hOther : LastWins other more) :
    LastWins (table.overlay other) (writes ++ more) := by
  have hMerged : LastWins (table.overlay other) (writes ++ other.entries) :=
    h.insertAll other.entries
  constructor
  · have hNames : other.entries.map Prod.fst = (more.map Prod.fst).eraseDups := hOther.order
    rw [hMerged.order, List.map_append, hNames, eraseDups_append_eraseDups, List.map_append]
  · intro name
    have hLast : lastWrite other.entries name = lastWrite more name := by
      rw [← (lastWins_entries other).value, hOther.value]
    rw [hMerged.value, lastWrite_append, hLast, lastWrite_append]

theorem entries_eq_filterMap_names (table : Table Value) :
    table.entries = table.names.filterMap fun name =>
      (table.get? name).map fun value => (name, value) := by
  obtain ⟨entries, hNodup⟩ := table
  simp only [names, get?]
  induction entries with
  | nil => rfl
  | cons entry rest ih =>
      rw [List.map_cons, List.nodup_cons] at hNodup
      have hRest : ∀ name ∈ rest.map Prod.fst, find name (entry :: rest) = find name rest := by
        intro name hName
        have hNe : ¬ entry.1 = name := fun hEq => hNodup.1 (hEq.symm ▸ hName)
        rw [find, if_neg hNe]
      rw [List.map_cons, List.filterMap_cons, find, if_pos rfl]
      simp only [Option.map_some, List.cons.injEq, true_and]
      refine (ih hNodup.2).trans (List.filterMap_congr ?_)
      intro name hName
      rw [hRest name hName]

/-- A log determines the table that reads it. -/
theorem LastWins.unique {first second : Table Value} {writes : List (String × Value)}
    (h : LastWins first writes) (hSecond : LastWins second writes) : first = second := by
  have hValues : first.get? = second.get? := by
    funext name
    rw [h.value, hSecond.value]
  apply Table.ext
  rw [entries_eq_filterMap_names first, entries_eq_filterMap_names second, h.order,
    hSecond.order, hValues]

theorem LastWins.eq_ofList {table : Table Value} {writes : List (String × Value)}
    (h : LastWins table writes) : table = ofList writes :=
  h.unique (lastWins_ofList writes)

theorem overlay_ofList (writes more : List (String × Value)) :
    (ofList writes).overlay (ofList more) = ofList (writes ++ more) :=
  ((lastWins_ofList writes).overlay (lastWins_ofList more)).eq_ofList

end Table

end SafeTypes
