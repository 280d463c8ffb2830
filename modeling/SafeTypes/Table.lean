/-! Tables from names to values in the order in which the names first came. Writing a
name again replaces its value and leaves its place in the order. -/
namespace SafeTypes

/-- Writes one entry into a list of entries. -/
def Table.put {Value : Type} (name : String) (value : Value) :
    List (String × Value) → List (String × Value)
  | [] => [(name, value)]
  | entry :: rest =>
      if entry.1 = name then (name, value) :: rest
      else entry :: Table.put name value rest

/-- The value that stands beside a name in a list of entries. -/
def Table.find {Value : Type} (name : String) : List (String × Value) → Option Value
  | [] => none
  | entry :: rest => if entry.1 = name then some entry.2 else Table.find name rest

/-- The names after a write are the old ones, with a new name behind them. -/
theorem Table.map_fst_put {Value : Type} (name : String) (value : Value)
    (entries : List (String × Value)) :
    (Table.put name value entries).map Prod.fst =
      if name ∈ entries.map Prod.fst then entries.map Prod.fst
      else entries.map Prod.fst ++ [name] := by
  induction entries with
  | nil => rfl
  | cons entry rest ih =>
      by_cases h : entry.1 = name
      · simp [Table.put, h]
      · have hNe : ¬ name = entry.1 := fun hEq => h hEq.symm
        by_cases hRest : name ∈ rest.map Prod.fst
        · rw [if_pos hRest] at ih
          rw [if_pos (by simp [hRest]), Table.put, if_neg h, List.map_cons, ih, List.map_cons]
        · rw [if_neg hRest] at ih
          rw [if_neg (by simpa [hNe] using hRest), Table.put, if_neg h, List.map_cons, ih,
            List.map_cons, List.cons_append]

theorem Table.nodup_map_fst_put {Value : Type} (name : String) (value : Value)
    {entries : List (String × Value)} (h : (entries.map Prod.fst).Nodup) :
    ((Table.put name value entries).map Prod.fst).Nodup := by
  rw [Table.map_fst_put]
  split
  · exact h
  · next hNew =>
      rw [List.nodup_append]
      refine ⟨h, by simp, ?_⟩
      intro a ha b hb hEq
      rw [List.mem_singleton] at hb
      exact hNew (hb ▸ hEq ▸ ha)

/-- A table lists every name once. -/
structure Table (Value : Type) where
  entries : List (String × Value)
  nodup_names : (entries.map Prod.fst).Nodup
  deriving DecidableEq

namespace Table

variable {Value : Type}

def empty : Table Value := ⟨[], List.nodup_nil⟩

instance : Inhabited (Table Value) := ⟨empty⟩

/-- The last value written for a name stays, at the place of the first. -/
def insert (table : Table Value) (name : String) (value : Value) : Table Value :=
  ⟨put name value table.entries, nodup_map_fst_put name value table.nodup_names⟩

/-- Writes the entries one after another. -/
def insertAll (table : Table Value) (entries : List (String × Value)) : Table Value :=
  entries.foldl (fun built entry => built.insert entry.1 entry.2) table

def ofList (entries : List (String × Value)) : Table Value :=
  empty.insertAll entries

/-- Writes the second table over the first. -/
def overlay (table other : Table Value) : Table Value :=
  table.insertAll other.entries

def get? (table : Table Value) (name : String) : Option Value :=
  find name table.entries

def names (table : Table Value) : List String :=
  table.entries.map Prod.fst

def size (table : Table Value) : Nat :=
  table.entries.length

/-- The entries by increasing name. -/
def sorted (table : Table Value) : List (String × Value) :=
  table.entries.mergeSort fun a b => decide (a.1 ≤ b.1)

@[ext] theorem ext {first second : Table Value} (h : first.entries = second.entries) :
    first = second := by
  cases first
  cases second
  cases h
  rfl

@[simp] theorem get?_empty (name : String) : (empty : Table Value).get? name = none :=
  rfl

theorem find_put (name other : String) (value : Value) (entries : List (String × Value)) :
    find other (put name value entries) =
      if other = name then some value else find other entries := by
  induction entries with
  | nil => simp [put, find, eq_comm]
  | cons entry rest ih =>
      by_cases hEntry : entry.1 = name
      · by_cases h : other = name
        · simp [put, find, hEntry, h]
        · simp [put, find, hEntry, h, Ne.symm h]
      · by_cases hOther : entry.1 = other
        · have h : ¬ other = name := hOther ▸ hEntry
          simp [put, find, hOther, h]
        · simp [put, find, hEntry, hOther, ih]

/-- A write changes the value of its own name only. -/
theorem get?_insert (table : Table Value) (name other : String) (value : Value) :
    (table.insert name value).get? other =
      if other = name then some value else table.get? other :=
  find_put name other value table.entries

/-- A write keeps the order of the names and adds a new one at the end. -/
theorem names_insert (table : Table Value) (name : String) (value : Value) :
    (table.insert name value).names =
      if name ∈ table.names then table.names else table.names ++ [name] :=
  map_fst_put name value table.entries

end Table

end SafeTypes
