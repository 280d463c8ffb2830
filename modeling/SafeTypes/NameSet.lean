/-! Sets of names, kept as their increasing lists. Equal sets have equal lists. -/
namespace SafeTypes

/-- Puts one name into its place in an increasing list. -/
def NameSet.place (name : String) : List String → List String
  | [] => [name]
  | other :: rest =>
      if name < other then name :: other :: rest
      else if name = other then other :: rest
      else other :: NameSet.place name rest

theorem NameSet.mem_place {name other : String} {names : List String} :
    other ∈ NameSet.place name names ↔ other = name ∨ other ∈ names := by
  induction names with
  | nil => simp [NameSet.place]
  | cons first rest ih =>
      simp only [NameSet.place]
      split
      · simp
      · split
        · next hEq => simp [hEq]
        · simp only [List.mem_cons, ih]
          exact or_left_comm

theorem NameSet.pairwise_place {name : String} {names : List String}
    (h : names.Pairwise (· < ·)) : (NameSet.place name names).Pairwise (· < ·) := by
  induction names with
  | nil => simp [NameSet.place]
  | cons first rest ih =>
      rw [List.pairwise_cons] at h
      simp only [NameSet.place]
      split
      · next hLt =>
          refine List.pairwise_cons.2 ⟨?_, List.pairwise_cons.2 h⟩
          intro other hOther
          cases List.mem_cons.1 hOther with
          | inl hFirst => exact hFirst ▸ hLt
          | inr hRest => exact String.lt_trans hLt (h.1 other hRest)
      · next hNotLt =>
          split
          · exact List.pairwise_cons.2 h
          · next hNe =>
              refine List.pairwise_cons.2 ⟨?_, ih h.2⟩
              intro other hOther
              cases NameSet.mem_place.1 hOther with
              | inl hName =>
                  rw [hName]
                  refine Decidable.byContradiction fun hNot => hNe ?_
                  exact String.le_antisymm (String.not_lt.1 hNot) (String.not_lt.1 hNotLt)
              | inr hRest => exact h.1 other hRest

/-- A set of names. -/
structure NameSet where
  names : List String
  increasing : names.Pairwise (· < ·)
  deriving DecidableEq

namespace NameSet

def empty : NameSet := ⟨[], List.Pairwise.nil⟩

instance : Inhabited NameSet := ⟨empty⟩

def insert (set : NameSet) (name : String) : NameSet :=
  ⟨place name set.names, pairwise_place set.increasing⟩

def ofList (names : List String) : NameSet :=
  names.foldl insert empty

instance : Membership String NameSet := ⟨fun set name => name ∈ set.names⟩

instance (name : String) (set : NameSet) : Decidable (name ∈ set) :=
  inferInstanceAs (Decidable (name ∈ set.names))

theorem mem_insert {name other : String} {set : NameSet} :
    other ∈ set.insert name ↔ other = name ∨ other ∈ set :=
  mem_place

theorem mem_foldl_insert {names : List String} {set : NameSet} {name : String} :
    name ∈ names.foldl insert set ↔ name ∈ names ∨ name ∈ set := by
  induction names generalizing set with
  | nil => simp
  | cons first rest ih =>
      rw [List.foldl_cons, ih, mem_insert, List.mem_cons]
      exact or_left_comm.trans or_assoc.symm

/-- The set of a list has the names of the list. -/
theorem mem_ofList {names : List String} {name : String} :
    name ∈ ofList names ↔ name ∈ names := by
  rw [ofList, mem_foldl_insert]
  exact or_iff_left List.not_mem_nil

end NameSet

end SafeTypes
