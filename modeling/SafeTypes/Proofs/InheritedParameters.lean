import SafeTypes.Proofs.Acceptance

/-! Classes that declare no parameters of their own. Such a class should have none, and below a
generic class it has none. A list of parameters that a class above is given outright is passed
down all the same, and is then taken for a declaration of the class. -/
namespace SafeTypes

namespace Class

/-- A class with no list of parameters of its own, not generic itself, and with no variable among
the arguments to the class above. -/
structure Body.DeclaresNothing (body : Body) : Prop where
  genericOver : body.genericOver = none
  typeParameters : body.typeParameters = none
  parameters : body.parameters = none
  arguments : ∀ argument ∈ body.arguments, argument = none

instance (body : Body) : Decidable body.DeclaresNothing :=
  decidable_of_iff (body.genericOver = none ∧ body.typeParameters = none ∧
      body.parameters = none ∧ ∀ argument ∈ body.arguments, argument = none)
    ⟨fun h => ⟨h.1, h.2.1, h.2.2.1, h.2.2.2⟩,
      fun h => ⟨h.genericOver, h.typeParameters, h.parameters, h.arguments⟩⟩

/-- The parameters that are passed down from a chain of classes. The nearest list of type
parameters counts, unless it is empty. Otherwise nothing is passed down from a chain with a
generic class, and from any other one the nearest list of the other kind. -/
def inherited (above : List Body) : List String :=
  match (above.findSome? Body.typeParameters).filter (!·.isEmpty) with
  | some declaration => declaration.names
  | none =>
      if above.any Body.isGeneric then []
      else ((above.findSome? Body.parameters).map Declaration.names).getD []

theorem Body.argumentVariables_eq_nil {body : Body} (h : body.DeclaresNothing) :
    body.argumentVariables = [] := by
  have hNone : body.arguments.filterMap id = [] := List.filterMap_eq_nil_iff.2 h.arguments
  rw [argumentVariables, hNone]
  rfl

/-- Without a generic class the nearest list counts. -/
theorem Body.parametersOf_of_not_generic {chain : List Body}
    (h : chain.any isGeneric = false) : parametersOf chain = chain.findSome? Body.parameters := by
  induction chain with
  | nil => rfl
  | cons body above ih =>
      rw [List.any_cons, Bool.or_eq_false_iff] at h
      have hGeneric : body.genericOver = none := by simpa [isGeneric] using h.1
      cases hParameters : body.parameters with
      | some declaration => simp [parametersOf, hParameters]
      | none => simp [parametersOf, hParameters, hGeneric, h.2, ih h.2]

theorem Body.parametersOf_cons {body : Body} (h : body.DeclaresNothing) (above : List Body) :
    parametersOf (body :: above) =
      if above.any isGeneric then some (.tuple []) else above.findSome? Body.parameters := by
  simp only [parametersOf, h.parameters, h.genericOver, argumentVariables_eq_nil h]
  split
  · rfl
  · next hGeneric => exact parametersOf_of_not_generic (by simpa using hGeneric)

/-- What a class without parameters of its own is taken to declare is what is passed down. -/
theorem declared_eq_inherited {c : Class} (h : c.body.DeclaresNothing) :
    c.declared = inherited c.ancestors := by
  have hParameters := Body.parametersOf_cons h c.ancestors
  have hTypes : Body.typeParametersOf c.chain = c.ancestors.findSome? Body.typeParameters := by
    rw [chain, Body.typeParametersOf, List.findSome?_cons, h.typeParameters]
  have hOther : ((Body.parametersOf c.chain).getD (.tuple [])).names =
      if c.ancestors.any Body.isGeneric then []
      else ((c.ancestors.findSome? Body.parameters).map Declaration.names).getD [] := by
    rw [chain, hParameters]
    split
    · rfl
    · cases c.ancestors.findSome? Body.parameters <;> rfl
  rw [declared, declaration, hTypes, inherited, ← hOther]
  cases c.ancestors.findSome? Body.typeParameters with
  | none => rfl
  | some declaration =>
      cases hEmpty : declaration.isEmpty <;> simp [hEmpty, Option.filter]

/-- Nothing is passed down if no class above is given type parameters, and if one of them is generic
or none is given parameters of the other kind. -/
theorem inherited_eq_nil {above : List Body} (hTypes : ∀ body ∈ above, body.typeParameters = none)
    (hOther : (∃ body ∈ above, body.isGeneric = true) ∨ ∀ body ∈ above, body.parameters = none) :
    inherited above = [] := by
  rw [inherited, List.findSome?_eq_none_iff.2 hTypes]
  rcases hOther with hGeneric | hNone
  · have hAny : above.any Body.isGeneric = true := List.any_eq_true.2 hGeneric
    simp [hAny]
  · simp [List.findSome?_eq_none_iff.2 hNone]

theorem undeclared_of_declared_nil {c : Class} (h : c.declared = []) (requested : List String) :
    c.undeclared requested = requested.eraseDups := by
  simp [undeclared, h]

end Class

/-- A class that declares no parameters is taken to declare what is passed down from the classes
above. That is nothing as long as these declare their parameters by being generic, however they are
subscripted, and the class is then refused with every parameter that is asked for, and reported to
declare none. -/
theorem Roster.enterClass_inherited {c : Class} (h : c.body.DeclaresNothing) :
    c.declared = Class.inherited c.ancestors ∧
    ((∀ body ∈ c.ancestors, body.typeParameters = none) →
      ((∃ body ∈ c.ancestors, body.isGeneric = true) ∨
        ∀ body ∈ c.ancestors, body.parameters = none) → c.declared = []) ∧
    ∀ (roster : Roster) (requested : List String), roster.isClosed = false →
      c.declared = [] → requested ≠ [] →
      roster.answer (.enterClass c requested) =
        (roster, some (.defective ⟨c.qualifiedName, requested.eraseDups, []⟩)) := by
  refine ⟨Class.declared_eq_inherited h, ?_, ?_⟩
  · intro hTypes hOther
    rw [Class.declared_eq_inherited h, Class.inherited_eq_nil hTypes hOther]
  · intro roster requested hOpen hNone hRequested
    have hNe : c.undeclared requested ≠ [] := by
      rw [Ne, c.undeclared_eq_nil_iff, hNone]
      intro hAll
      obtain ⟨name, hName⟩ := List.exists_mem_of_ne_nil _ hRequested
      exact List.not_mem_nil (hAll name hName)
    rw [answer_enterClass_of_open hOpen, if_neg hNe, hNone,
      Class.undeclared_of_declared_nil hNone]

/-- A class below a generic one that is subscripted with a type, two classes up. -/
theorem Roster.enterClass_inherited_concrete :
    let concrete : Class := ⟨"m.IntBox", { arguments := [none] },
      [{ arguments := [some "T"] }, { genericOver := some ["T"] }]⟩
    concrete.declared = [] ∧ ({} : Roster).answer (.enterClass concrete ["T", "U", "T"]) =
      ({}, some (.defective ⟨"m.IntBox", ["T", "U"], []⟩)) := by
  intro concrete
  have hNothing : concrete.body.DeclaresNothing := by decide
  obtain ⟨_, hGeneric, hRefused⟩ := enterClass_inherited hNothing
  have hNone : concrete.declared = [] := hGeneric (by decide) (.inl (by decide))
  refine ⟨hNone, ?_⟩
  rw [hRefused {} ["T", "U", "T"] rfl hNone (by simp)]
  rfl

/-- A class that declares nothing can still be taken to declare a parameter. It is the one of a
class above that is given a list of either kind. -/
theorem Roster.enterClass_passedDown :
    let typed : Class := ⟨"m.Child", {}, [{ typeParameters := some (.tuple [.typeVariable "T"]) }]⟩
    let other : Class := ⟨"m.Child", {}, [{ parameters := some (.tuple [.typeVariable "T"]) }]⟩
    typed.body.DeclaresNothing ∧ other.body.DeclaresNothing ∧
      typed.declared = ["T"] ∧ other.declared = ["T"] ∧
      (({} : Roster).answer (.enterClass typed ["T"])).2 = none ∧
      (({} : Roster).answer (.enterClass other ["T"])).2 = none := by
  decide

end SafeTypes
