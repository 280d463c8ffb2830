import SafeTypes.Roster
import SafeTypes.MutationFacts

/-! The registry of types known to be safe or unsafe to share between threads. Of the
sources of safe types a later one wins: first the immutable types, then the names that
the flags list, and last the catalog. -/
namespace SafeTypes

/-- The table of safe types with the events of its making, or the refusal that stopped
it. -/
structure Assembly where
  outcome : Except Roster.Refusal (Table SafeType)
  log : Log

/-- Closes a roster and writes its table over the immutable types. -/
def Assembly.finish (immutable : Table SafeType) (roster : Roster) : Assembly :=
  let closed := roster.close
  let safe := immutable.overlay closed.entries
  ⟨.ok safe, closed.log ++ [.assembled safe.size immutable.size]⟩

/-- Makes the table of safe types out of its three sources. -/
def Assembly.make (catalog : Catalog) (names : List String) (immutable : Table SafeType) :
    Assembly :=
  match ({} : Roster).enterNames names with
  | (roster, some refusal) => ⟨.error refusal, roster.log⟩
  | (roster, none) =>
      match roster.enterCatalog catalog with
      | (roster, some refusal) => ⟨.error refusal, roster.log⟩
      | (roster, none) => .finish immutable roster

/-- A type may be in both, and is then safe. A type in neither has no judgement. -/
structure Registry where
  safe : Table SafeType
  unsafeNames : NameSet
  deriving DecidableEq

/-- What the registry says of a type. -/
inductive Registry.Verdict where
  | safe
  /-- Safe if the types put in for these parameters are. -/
  | safeIf (parameters : List String)
  | notSafe
  | unknown
  deriving DecidableEq

namespace Registry

/-- The making of a registry, together with its events. -/
def assemble (catalog : Catalog) (flags : Flags) (mutability : MutationFacts) :
    Except Roster.Refusal Registry × Log :=
  let assembly := Assembly.make catalog (flags.listOf Flags.knownThreadSafe) mutability.immutable
  (assembly.outcome.map fun safe => ⟨safe, mutability.mutableNames⟩, assembly.log)

/-- A registry for which the flags alone say which types never change. No type is then
known to be mutable. -/
def ofFlags (catalog : Catalog) (flags : Flags) : Except Roster.Refusal Registry × Log :=
  assemble catalog flags (.ofFlags flags [])

def verdict (registry : Registry) (name : String) : Verdict :=
  match registry.safe.get? name with
  | some record => if record.isConditional then .safeIf record.containerOf else .safe
  | none => if name ∈ registry.unsafeNames then .notSafe else .unknown

/-- The verdict in words. Its first word alone tells the class of the type. -/
def Verdict.render : Verdict → String
  | .safe => "safe"
  | .safeIf parameters => "safe if " ++ Text.Quoted.commaSeparated parameters ++ " safe"
  | .notSafe => "unsafe"
  | .unknown => "unknown"

end Registry

end SafeTypes
