import SafeTypes.Flags
import SafeTypes.NameSet
import SafeTypes.SafeType

/-! What is known about which types change. A type that never changes is safe to share.
Whether a type is immutable is not decided here. -/
namespace SafeTypes

/-- The records of immutable types and the names of mutable ones. A record may stand
under a name that is not its own. -/
structure MutationFacts where
  immutable : Table SafeType := .empty
  mutableNames : NameSet := .empty
  deriving DecidableEq

namespace MutationFacts

def ofLists (immutable : List (String × SafeType)) (mutableNames : List String) :
    MutationFacts :=
  ⟨.ofList immutable, .ofList mutableNames⟩

/-- Immutable types known by name are safe whatever their parameters. -/
def ofNames (immutable mutableNames : List String) : MutationFacts :=
  .ofLists (immutable.map fun name => (name, ⟨name, []⟩)) mutableNames

/-- The immutable types are the ones that the flags list. -/
def ofFlags (flags : Flags) (mutableNames : List String) : MutationFacts :=
  .ofNames (flags.listOf Flags.knownImmutable) mutableNames

end MutationFacts

end SafeTypes
