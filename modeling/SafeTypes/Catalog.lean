import SafeTypes.Class
import SafeTypes.SafeType

/-! Catalogs of types known to be safe. An entry names a class, whose parameters can be
checked, or gives a qualified name, which is trusted. -/
namespace SafeTypes

inductive Catalog.Target where
  | ofClass (target : Class)
  | named (name : String)
  deriving DecidableEq

/-- The parameters that a named type is documented to declare are kept for the reader
and take no part in registration. -/
structure Catalog.Entry where
  target : Target
  containerOf : List String := []
  documented : Option (List String) := none
  deriving DecidableEq

/-- The order counts, since a later entry for a name replaces an earlier one. -/
abbrev Catalog := List Catalog.Entry

namespace Catalog

def Target.name : Target → String
  | .ofClass target => target.qualifiedName
  | .named name => name

namespace Entry

/-- Whether the parameters of the entry can be checked. -/
def isReflectable (entry : Entry) : Bool :=
  match entry.target with
  | .ofClass _ => true
  | .named _ => false

def name (entry : Entry) : String :=
  entry.target.name

/-- What the entry puts into a table. -/
def record (entry : Entry) : SafeType :=
  ⟨entry.name, entry.containerOf⟩

end Entry

end Catalog

end SafeTypes
