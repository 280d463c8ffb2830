import SafeTypes.ErrorCode

/-! What is reported when something goes wrong. A diagnostic has a code, a message and
perhaps a hint on how to mend it. -/
namespace SafeTypes

/-- The families of diagnostics. Every diagnostic is one of the registry's. -/
inductive Diagnostic.Kind where
  | registry
  | catalogDefect
  | rosterClosed
  | flag
  deriving DecidableEq

/-- An entry names parameters that its type does not declare. -/
structure CatalogDefect where
  typeName : String
  undeclared : List String
  declared : List String
  deriving DecidableEq

/-- A message under a code. An empty hint is no hint. -/
structure Notice where
  message : String
  code : ErrorCode
  hint : String := ""
  deriving DecidableEq

/-- `[TSR-1001] message`, with the hint on a line of its own. -/
def Notice.render (notice : Notice) : String :=
  "[" ++ notice.code.label ++ "] " ++ notice.message ++
    if notice.hint = "" then "" else "\n  hint: " ++ notice.hint

def CatalogDefect.notice (defect : CatalogDefect) : Notice where
  message := "For " ++ defect.typeName ++ ", please update the type parameter(s) from " ++
    Text.Quoted.list defect.undeclared ++ " to " ++ Text.Quoted.list defect.declared
  code := .catalogDefect
  hint := "fix the entry in the thread-safety catalog"

/-- A defect of the catalog carries its facts. The others carry their notice only. -/
inductive Diagnostic where
  | registry (notice : Notice)
  | catalogDefect (defect : CatalogDefect)
  | rosterClosed (notice : Notice)
  | flag (notice : Notice)
  deriving DecidableEq

namespace Diagnostic

def notice : Diagnostic → Notice
  | .registry notice => notice
  | .catalogDefect defect => defect.notice
  | .rosterClosed notice => notice
  | .flag notice => notice

def kind : Diagnostic → Kind
  | .registry _ => .registry
  | .catalogDefect _ => .catalogDefect
  | .rosterClosed _ => .rosterClosed
  | .flag _ => .flag

/-- The kinds that a kind belongs to. -/
def Kind.families : Kind → List Kind
  | .registry => [.registry]
  | kind => [.registry, kind]

/-- The code of a diagnostic that is given none. -/
def Kind.defaultCode : Kind → ErrorCode
  | .registry => .catalogDefect
  | .catalogDefect => .catalogDefect
  | .rosterClosed => .rosterClosed
  | .flag => .invalidFlag

def render (diagnostic : Diagnostic) : String :=
  diagnostic.notice.render

end Diagnostic

end SafeTypes
