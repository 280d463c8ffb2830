import SafeTypes.Json
import SafeTypes.Text.Quoted

/-! The record of one type that is safe to share between threads. -/
namespace SafeTypes

/-- When parameters are listed, the type is safe only if each type put in for one of
them is safe. The list may repeat a parameter. -/
structure SafeType where
  name : String
  containerOf : List String := []
  deriving DecidableEq

namespace SafeType

def isConditional (record : SafeType) : Bool :=
  !record.containerOf.isEmpty

/-- The name, and the parameters in brackets behind it if there are any. -/
def render (record : SafeType) : String :=
  match record.containerOf with
  | [] => record.name
  | parameters => record.name ++ "[" ++ Text.Quoted.commaSeparated parameters ++ "]"

/-- All fields by name. -/
def describe (record : SafeType) : String :=
  "AnnotationInfo(type_name=" ++ Text.Quoted.text record.name ++
    ", container_of=" ++ Text.Quoted.tuple record.containerOf ++ ")"

def toJson (record : SafeType) : Json :=
  .object [("type_name", .text record.name), ("container_of", .texts record.containerOf)]

/-- Records are read-only. This is said to whoever assigns to a field. -/
def assignmentRefusal (field : String) : String :=
  "cannot assign to field " ++ Text.Quoted.text field

end SafeType

end SafeTypes
