import SafeTypes.Diagnostic
import SafeTypes.Table
import SafeTypes.Text.Blank
import SafeTypes.Text.Pieces

/-! Analysis flags, written as `Name=Value`. A name alone has the value `true`, and the
marker of analyzer command lines may stand in front. -/
namespace SafeTypes

/-- Why an item is no flag. -/
inductive Flags.Fault where
  | missingName (item : String)
  deriving DecidableEq

def Flags.Fault.diagnostic : Fault → Diagnostic
  | .missingName item => .flag
      { message := "Malformed flag " ++ Text.Quoted.text item ++ ": missing flag name"
        code := .invalidFlag
        hint := "write flags as Name=Value" }

/-- The values of the flags, in the order in which the names first came. -/
structure Flags where
  values : Table String
  deriving DecidableEq

namespace Flags

/-- The optional marker in front of a flag. -/
def marker : List Char := "-XepOpt:".toList

/-- Takes one marker off. -/
def withoutMarker (item : List Char) : List Char :=
  (Text.after? marker item).getD item

/-- The name and the value of one item. The name ends at the first equals sign and is
trimmed. The value keeps the blanks in front of it. -/
def readItem (item : String) : Except Fault (String × String) :=
  let parts := Text.cut '=' (withoutMarker (Text.trim item.toList))
  match Text.trim parts.1 with
  | [] => .error (.missingName item)
  | name => .ok (String.ofList name, (parts.2.map String.ofList).getD "true")

/-- Writes the items into a table one after another, up to the first that is no flag. -/
def readInto (values : Table String) : List String → Except Fault (Table String)
  | [] => .ok values
  | item :: rest =>
      match readItem item with
      | .ok (name, value) => readInto (values.insert name value) rest
      | .error fault => .error fault

/-- The flags of a list of items. The last value of a name wins. -/
def parse (items : List String) : Except Fault Flags :=
  (readInto .empty items).map Flags.mk

def empty : Flags := ⟨.empty⟩

def ofList (values : List (String × String)) : Flags :=
  ⟨.ofList values⟩

def get? (flags : Flags) (name : String) : Option String :=
  flags.values.get? name

/-- The trimmed items between the commas of a value, without the empty ones. -/
def items (value : String) : List String :=
  (((Text.pieces ',' value.toList).map Text.trim).filter (!·.isEmpty)).map String.ofList

/-- The value of a flag as a list. -/
def getList? (flags : Flags) (name : String) : Option (List String) :=
  (flags.get? name).map items

/-- The list of a flag that may be unset. -/
def listOf (flags : Flags) (name : String) : List String :=
  (flags.getList? name).getD []

/-- All values by name. -/
def describe (flags : Flags) : String :=
  "AnalysisFlags(" ++ Text.Quoted.mapping flags.values.entries ++ ")"

/-- Lists further types that are safe to share. -/
def knownThreadSafe : String := "ThreadSafe:KnownThreadSafe"

/-- Lists types that never change. -/
def knownImmutable : String := "Immutable:KnownImmutable"

end Flags

end SafeTypes
