import SafeTypes.Text.Numeral
import SafeTypes.Text.Quoted

/-! Codes of the form `TSR-1001`. Codes from 1000 on stand for defects of the registry
itself, and codes from 2000 on for faults in its configuration. -/
namespace SafeTypes

/-- The title explains a code and is no part of its label. -/
structure ErrorCode where
  family : String
  number : Int
  title : String := ""
  deriving DecidableEq

namespace ErrorCode

def catalogDefect : ErrorCode := ⟨"TSR", 1001, "catalog defect"⟩

def rosterClosed : ErrorCode := ⟨"TSR", 1002, "builder already built"⟩

def invalidFlag : ErrorCode := ⟨"TSR", 2001, "invalid flag"⟩

/-- The family and the number, in at least four places. -/
def label (code : ErrorCode) : String :=
  code.family ++ "-" ++ String.ofList (Text.padded 4 code.number)

/-- All fields by name. -/
def describe (code : ErrorCode) : String :=
  "ErrorCode(prefix=" ++ Text.Quoted.text code.family ++
    ", number=" ++ String.ofList (Text.integer code.number) ++
    ", title=" ++ Text.Quoted.text code.title ++ ")"

end ErrorCode

end SafeTypes
