import SafeTypes.Text.Blank
import SafeTypes.Text.Line

/-! Lists of required packages, one a line. -/
namespace SafeTypes.Package

/-- Empty lines and comments are no requirements. -/
def isRequirement (line : List Char) : Bool :=
  match line with
  | [] => false
  | c :: _ => c != '#'

/-- The requirements of a text, without the blanks around them. -/
def readRequirements (text : String) : List String :=
  (((Text.lines (Text.withNewlines text.toList)).map Text.trim).filter isRequirement).map
    String.ofList

end SafeTypes.Package
