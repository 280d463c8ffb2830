import SafeTypes.Text.Blank
import SafeTypes.Text.Line
import SafeTypes.Text.Pieces

/-! The version of the package, and how a version is found in a text that declares one. -/
namespace SafeTypes.Package

def version : String := "0.1.0"

/-- The version of a text that declares none. -/
def noVersion : String := "0.0.0"

/-- The name that a declaration begins with. -/
def versionName : List Char := "__version__".toList

/-- Takes off the type of a declaration, which may stand behind a colon. -/
def withoutType (s : List Char) : List Char :=
  match s with
  | ':' :: rest => (Text.after? "str".toList (Text.trimStart rest)).getD s
  | _ => s

/-- The declared version, if the text begins with a declaration. It stands between
double quotes, is not empty, and may go over several lines. -/
def versionAt? (s : List Char) : Option (List Char) := do
  let typed ← Text.after? versionName s
  let assigned ← Text.after? ['='] (Text.trimStart (withoutType typed))
  let quoted ← Text.after? ['"'] (Text.trimStart assigned)
  match Text.cut '"' quoted with
  | (found, some _) => if found.isEmpty then none else some found
  | (_, none) => none

/-- The first declaration that a newline stands in front of. -/
def laterVersion? : List Char → Option (List Char)
  | [] => none
  | c :: rest =>
      if c = '\n' then
        match versionAt? rest with
        | some found => some found
        | none => laterVersion? rest
      else laterVersion? rest

/-- The first declaration at the start of a line. -/
def findVersion? (s : List Char) : Option (List Char) :=
  match versionAt? s with
  | some found => some found
  | none => laterVersion? s

/-- Reads the version out of a text. -/
def readVersion (text : String) : String :=
  ((findVersion? (Text.withNewlines text.toList)).map String.ofList).getD noVersion

end SafeTypes.Package
