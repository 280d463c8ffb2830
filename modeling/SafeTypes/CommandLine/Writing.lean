import SafeTypes.CommandLine.Arguments

/-! Writing command lines. What the program is told in front of a command is written one switch to
a word, with a value behind an equals sign, and so are the options of a listing. -/
namespace SafeTypes.CommandLine

/-- What the program can be told in front of a command. -/
inductive Setting where
  | verbose
  | flag (item : String)
  | mutableName (name : String)
  deriving DecidableEq

namespace Setting

def word : Setting → String
  | .verbose => "-v"
  | .flag item => "--flag=" ++ item
  | .mutableName name => "--mutable=" ++ name

/-- The setting with its value in a word of its own. -/
def words : Setting → List String
  | .verbose => ["-v"]
  | .flag item => ["--flag", item]
  | .mutableName name => ["--mutable", name]

/-- Two dashes cannot be written as a value, since they stand for none. -/
def IsWritable : Setting → Prop
  | .verbose => True
  | .flag item => item ≠ "--"
  | .mutableName name => name ≠ "--"

instance : DecidablePred IsWritable
  | .verbose => inferInstanceAs (Decidable True)
  | .flag item => inferInstanceAs (Decidable (item ≠ "--"))
  | .mutableName name => inferInstanceAs (Decidable (name ≠ "--"))

/-- What the switch of a setting does. -/
def action : Setting → ProgramAction
  | .verbose => .verbose
  | .flag item => .flag (some item)
  | .mutableName name => .mutableName (some name)

def flag? : Setting → Option String
  | .flag item => some item
  | _ => none

def mutableName? : Setting → Option String
  | .mutableName name => some name
  | _ => none

end Setting

/-- What a listing can be told. -/
inductive ListOption where
  | format (given : Report.Format)
  | showUnsafe
  deriving DecidableEq

namespace ListOption

def word : ListOption → String
  | .format .text => "--format=text"
  | .format .json => "--format=json"
  | .showUnsafe => "--unsafe"

/-- What the switch of an option does. -/
def action : ListOption → ListAction
  | .format .text => .format (some "text")
  | .format .json => .format (some "json")
  | .showUnsafe => .showUnsafe

def format? : ListOption → Option Report.Format
  | .format given => some given
  | .showUnsafe => none

end ListOption

end SafeTypes.CommandLine
