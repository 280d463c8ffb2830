import SafeTypes.Registry

/-! The listings of a registry and its answers about single types. -/
namespace SafeTypes.Report

inductive Colour where
  | red
  | green
  | yellow
  | cyan
  deriving DecidableEq

/-- The number of a colour in the control sequences of terminals. -/
def Colour.number : Colour → String
  | .red => "31"
  | .green => "32"
  | .yellow => "33"
  | .cyan => "36"

/-- Whether a report is coloured. -/
inductive Palette where
  | plain
  | coloured
  deriving DecidableEq

/-- What the surroundings of a run say about colours. -/
structure Surroundings where
  coloursRefused : Bool
  coloursForced : Bool
  isDumb : Bool
  isTerminal : Bool

/-- Colours are for terminals that can show them. A refusal counts before a demand. -/
def Palette.suited (surroundings : Surroundings) : Palette :=
  if surroundings.coloursRefused then .plain
  else if surroundings.coloursForced then .coloured
  else if surroundings.isTerminal && !surroundings.isDumb then .coloured
  else .plain

/-- Sets a text in a colour and returns to the usual one behind it. -/
def Palette.paint (palette : Palette) (colour : Colour) (text : String) : String :=
  match palette with
  | .plain => text
  | .coloured => "\x1b[" ++ colour.number ++ "m" ++ text ++ "\x1b[0m"

inductive Format where
  | text
  | json
  deriving DecidableEq

/-- The unsafe types by increasing name. -/
def unsafeTypes (registry : Registry) (palette : Palette) : Format → String
  | .text => String.join (registry.unsafeNames.names.map fun name =>
      palette.paint .red name ++ "\n")
  | .json => (Json.texts registry.unsafeNames.names).render ++ "\n"

/-- The line of one safe type under the name that it is listed by. -/
def safeLine (palette : Palette) (name : String) (record : SafeType) : String :=
  palette.paint .green name ++
    (if record.isConditional then
      " " ++ palette.paint .cyan
        ("[container of " ++ Text.Quoted.commaSeparated record.containerOf ++ "]")
    else "") ++ "\n"

/-- The safe types by increasing name. The text counts them, and JSON gives the records
without the names that they are listed by. -/
def safeTypes (registry : Registry) (palette : Palette) : Format → String
  | .text =>
      String.join (registry.safe.sorted.map fun entry => safeLine palette entry.1 entry.2) ++
        "\n--- " ++ String.ofList (Text.decimal registry.safe.size) ++
        " known thread-safe type(s) ---\n"
  | .json => (Json.array (registry.safe.sorted.map fun entry => entry.2.toJson)).render ++ "\n"

/-- The colours of the words that a verdict begins with. -/
def verdictColours : List (String × Colour) :=
  [("safe", .green), ("unsafe", .red), ("unknown", .yellow)]

/-- A verdict has the colour of its first word. -/
def verdictColour (verdict : String) : Colour :=
  let word := String.ofList (Text.cut ' ' verdict.toList).1
  (verdictColours.lookup word).getD .green

/-- The answer about one type. -/
def answer (registry : Registry) (palette : Palette) (name : String) : String :=
  let verdict := (registry.verdict name).render
  name ++ ": " ++ palette.paint (verdictColour verdict) verdict ++ "\n"

/-- The answers about several types, in the order in which they were asked for. -/
def answers (registry : Registry) (palette : Palette) (names : List String) : String :=
  String.join (names.map (answer registry palette))

end SafeTypes.Report
