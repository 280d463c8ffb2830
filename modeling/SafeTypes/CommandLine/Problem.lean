import SafeTypes.Text.Quoted

/-! What can be wrong with the words of a command line. -/
namespace SafeTypes.CommandLine

/-- A switch is given by its label, which lists its spellings. -/
inductive Problem where
  | ambiguous (word : String) (spellings : List String)
  | missingValue (label : String)
  | ignoredValue (label value : String)
  | invalidChoice (label value : String) (choices : List String)
  | missingOperand (label : String)
  | unrecognized (words : List String)
  deriving DecidableEq

namespace Problem

def message : Problem → String
  | .ambiguous word spellings =>
      "ambiguous option: " ++ word ++ " could match " ++ ", ".intercalate spellings
  | .missingValue label => "argument " ++ label ++ ": expected one argument"
  | .ignoredValue label value =>
      "argument " ++ label ++ ": ignored explicit argument " ++ Text.Quoted.text value
  | .invalidChoice label value choices =>
      "argument " ++ label ++ ": invalid choice: " ++ Text.Quoted.text value ++
        " (choose from " ++ Text.Quoted.commaSeparated (choices.map Text.Quoted.text) ++ ")"
  | .missingOperand label => "the following arguments are required: " ++ label
  | .unrecognized words => "unrecognized arguments: " ++ " ".intercalate words

end Problem

end SafeTypes.CommandLine
