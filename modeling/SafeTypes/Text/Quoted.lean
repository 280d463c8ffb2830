import SafeTypes.Text.Hexadecimal
import SafeTypes.Text.Printable

/-! Texts, lists, tuples and mappings of texts as literals. A literal is on one line
and shows every character that is not printable as an escape. -/
namespace SafeTypes.Text.Quoted

/-- A text is written between apostrophes, unless it holds an apostrophe and no
double quote. -/
def delimiter (s : List Char) : Char :=
  if s.contains '\'' && !s.contains '"' then '"' else '\''

/-- The backslash and the delimiter keep their shape behind a backslash. Other
characters that are not printable give their code point in two, four or eight digits. -/
def escape (quote c : Char) : List Char :=
  if c = '\\' || c = quote then ['\\', c]
  else if c = '\n' then ['\\', 'n']
  else if c = '\r' then ['\\', 'r']
  else if c = '\t' then ['\\', 't']
  else if isPrintable c then [c]
  else if c.toNat < 0x100 then '\\' :: 'x' :: hexadecimal 2 c.toNat
  else if c.toNat < 0x10000 then '\\' :: 'u' :: hexadecimal 4 c.toNat
  else '\\' :: 'U' :: hexadecimal 8 c.toNat

def literal (s : List Char) : List Char :=
  delimiter s :: s.flatMap (escape (delimiter s)) ++ [delimiter s]

/-- A text as a literal. -/
def text (s : String) : String :=
  String.ofList (literal s.toList)

def commaSeparated (items : List String) : String :=
  ", ".intercalate items

/-- A list of texts. -/
def list (items : List String) : String :=
  "[" ++ commaSeparated (items.map text) ++ "]"

/-- A tuple of texts. A tuple of one text keeps a comma behind it. -/
def tuple : List String → String
  | [item] => "(" ++ text item ++ ",)"
  | items => "(" ++ commaSeparated (items.map text) ++ ")"

/-- A mapping between texts, in the order given. -/
def mapping (entries : List (String × String)) : String :=
  "\x7b" ++ commaSeparated (entries.map fun entry => text entry.1 ++ ": " ++ text entry.2) ++ "\x7d"

end SafeTypes.Text.Quoted
