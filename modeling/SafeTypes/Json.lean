import SafeTypes.Text.Hexadecimal

/-! JSON values made of texts, arrays and objects, and their layout over several
lines. The layout is pure ASCII. -/
namespace SafeTypes

/-- An object keeps the order of its fields. -/
inductive Json where
  | text (content : String)
  | array (items : List Json)
  | object (fields : List (String × Json))

namespace Json

/-- The code units of a character in UTF-16, one or two. -/
def codeUnits (c : Char) : List Nat :=
  let n := c.toNat
  if n < 0x10000 then [n]
  else [0xD800 + (n - 0x10000) / 0x400, 0xDC00 + (n - 0x10000) % 0x400]

/-- The characters from the space to the tilde stand for themselves, except for the
quote and the backslash. All others are escaped, by their code units if need be. -/
def escape (c : Char) : List Char :=
  if c = '"' then ['\\', '"']
  else if c = '\\' then ['\\', '\\']
  else if c = '\n' then ['\\', 'n']
  else if c = '\r' then ['\\', 'r']
  else if c = '\t' then ['\\', 't']
  else if c.toNat = 0x08 then ['\\', 'b']
  else if c.toNat = 0x0C then ['\\', 'f']
  else if 0x20 ≤ c.toNat && c.toNat ≤ 0x7E then [c]
  else (codeUnits c).flatMap fun unit => '\\' :: 'u' :: Text.hexadecimal 4 unit

def quote (content : String) : List Char :=
  '"' :: content.toList.flatMap escape ++ ['"']

/-- The start of a line at a depth, two spaces for each level. -/
def lineStart (depth : Nat) : List Char :=
  '\n' :: List.replicate (2 * depth) ' '

/-- Items on lines of their own between two brackets, one level deeper than the
brackets. Without items the brackets stand together. -/
def enclose (opening closing : Char) (depth : Nat) : List (List Char) → List Char
  | [] => [opening, closing]
  | first :: rest =>
      opening :: lineStart (depth + 1) ++ first ++
        rest.flatMap (fun item => ',' :: lineStart (depth + 1) ++ item) ++
        lineStart depth ++ [closing]

mutual

/-- The layout of a value whose first line starts at a depth. -/
def layout (depth : Nat) : Json → List Char
  | .text content => quote content
  | .array items => enclose '[' ']' depth (layoutItems (depth + 1) items)
  | .object fields => enclose '\x7b' '\x7d' depth (layoutFields (depth + 1) fields)

def layoutItems (depth : Nat) : List Json → List (List Char)
  | [] => []
  | item :: rest => layout depth item :: layoutItems depth rest

def layoutFields (depth : Nat) : List (String × Json) → List (List Char)
  | [] => []
  | (name, value) :: rest =>
      (quote name ++ ':' :: ' ' :: layout depth value) :: layoutFields depth rest

end

/-- A value on lines of its own, without a newline at the end. -/
def render (value : Json) : String :=
  String.ofList (layout 0 value)

/-- An array of texts. -/
def texts (items : List String) : Json :=
  .array (items.map .text)

end Json

end SafeTypes
