import SafeTypes.Text.Numeral
import SafeTypes.Text.Pieces

/-! Reading what a report shows. Its colours can be taken off. The text listing of the safe types
has a line for each type, then an empty line and a line with their number. A name ends at the first
space of its line, and parameters stand in brackets behind it. -/
namespace SafeTypes.Report

/-- What follows a control sequence for a colour. The escape character in front of the sequence is
not part of the text here. -/
def afterColour? (s : List Char) : Option (List Char) :=
  (Text.after? ['['] s).bind fun rest =>
    let parts := Text.cut 'm' rest
    if (Text.readDecimal? parts.1).isSome then parts.2 else none

/-- The text without its control sequences for colours. An escape character with anything else
behind it stays. -/
def withoutColours (s : List Char) : List Char :=
  match Text.pieces '\x1b' s with
  | [] => []
  | first :: rest => first ++ rest.flatMap fun piece => (afterColour? piece).getD ('\x1b' :: piece)

/-- What a text listing says. -/
structure Listing where
  /-- The names with their parameters. A type without any is safe whatever is put in. -/
  entries : List (String × List String)
  /-- The number in the last line. -/
  count : Nat
  deriving DecidableEq

namespace Listing

/-- Parameters with a comma and a space between any two of them. There is at least one, and it may
be empty. -/
def parameters? (s : List Char) : Option (List String) :=
  match Text.pieces ',' s with
  | [] => none
  | first :: rest =>
      (rest.mapM (Text.after? [' '])).map fun rest => (first :: rest).map String.ofList

def bracket? (s : List Char) : Option (List String) :=
  (Text.after? "[container of ".toList s).bind fun inner =>
    if inner.getLast? = some ']' then parameters? inner.dropLast else none

/-- The name and the parameters of one line. -/
def entry? (line : List Char) : Option (String × List String) :=
  match Text.cut ' ' line with
  | (name, none) => some (String.ofList name, [])
  | (name, some rest) => (bracket? rest).map fun parameters => (String.ofList name, parameters)

def count? (line : List Char) : Option Nat :=
  (Text.after? "--- ".toList line).bind fun rest =>
    let parts := Text.cut ' ' rest
    if parts.2 = some "known thread-safe type(s) ---".toList then Text.readDecimal? parts.1
    else none

/-- The last two lines are told by their place, so a line in front of them may be empty too: it is
the line of an empty name. -/
def read? (text : String) : Option Listing :=
  match (Text.pieces '\n' text.toList).reverse with
  | [] :: footer :: [] :: lines =>
      (lines.reverse.mapM entry?).bind fun entries => (count? footer).map fun count =>
        ⟨entries, count⟩
  | _ => none

end Listing

end SafeTypes.Report
