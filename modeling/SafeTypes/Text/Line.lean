/-! Line ends. A text is first read with every carriage return as a newline, and
then cut at the wider set of line ends below. -/
namespace SafeTypes.Text

/-- Writes a carriage return, with or without a newline after it, as one newline. -/
def withNewlines : List Char → List Char
  | [] => []
  | '\r' :: '\n' :: rest => '\n' :: withNewlines rest
  | '\r' :: rest => '\n' :: withNewlines rest
  | c :: rest => c :: withNewlines rest

/-- Besides the newline, a line ends at the vertical tab, the form feed, three of
the information separators, the next-line character and the line and paragraph
separators. U+001F does not end a line. -/
def isLineEnd (c : Char) : Bool :=
  let n := c.toNat
  (0x0A ≤ n && n ≤ 0x0C) || (0x1C ≤ n && n ≤ 0x1E) || n == 0x85 || n == 0x2028 || n == 0x2029

/-- The lines without their ends. An empty rest after the last line end is no line. -/
def lines : List Char → List (List Char)
  | [] => []
  | c :: rest =>
      if isLineEnd c then [] :: lines rest
      else match lines rest with
        | [] => [[c]]
        | line :: more => (c :: line) :: more

end SafeTypes.Text
