/-! Hexadecimal numerals of a fixed width, in lower case. -/
namespace SafeTypes.Text

/-- The last `width` hexadecimal digits of a number, with zeros in front. -/
def hexadecimal : Nat → Nat → List Char
  | 0, _ => []
  | width + 1, n => hexadecimal width (n / 16) ++ [Nat.digitChar (n % 16)]

end SafeTypes.Text
