import SafeTypes.Text.Unassigned

/-! Which characters are shown as themselves when a text is quoted. -/
namespace SafeTypes.Text

/-- Membership in a list of closed ranges. -/
def inRanges (ranges : List (Nat × Nat)) (n : Nat) : Bool :=
  ranges.any fun range => range.1 ≤ n && n ≤ range.2

def controls : List (Nat × Nat) :=
  [(0x00, 0x1F), (0x7F, 0x9F)]

/-- Characters that steer the layout of others and have no shape of their own. -/
def formatMarks : List (Nat × Nat) :=
  [(0xAD, 0xAD), (0x0600, 0x0605), (0x061C, 0x061C), (0x06DD, 0x06DD), (0x070F, 0x070F),
   (0x0890, 0x0891), (0x08E2, 0x08E2), (0x180E, 0x180E), (0x200B, 0x200F), (0x202A, 0x202E),
   (0x2060, 0x2064), (0x2066, 0x206F), (0xFEFF, 0xFEFF), (0xFFF9, 0xFFFB), (0x110BD, 0x110BD),
   (0x110CD, 0x110CD), (0x13430, 0x13438), (0x1BCA0, 0x1BCA3), (0x1D173, 0x1D17A),
   (0xE0001, 0xE0001), (0xE0020, 0xE007F)]

/-- The space characters other than the space itself, and the line and paragraph
separators. -/
def separators : List (Nat × Nat) :=
  [(0xA0, 0xA0), (0x1680, 0x1680), (0x2000, 0x200A), (0x2028, 0x2029), (0x202F, 0x202F),
   (0x205F, 0x205F), (0x3000, 0x3000)]

def privateUse : List (Nat × Nat) :=
  [(0xE000, 0xF8FF), (0xF0000, 0xFFFFD), (0x100000, 0x10FFFD)]

/-- A character is printable unless it is a control, a format mark, a separator
other than the space, for private use, or not assigned. -/
def isPrintable (c : Char) : Bool :=
  let n := c.toNat
  if n < 0x7F then 0x20 ≤ n
  else !(inRanges controls n || inRanges formatMarks n || inRanges separators n ||
    inRanges privateUse n || inRanges unassignedBasic n || inRanges unassignedSupplementary n)

end SafeTypes.Text
