/-! Decimal numerals. -/
namespace SafeTypes.Text

def decimal (n : Nat) : List Char :=
  Nat.toDigits 10 n

/-- The numeral of an integer, at least `width` characters long. The sign counts as a
character, and the zeros that fill the width stand behind it. -/
def padded (width : Nat) (value : Int) : List Char :=
  let sign := if value < 0 then ['-'] else []
  let digits := decimal value.natAbs
  sign ++ List.replicate (width - (sign.length + digits.length)) '0' ++ digits

/-- The numeral of an integer without any filling. -/
def integer (value : Int) : List Char :=
  padded 0 value

/-- The number that a decimal numeral stands for. Zeros in front do not count. -/
def readDecimal? (numeral : List Char) : Option Nat :=
  if numeral ≠ [] ∧ numeral.all Char.isDigit then some (Nat.ofDigitChars 10 numeral 0) else none

theorem isDigit_of_mem_decimal {n : Nat} {c : Char} (h : c ∈ decimal n) : c.isDigit = true :=
  Nat.isDigit_of_mem_toDigits (by decide) (by decide) h

/-- A number is read back from its numeral. -/
theorem readDecimal?_decimal (n : Nat) : readDecimal? (decimal n) = some n := by
  have hDigits : (decimal n).all Char.isDigit = true :=
    List.all_eq_true.2 fun c hc => isDigit_of_mem_decimal hc
  rw [readDecimal?, if_pos ⟨Nat.toDigits_ne_nil, hDigits⟩, decimal, Nat.ofDigitChars_ten_toDigits]

end SafeTypes.Text
