/-! Blank characters and trimming. Trimming takes blanks off both ends of a text
and leaves the blanks between other characters where they are. -/
namespace SafeTypes.Text

/-- The blanks are the spaces and line ends of Unicode, the tabs, and the four
information separators. Characters of no width, such as U+200B, are not blank. -/
def isBlank (c : Char) : Bool :=
  let n := c.toNat
  (0x09 ≤ n && n ≤ 0x0D) || (0x1C ≤ n && n ≤ 0x20) || n == 0x85 || n == 0xA0 ||
    n == 0x1680 || (0x2000 ≤ n && n ≤ 0x200A) || n == 0x2028 || n == 0x2029 ||
    n == 0x202F || n == 0x205F || n == 0x3000

/-- The text from its first character that is not blank. -/
def trimStart (s : List Char) : List Char :=
  s.dropWhile isBlank

/-- The text up to its last character that is not blank. -/
def trimEnd (s : List Char) : List Char :=
  (trimStart s.reverse).reverse

def trim (s : List Char) : List Char :=
  trimEnd (trimStart s)

/-- Blanks in front of a text do not count. -/
theorem trimStart_append_of_all {blanks : List Char}
    (h : ∀ c ∈ blanks, isBlank c = true) (s : List Char) :
    trimStart (blanks ++ s) = trimStart s := by
  induction blanks with
  | nil => rfl
  | cons c blanks ih =>
      have hHead : isBlank c = true := h c (by simp)
      simpa [trimStart, hHead] using ih fun d hd => h d (by simp [hd])

theorem trim_eq_nil_of_all {s : List Char} (h : ∀ c ∈ s, isBlank c = true) :
    trim s = [] := by
  have hStart : trimStart s = [] := by
    simpa [trimStart] using trimStart_append_of_all h []
  rw [trim, hStart]
  rfl

/-- What trimming leaves at the front is not a blank. -/
theorem isBlank_head_trimStart {s rest : List Char} {c : Char}
    (h : trimStart s = c :: rest) : isBlank c = false := by
  induction s with
  | nil => simp [trimStart] at h
  | cons d s ih =>
      cases hd : isBlank d with
      | true => exact ih (by simpa [trimStart, hd] using h)
      | false =>
          have hEq : d = c ∧ s = rest := by simpa [trimStart, hd] using h
          rw [← hEq.1, hd]

end SafeTypes.Text
