/-! Cutting a text at a separator. No separator is inside a piece, and joining the
pieces with the separator gives the text back. -/
namespace SafeTypes.Text

/-- The pieces between the separators. There is one piece more than there are
separators, so the empty text is one empty piece. -/
def pieces (separator : Char) : List Char → List (List Char)
  | [] => [[]]
  | c :: rest =>
      if c = separator then [] :: pieces separator rest
      else match pieces separator rest with
        | [] => [[c]]
        | piece :: more => (c :: piece) :: more

/-- The part before the first separator and, if there is a separator, the part
after it. -/
def cut (separator : Char) : List Char → List Char × Option (List Char)
  | [] => ([], none)
  | c :: rest =>
      if c = separator then ([], some rest)
      else (c :: (cut separator rest).1, (cut separator rest).2)

/-- What follows a given beginning of a text, if the text has it. -/
def after? (beginning s : List Char) : Option (List Char) :=
  if beginning.isPrefixOf s then some (s.drop beginning.length) else none

theorem pieces_ne_nil (separator : Char) (s : List Char) :
    pieces separator s ≠ [] := by
  cases s with
  | nil => simp [pieces]
  | cons c rest =>
      simp only [pieces]
      split
      · simp
      · split <;> simp

/-- The part before the first separator holds no separator. -/
theorem not_mem_cut (separator : Char) (s : List Char) :
    separator ∉ (cut separator s).1 := by
  induction s with
  | nil => simp [cut]
  | cons c rest ih =>
      by_cases h : c = separator
      · simp [cut, h]
      · simp [cut, h, ih, Ne.symm h]

theorem after?_append (beginning rest : List Char) :
    after? beginning (beginning ++ rest) = some rest := by
  simp [after?]

end SafeTypes.Text
