import SafeTypes.Text.Line

/-! The lines of a text as it was written, before its carriage returns are read as newlines. A
carriage return that has a newline behind it is no line end of its own. -/
namespace SafeTypes.Text

/-- Where a line of a text as it was written ends. -/
def isBreak (c : Char) : Bool :=
  c = '\r' || isLineEnd c

/-- What a line ends with. A carriage return and the newline behind it are one end. -/
inductive IsLineBreak : List Char → Prop where
  | pair : IsLineBreak ['\r', '\n']
  | single {c : Char} (h : isBreak c = true) : IsLineBreak [c]

/-- A text on one line. -/
def IsUnbroken (s : List Char) : Prop :=
  ∀ c ∈ s, isBreak c = false

theorem IsUnbroken.isLineEnd_eq_false {s : List Char} (h : IsUnbroken s) :
    ∀ c ∈ s, isLineEnd c = false := by
  intro c hc
  have hBreak := h c hc
  rw [isBreak, Bool.or_eq_false_iff] at hBreak
  exact hBreak.2

theorem IsUnbroken.return_not_mem {s : List Char} (h : IsUnbroken s) : '\r' ∉ s := by
  intro hMem
  exact absurd (h '\r' hMem) (by decide)

/-- Induction on the lines of a text. The last line has nothing behind it and may be empty, and
each line in front of it has an end. -/
theorem induction_lines (isEnd : Char → Bool) {motive : List Char → Prop}
    (last : ∀ line, (∀ c ∈ line, isEnd c = false) → motive line)
    (cons : ∀ line c rest, (∀ d ∈ line, isEnd d = false) → isEnd c = true → motive rest →
      motive (line ++ c :: rest)) (s : List Char) : motive s := by
  -- What was passed of the current line is carried along until its end is found.
  have hPassed : ∀ passed : List Char, (∀ c ∈ passed, isEnd c = false) → motive (passed ++ s) := by
    induction s with
    | nil =>
        intro passed hPassed
        rw [List.append_nil]
        exact last passed hPassed
    | cons c rest ih =>
        intro passed hPassed
        cases hc : isEnd c with
        | true => exact cons passed c rest hPassed hc (ih [] (List.forall_mem_nil _))
        | false =>
            have hNext : ∀ d ∈ passed ++ [c], isEnd d = false := by
              intro d hd
              rcases List.mem_append.1 hd with hOld | hNew
              · exact hPassed d hOld
              · rw [List.mem_singleton.1 hNew, hc]
            simpa using ih (passed ++ [c]) hNext
  exact hPassed [] (List.forall_mem_nil _)

/-- Induction on the pieces of a text. -/
theorem induction_pieces (separator : Char) {motive : List Char → Prop}
    (last : ∀ piece, separator ∉ piece → motive piece)
    (cons : ∀ piece rest, separator ∉ piece → motive rest → motive (piece ++ separator :: rest))
    (s : List Char) : motive s := by
  induction s using induction_lines (· == separator) with
  | last piece hPiece => exact last piece fun hMem => by simpa using hPiece separator hMem
  | cons piece c rest hPiece hc ih =>
      have hSeparator : c = separator := by simpa using hc
      rw [hSeparator]
      exact cons piece rest (fun hMem => by simpa using hPiece separator hMem) ih

theorem withNewlines_cons {c : Char} (h : c ≠ '\r') (s : List Char) :
    withNewlines (c :: s) = c :: withNewlines s := by
  rw [withNewlines]
  · exact fun _ hc _ => h hc
  · exact h

/-- A carriage return with no newline behind it. -/
theorem withNewlines_return {s : List Char} (h : s.head? ≠ some '\n') :
    withNewlines ('\r' :: s) = '\n' :: withNewlines s := by
  rw [withNewlines]
  rintro rest rfl
  exact h rfl

/-- A text is not read differently for what follows it, unless that begins with a newline. -/
theorem withNewlines_append_of_head {rest : List Char} (h : rest.head? ≠ some '\n')
    (s : List Char) : withNewlines (s ++ rest) = withNewlines s ++ withNewlines rest := by
  fun_induction withNewlines s with
  | case1 => rfl
  | case2 s ih => rw [List.cons_append, List.cons_append, withNewlines, ih, List.cons_append]
  | case3 s hPair ih =>
      have hHead : (s ++ rest).head? ≠ some '\n' := by
        cases s with
        | nil => exact h
        | cons c s =>
            intro hc
            rw [List.cons_append, List.head?_cons, Option.some_inj] at hc
            exact hPair s (by rw [hc])
      rw [List.cons_append, withNewlines_return hHead, ih, List.cons_append]
  | case4 c s hPair hReturn ih =>
      rw [List.cons_append, withNewlines_cons hReturn, ih, List.cons_append]

theorem withNewlines_append {s : List Char} (h : '\r' ∉ s) (rest : List Char) :
    withNewlines (s ++ rest) = s ++ withNewlines rest := by
  induction s with
  | nil => rfl
  | cons c s ih =>
      rw [List.mem_cons, not_or] at h
      rw [List.cons_append, withNewlines_cons (Ne.symm h.1), ih h.2, List.cons_append]

theorem withNewlines_eq_self {s : List Char} (h : '\r' ∉ s) : withNewlines s = s := by
  simpa [withNewlines] using withNewlines_append h []

theorem withNewlines_ne_nil {s : List Char} (h : s ≠ []) : withNewlines s ≠ [] := by
  fun_cases withNewlines s with
  | case1 => exact h
  | case2 => exact List.cons_ne_nil _ _
  | case3 => exact List.cons_ne_nil _ _
  | case4 => exact List.cons_ne_nil _ _

theorem mem_withNewlines {s : List Char} {c : Char} (h : c ∈ withNewlines s) :
    c = '\n' ∨ c ∈ s := by
  fun_induction withNewlines s with
  | case1 => exact .inr h
  | case2 s ih => grind
  | case3 s _ ih => grind
  | case4 d s _ _ ih => grind

/-- The first line of a text ends at its first line end. -/
theorem lines_append_cons {line : List Char} (hLine : ∀ c ∈ line, isLineEnd c = false) {c : Char}
    (hc : isLineEnd c = true) (rest : List Char) : lines (line ++ c :: rest) = line :: lines rest := by
  induction line with
  | nil => rw [List.nil_append, lines, if_pos hc]
  | cons d line ih =>
      rw [List.forall_mem_cons] at hLine
      rw [List.cons_append, lines, if_neg (by simp [hLine.1]), ih hLine.2]

theorem lines_of_forall {line : List Char} (hLine : ∀ c ∈ line, isLineEnd c = false) :
    lines line = if line = [] then [] else [line] := by
  induction line with
  | nil => rfl
  | cons c line ih =>
      rw [List.forall_mem_cons] at hLine
      rw [lines, if_neg (by simp [hLine.1]), ih hLine.2]
      cases line <;> rfl

end SafeTypes.Text
