import Mathlib.Data.List.TakeWhile
import SafeTypes.Text.Blank
import SafeTypes.Text.Pieces

/-! What trimming and cutting leave of a text. Trimming leaves a text without blanks at its
ends and keeps each such text as it is, and a text is cut at its first separator. -/
namespace SafeTypes.Text

theorem trim_eq_nil_iff {s : List Char} : trim s = [] ↔ ∀ c ∈ s, isBlank c = true := by
  refine ⟨?_, trim_eq_nil_of_all⟩
  intro h
  cases hStart : trimStart s with
  | nil => exact List.dropWhile_eq_nil_iff.1 hStart
  | cons c rest =>
      -- The character that the front was trimmed to is not blank, so the end stops there.
      have hAll : ∀ d ∈ (c :: rest).reverse, isBlank d = true := by
        rw [trim, trimEnd, List.reverse_eq_nil_iff, hStart] at h
        exact List.dropWhile_eq_nil_iff.1 h
      have hBlank := hAll c (by simp)
      rw [isBlank_head_trimStart hStart] at hBlank
      cases hBlank

/-- A text with no blank at its front. -/
def StartsBare (s : List Char) : Prop :=
  ∀ c ∈ s.head?, isBlank c = false

/-- A text with no blank at its end. -/
def EndsBare (s : List Char) : Prop :=
  ∀ c ∈ s.getLast?, isBlank c = false

/-- A text with a blank at neither end. Blanks inside do not count. -/
structure IsTrimmed (s : List Char) : Prop where
  front : StartsBare s
  back : EndsBare s

-- Only the character at the end is tested, not every character there is.
instance (s : List Char) : Decidable (StartsBare s) :=
  decidable_of_iff ((s.head?.all fun c => !isBlank c) = true)
    (by rw [StartsBare]; cases s.head? <;> simp)

instance (s : List Char) : Decidable (EndsBare s) :=
  decidable_of_iff ((s.getLast?.all fun c => !isBlank c) = true)
    (by rw [EndsBare]; cases s.getLast? <;> simp)

instance (s : List Char) : Decidable (IsTrimmed s) :=
  decidable_of_iff (StartsBare s ∧ EndsBare s) ⟨fun h => ⟨h.1, h.2⟩, fun h => ⟨h.front, h.back⟩⟩

theorem startsBare_reverse_iff {s : List Char} : StartsBare s.reverse ↔ EndsBare s := by
  rw [StartsBare, EndsBare, List.head?_reverse]

theorem startsBare_of_prefix {s t : List Char} (h : s <+: t) (ht : StartsBare t) :
    StartsBare s := by
  obtain ⟨rest, rfl⟩ := h
  intro c hc
  apply ht
  rw [List.head?_append, hc]
  rfl

theorem endsBare_of_suffix {s t : List Char} (h : s <:+ t) (ht : EndsBare t) : EndsBare s := by
  rw [← startsBare_reverse_iff] at ht ⊢
  exact startsBare_of_prefix (List.reverse_prefix.2 h) ht

theorem startsBare_trimStart (s : List Char) : StartsBare (trimStart s) := by
  intro c hc
  obtain ⟨rest, hRest⟩ := List.head?_eq_some_iff.1 hc
  exact isBlank_head_trimStart hRest

theorem endsBare_trimEnd (s : List Char) : EndsBare (trimEnd s) := by
  rw [← startsBare_reverse_iff, trimEnd, List.reverse_reverse]
  exact startsBare_trimStart _

theorem isPrefix_trimEnd (s : List Char) : trimEnd s <+: s := by
  rw [← List.reverse_suffix, trimEnd, List.reverse_reverse]
  exact List.dropWhile_suffix _

theorem isTrimmed_trim (s : List Char) : IsTrimmed (trim s) where
  front := startsBare_of_prefix (isPrefix_trimEnd _) (startsBare_trimStart s)
  back := endsBare_trimEnd _

theorem trimStart_eq_self {s : List Char} (h : StartsBare s) : trimStart s = s := by
  cases s with
  | nil => rfl
  | cons c rest =>
      have hc : isBlank c = false := h c rfl
      exact List.dropWhile_cons_of_neg (by simp [hc])

theorem trimEnd_eq_self {s : List Char} (h : EndsBare s) : trimEnd s = s := by
  rw [trimEnd, trimStart_eq_self (startsBare_reverse_iff.2 h), List.reverse_reverse]

/-- Blanks in front end at the first character that is not blank. -/
theorem trimStart_append_cons {blanks : List Char} (hBlanks : ∀ c ∈ blanks, isBlank c = true)
    {c : Char} (hc : isBlank c = false) (rest : List Char) :
    trimStart (blanks ++ c :: rest) = c :: rest := by
  rw [trimStart_append_of_all hBlanks]
  exact List.dropWhile_cons_of_neg (by simp [hc])

/-- Trimming takes nothing off a text that has a blank at neither end. -/
theorem IsTrimmed.trim_eq {s : List Char} (h : IsTrimmed s) : trim s = s := by
  rw [trim, trimStart_eq_self h.front, trimEnd_eq_self h.back]

theorem trimEnd_append_of_all {blanks : List Char} (h : ∀ c ∈ blanks, isBlank c = true)
    (s : List Char) : trimEnd (s ++ blanks) = trimEnd s := by
  have hReverse : ∀ c ∈ blanks.reverse, isBlank c = true := by simpa using h
  rw [trimEnd, List.reverse_append, trimStart_append_of_all hReverse, trimEnd]

/-- Trimming the end of a text stops at a character that is not blank. -/
theorem trimEnd_append_cons {c : Char} (h : isBlank c = false) (s rest : List Char) :
    trimEnd (s ++ c :: rest) = s ++ c :: trimEnd rest := by
  have hReverse : (s ++ c :: rest).reverse = rest.reverse ++ c :: s.reverse := by simp
  rw [trimEnd, trimEnd, hReverse, trimStart, List.dropWhile_append]
  split
  · next hNil =>
      rw [List.isEmpty_iff] at hNil
      simp [trimStart, hNil, h]
  · simp [trimStart]

/-- Blanks around a text do not count. -/
theorem trim_append_append {before after : List Char} (hBefore : ∀ c ∈ before, isBlank c = true)
    (hAfter : ∀ c ∈ after, isBlank c = true) (s : List Char) :
    trim (before ++ s ++ after) = trim s := by
  have hBack : after.dropWhile isBlank = [] := List.dropWhile_eq_nil_iff.2 hAfter
  rw [List.append_assoc, trim, trimStart_append_of_all hBefore, trimStart, List.dropWhile_append,
    hBack]
  split
  · next hNil =>
      rw [List.isEmpty_iff] at hNil
      rw [trim, trimStart, hNil]
  · rw [trimEnd_append_of_all hAfter, trim, trimStart]

/-- What is trimmed off the end of a text are blanks. -/
theorem exists_trimEnd_append (s : List Char) :
    ∃ blanks, (∀ c ∈ blanks, isBlank c = true) ∧ trimEnd s ++ blanks = s := by
  refine ⟨(s.reverse.takeWhile isBlank).reverse, ?_, ?_⟩
  · intro c hc
    exact List.mem_takeWhile_imp (List.mem_reverse.1 hc)
  · rw [trimEnd, trimStart, ← List.reverse_append, List.takeWhile_append_dropWhile,
      List.reverse_reverse]

/-- Trimming the end alone leaves the blanks in front of what trimming leaves. -/
theorem exists_trimEnd_eq_append_trim (s : List Char) :
    ∃ blanks, (∀ c ∈ blanks, isBlank c = true) ∧ trimEnd s = blanks ++ trim s := by
  have hSplit : s.takeWhile isBlank ++ trimStart s = s := List.takeWhile_append_dropWhile
  have hFront : ∀ c ∈ s.takeWhile isBlank, isBlank c = true := fun c hc => List.mem_takeWhile_imp hc
  rw [trim]
  cases hStart : trimStart s with
  | nil =>
      rw [hStart, List.append_nil] at hSplit
      rw [hSplit] at hFront
      refine ⟨[], List.forall_mem_nil _, ?_⟩
      simpa using trimEnd_append_of_all hFront []
  | cons c rest =>
      have hBare := isBlank_head_trimStart hStart
      have hRest := trimEnd_append_cons hBare [] rest
      refine ⟨s.takeWhile isBlank, hFront, ?_⟩
      rw [hStart] at hSplit
      rw [List.nil_append] at hRest
      rw [hRest, List.nil_append, ← trimEnd_append_cons hBare, hSplit]

theorem trim_subset (s : List Char) : trim s ⊆ s := by
  intro c hc
  exact (List.dropWhile_sublist _).subset ((isPrefix_trimEnd _).subset hc)

theorem after?_eq_none {beginning s : List Char} (h : ¬ beginning <+: s) :
    after? beginning s = none := by
  rw [after?, if_neg (mt List.isPrefixOf_iff_prefix.1 h)]

/-- A beginning without the separator ends before the first one. -/
theorem prefix_of_prefix_append_cons {separator : Char} {beginning s rest : List Char}
    (hSeparator : separator ∉ beginning) (h : beginning <+: s ++ separator :: rest) :
    beginning <+: s := by
  have hFirst : s ++ [separator] <+: s ++ separator :: rest := by simp
  rcases List.prefix_or_prefix_of_prefix h hFirst with hShort | hLong
  · rcases List.prefix_concat_iff.1 hShort with hEq | hPrefix
    · exact (hSeparator (by simp [hEq])).elim
    · exact hPrefix
  · exact (hSeparator (hLong.subset (by simp))).elim

theorem fst_cut (separator : Char) (s : List Char) :
    (cut separator s).1 = s.takeWhile (· ≠ separator) := by
  induction s with
  | nil => rfl
  | cons c rest ih =>
      by_cases h : c = separator
      · simp [cut, h]
      · simp [cut, h, ih]

theorem snd_cut (separator : Char) (s : List Char) :
    (cut separator s).2 =
      if separator ∈ s then some (s.dropWhile (· ≠ separator)).tail else none := by
  induction s with
  | nil => rfl
  | cons c rest ih =>
      by_cases h : c = separator
      · simp [cut, h]
      · simp [cut, h, ih, Ne.symm h]

/-- The first separator is the one behind a part that holds none. -/
theorem cut_append {separator : Char} {before : List Char} (h : separator ∉ before)
    (rest : List Char) : cut separator (before ++ separator :: rest) = (before, some rest) := by
  induction before with
  | nil => simp [cut]
  | cons c before ih =>
      rw [List.mem_cons, not_or] at h
      rw [List.cons_append, cut, if_neg (Ne.symm h.1), ih h.2]

theorem cut_of_not_mem {separator : Char} {s : List Char} (h : separator ∉ s) :
    cut separator s = (s, none) := by
  refine Prod.ext ?_ ?_
  · rw [fst_cut, List.takeWhile_eq_self_iff]
    intro c hc
    exact decide_eq_true fun hEq => h (hEq ▸ hc)
  · rw [snd_cut, if_neg h]

/-- Cutting at every separator is the splitting of lists. -/
theorem pieces_eq_splitOn (separator : Char) (s : List Char) :
    pieces separator s = s.splitOn separator := by
  induction s with
  | nil => rw [pieces, List.splitOn_nil]
  | cons c rest ih =>
      rw [pieces, List.splitOn_cons_eq_if_modifyHead, ← ih]
      by_cases h : c = separator
      · simp [h]
      · rw [if_neg h, if_neg (by simpa using h)]
        cases hRest : pieces separator rest with
        | nil => exact (pieces_ne_nil separator rest hRest).elim
        | cons piece more => rfl

/-- The first piece ends at the first separator. -/
theorem pieces_append_cons {separator : Char} {before : List Char} (h : separator ∉ before)
    (rest : List Char) :
    pieces separator (before ++ separator :: rest) = before :: pieces separator rest := by
  induction before with
  | nil => rw [List.nil_append, pieces, if_pos rfl]
  | cons c before ih =>
      rw [List.mem_cons, not_or] at h
      rw [List.cons_append, pieces, if_neg (Ne.symm h.1), ih h.2]

theorem pieces_of_not_mem {separator : Char} {s : List Char} (h : separator ∉ s) :
    pieces separator s = [s] := by
  rw [pieces_eq_splitOn, List.splitOn_eq_singleton h]

/-- What stands in front of a text without a separator goes to its first piece. -/
theorem exists_pieces_append_left {separator : Char} {added : List Char} (h : separator ∉ added)
    (s : List Char) : ∃ first rest, pieces separator s = first :: rest ∧
      pieces separator (added ++ s) = (added ++ first) :: rest := by
  induction added with
  | nil =>
      obtain ⟨first, rest, hPieces⟩ := List.exists_cons_of_ne_nil (pieces_ne_nil separator s)
      exact ⟨first, rest, hPieces, hPieces⟩
  | cons c added ih =>
      rw [List.mem_cons, not_or] at h
      obtain ⟨first, rest, hPieces, hAdded⟩ := ih h.2
      exact ⟨first, rest, hPieces, by simp [pieces, Ne.symm h.1, hAdded]⟩

/-- Lines with an end each are the pieces of their text, with an empty piece behind the last end. -/
theorem pieces_flatMap {separator : Char} {lines : List (List Char)}
    (h : ∀ line ∈ lines, separator ∉ line) :
    pieces separator (lines.flatMap fun line => line ++ [separator]) = lines ++ [[]] := by
  induction lines with
  | nil => rfl
  | cons line rest ih =>
      rw [List.forall_mem_cons] at h
      rw [List.flatMap_cons, List.append_assoc, List.singleton_append, pieces_append_cons h.1,
        ih h.2, List.cons_append]

/-- No piece holds a separator. -/
theorem not_mem_of_mem_pieces {separator : Char} {s piece : List Char}
    (h : piece ∈ pieces separator s) : separator ∉ piece := by
  induction s generalizing piece with
  | nil => simp_all [pieces]
  | cons c rest ih =>
      by_cases hc : c = separator
      · simp only [pieces, if_pos hc, List.mem_cons] at h
        rcases h with rfl | hRest
        · simp
        · exact ih hRest
      · simp only [pieces, if_neg hc] at h
        split at h
        · simp_all [Ne.symm hc]
        · next first more hRest =>
            rcases List.mem_cons.1 h with rfl | hMore
            · have hFirst := ih (hRest ▸ List.mem_cons_self)
              simp [Ne.symm hc, hFirst]
            · exact ih (hRest ▸ List.mem_cons_of_mem _ hMore)

/-- What is added behind a text goes to its last piece, if it holds no separator. -/
theorem exists_pieces_append {separator : Char} {added : List Char} (h : separator ∉ added)
    (s : List Char) :
    ∃ before last, pieces separator s = before ++ [last] ∧
      pieces separator (s ++ added) = before ++ [last ++ added] := by
  induction s with
  | nil =>
      refine ⟨[], [], rfl, ?_⟩
      rw [List.nil_append, pieces_of_not_mem h]
      rfl
  | cons c rest ih =>
      obtain ⟨before, last, hRest, hAdded⟩ := ih
      by_cases hc : c = separator
      · exact ⟨[] :: before, last, by simp [pieces, hc, hRest], by simp [pieces, hc, hAdded]⟩
      · cases before with
        | nil =>
            refine ⟨[], c :: last, ?_, ?_⟩
            · simp [pieces, hc, hRest]
            · simp [pieces, hc, hAdded]
        | cons first before =>
            refine ⟨(c :: first) :: before, last, ?_, ?_⟩
            · simp [pieces, hc, hRest]
            · simp [pieces, hc, hAdded]

/-- Blanks at the end of a text are at the end of its last piece. -/
theorem map_trim_pieces_trimEnd {separator : Char} (h : isBlank separator = false)
    (s : List Char) :
    (pieces separator (trimEnd s)).map trim = (pieces separator s).map trim := by
  obtain ⟨blanks, hBlanks, hs⟩ := exists_trimEnd_append s
  have hSeparator : separator ∉ blanks := by
    intro hMem
    rw [hBlanks separator hMem] at h
    cases h
  obtain ⟨before, last, hTrimmed, hAll⟩ := exists_pieces_append hSeparator (trimEnd s)
  have hLast : trim (last ++ blanks) = trim last := by
    simpa using trim_append_append (List.forall_mem_nil _) hBlanks last
  rw [hs] at hAll
  rw [hTrimmed, hAll, List.map_append, List.map_append, List.map_singleton, List.map_singleton,
    hLast]

end SafeTypes.Text
