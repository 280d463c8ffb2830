import SafeTypes.Package.Manifest
import SafeTypes.Proofs.Lines
import SafeTypes.Proofs.Trimming

/-! The version that a text declares. Of the lines that could declare one the first counts, and
what stands around it does not, be it names, quotes or halves of a declaration. -/
namespace SafeTypes

namespace Package

/-- No line begins as a declaration does. Lines end at newlines only. -/
def IsUndeclared (s : List Char) : Prop :=
  ∀ line ∈ Text.pieces '\n' s, ¬ versionName <+: line

instance (s : List Char) : Decidable (IsUndeclared s) :=
  inferInstanceAs (Decidable (∀ line ∈ Text.pieces '\n' s, ¬ versionName <+: line))

/-- What may stand behind the name of a declaration. -/
inductive IsTyping : List Char → Prop where
  | none : IsTyping []
  | text {blanks : List Char} (h : ∀ c ∈ blanks, Text.isBlank c = true) :
      IsTyping (':' :: (blanks ++ "str".toList))

theorem versionAt?_eq_none {s : List Char} (h : ¬ versionName <+: s) : versionAt? s = none := by
  rw [versionAt?, Text.after?_eq_none h]
  rfl

/-- A version that is found is not empty and ends before the first double quote. -/
theorem versionAt?_eq_some {s found : List Char} (h : versionAt? s = some found) :
    found ≠ [] ∧ '"' ∉ found := by
  simp only [versionAt?, Option.bind_eq_bind, Option.bind_eq_some_iff] at h
  obtain ⟨_, -, _, -, quoted, -, hQuoted⟩ := h
  have hQuote := Text.not_mem_cut '"' quoted
  split at hQuoted
  · next cutOff _ hCut =>
      rw [hCut] at hQuote
      cases cutOff with
      | nil => simp at hQuoted
      | cons c rest =>
          have hFound : c :: rest = found := by simpa using hQuoted
          rw [← hFound]
          exact ⟨List.cons_ne_nil c rest, hQuote⟩
  · cases hQuoted

theorem withoutType_append {typing s : List Char} (hTyping : IsTyping typing)
    (hs : s.head? ≠ some ':') : withoutType (typing ++ s) = s := by
  cases hTyping with
  | none =>
      rw [List.nil_append, withoutType]
      rintro rest rfl
      exact hs rfl
  | @text blanks hBlanks =>
      have hStart : Text.trimStart (blanks ++ "str".toList ++ s) = "str".toList ++ s := by
        rw [List.append_assoc]
        exact Text.trimStart_append_cons hBlanks (by decide) _
      rw [List.cons_append, withoutType, hStart, Text.after?_append, Option.getD_some]

/-- A declaration in full at the front of a text. -/
theorem versionAt?_declared {typing before after found : List Char}
    (hTyping : IsTyping typing) (hBefore : ∀ c ∈ before, Text.isBlank c = true)
    (hAfter : ∀ c ∈ after, Text.isBlank c = true) (hNe : found ≠ []) (hQuote : '"' ∉ found)
    (rest : List Char) :
    versionAt? (versionName ++ (typing ++ (before ++ '=' :: (after ++ '"' ::
      (found ++ '"' :: rest))))) = some found := by
  have hColon : (before ++ '=' :: (after ++ '"' :: (found ++ '"' :: rest))).head? ≠ some ':' := by
    cases before with
    | nil => simp
    | cons c before =>
        have hc := hBefore c List.mem_cons_self
        intro hHead
        rw [List.cons_append, List.head?_cons, Option.some_inj] at hHead
        rw [hHead] at hc
        exact absurd hc (by decide)
  have hEquals (s : List Char) : Text.after? ['='] ('=' :: s) = some s := Text.after?_append ['='] s
  have hOpening (s : List Char) : Text.after? ['"'] ('"' :: s) = some s :=
    Text.after?_append ['"'] s
  have hFound : found.isEmpty = false := by simpa using hNe
  simp only [versionAt?, Text.after?_append, Option.bind_eq_bind, Option.bind_some,
    withoutType_append hTyping hColon,
    Text.trimStart_append_cons hBefore (show Text.isBlank '=' = false by decide), hEquals,
    Text.trimStart_append_cons hAfter (show Text.isBlank '"' = false by decide), hOpening,
    Text.cut_append hQuote, hFound]
  rfl

theorem laterVersion?_of_not_mem {line : List Char} (h : '\n' ∉ line) :
    laterVersion? line = none := by
  induction line with
  | nil => rfl
  | cons c line ih =>
      rw [List.mem_cons, not_or] at h
      rw [laterVersion?, if_neg (Ne.symm h.1), ih h.2]

theorem laterVersion?_append_cons {line : List Char} (h : '\n' ∉ line) (rest : List Char) :
    laterVersion? (line ++ '\n' :: rest) = findVersion? rest := by
  induction line with
  | nil => rfl
  | cons c line ih =>
      rw [List.mem_cons, not_or] at h
      rw [List.cons_append, laterVersion?, if_neg (Ne.symm h.1), ih h.2]

theorem findVersion?_of_unnamed {s : List Char} (h : ¬ versionName <+: s) :
    findVersion? s = laterVersion? s := by
  rw [findVersion?, versionAt?_eq_none h]

/-- A line that does not begin as a declaration does is passed over. -/
theorem findVersion?_append_cons {line : List Char} (hLine : '\n' ∉ line)
    (h : ¬ versionName <+: line) (rest : List Char) :
    findVersion? (line ++ '\n' :: rest) = findVersion? rest := by
  have hAll : ¬ versionName <+: line ++ '\n' :: rest :=
    fun hPrefix => h (Text.prefix_of_prefix_append_cons (by decide) hPrefix)
  rw [findVersion?_of_unnamed hAll, laterVersion?_append_cons hLine]

theorem findVersion?_of_isUndeclared {s : List Char} (h : IsUndeclared s) :
    findVersion? s = none := by
  induction s using Text.induction_pieces '\n' with
  | last line hLine =>
      rw [IsUndeclared, Text.pieces_of_not_mem hLine, List.forall_mem_singleton] at h
      rw [findVersion?_of_unnamed h, laterVersion?_of_not_mem hLine]
  | cons line rest hLine ih =>
      rw [IsUndeclared, Text.pieces_append_cons hLine, List.forall_mem_cons] at h
      rw [findVersion?_append_cons hLine h.1, ih h.2]

/-- Lines in front of a text that declare nothing do not count. -/
theorem findVersion?_append {before : List Char}
    (hEnd : before = [] ∨ before.getLast? = some '\n') (h : IsUndeclared before)
    (rest : List Char) : findVersion? (before ++ rest) = findVersion? rest := by
  induction before using Text.induction_pieces '\n' with
  | last line hLine =>
      rcases hEnd with rfl | hLast
      · rfl
      · exact (hLine (List.mem_of_getLast? hLast)).elim
  | cons line before hLine ih =>
      rw [IsUndeclared, Text.pieces_append_cons hLine, List.forall_mem_cons] at h
      have hRest : before = [] ∨ before.getLast? = some '\n' := by
        cases before with
        | nil => exact .inl rfl
        | cons c before => exact .inr (by simpa using hEnd)
      rw [List.append_assoc, List.cons_append, findVersion?_append_cons hLine h.1, ih hRest h.2]

theorem findVersion?_eq_some {s found : List Char} (h : findVersion? s = some found) :
    found ≠ [] ∧ '"' ∉ found := by
  have hLater (s : List Char) (h : laterVersion? s = some found) : found ≠ [] ∧ '"' ∉ found := by
    induction s with
    | nil => cases h
    | cons c rest ih =>
        rw [laterVersion?] at h
        split at h
        · split at h
          · next hAt => exact versionAt?_eq_some (hAt.trans h)
          · exact ih h
        · exact ih h
  rw [findVersion?] at h
  split at h
  · next hAt => exact versionAt?_eq_some (hAt.trans h)
  · exact hLater s h

theorem readVersion_of_found {text : String} {found : List Char}
    (h : findVersion? (Text.withNewlines text.toList) = some found) :
    readVersion text = String.ofList found := by
  rw [readVersion, h]
  rfl

theorem readVersion_of_not_found {text : String}
    (h : findVersion? (Text.withNewlines text.toList) = none) : readVersion text = noVersion := by
  rw [readVersion, h]
  rfl

/-- Carriage returns may stand among the blanks of a declaration. -/
theorem isBlank_withNewlines {blanks : List Char} (h : ∀ c ∈ blanks, Text.isBlank c = true) :
    ∀ c ∈ Text.withNewlines blanks, Text.isBlank c = true := by
  intro c hc
  rcases Text.mem_withNewlines hc with rfl | hMem
  · decide
  · exact h c hMem

theorem IsTyping.withNewlines_append {typing : List Char} (h : IsTyping typing)
    (s : List Char) : ∃ read, IsTyping read ∧
      Text.withNewlines (typing ++ s) = read ++ Text.withNewlines s := by
  cases h with
  | none => exact ⟨[], .none, rfl⟩
  | @text blanks hBlanks =>
      refine ⟨_, .text (isBlank_withNewlines hBlanks), ?_⟩
      have hType : Text.withNewlines (blanks ++ ("str".toList ++ s)) =
          Text.withNewlines blanks ++ Text.withNewlines ("str".toList ++ s) :=
        Text.withNewlines_append_of_head (by simp) blanks
      rw [List.cons_append, List.append_assoc, Text.withNewlines_cons (by decide), hType,
        Text.withNewlines_append (by decide)]
      simp

/-- A declaration that is written with carriage returns is one that is read without them. -/
theorem versionAt?_withNewlines {typing before after version : List Char}
    (hTyping : IsTyping typing) (hBefore : ∀ c ∈ before, Text.isBlank c = true)
    (hAfter : ∀ c ∈ after, Text.isBlank c = true) (hNe : version ≠ []) (hQuote : '"' ∉ version)
    (rest : List Char) :
    versionAt? (Text.withNewlines (versionName ++ (typing ++ (before ++ '=' :: (after ++ '"' ::
      (version ++ '"' :: rest)))))) = some (Text.withNewlines version) := by
  obtain ⟨read, hRead, hText⟩ := hTyping.withNewlines_append
    (before ++ '=' :: (after ++ '"' :: (version ++ '"' :: rest)))
  have hVersion : '"' ∉ Text.withNewlines version := by
    intro hMem
    rcases Text.mem_withNewlines hMem with hNewline | hIn
    · cases hNewline
    · exact hQuote hIn
  -- None of the characters between the blanks is a newline, so no pair of line ends is divided.
  rw [Text.withNewlines_append (by decide), hText, Text.withNewlines_append_of_head (by simp),
    Text.withNewlines_cons (by decide), Text.withNewlines_append_of_head (by simp),
    Text.withNewlines_cons (by decide), Text.withNewlines_append_of_head (by simp),
    Text.withNewlines_cons (by decide)]
  exact versionAt?_declared hRead (isBlank_withNewlines hBefore) (isBlank_withNewlines hAfter)
    (Text.withNewlines_ne_nil hNe) hVersion _

theorem toList_declaration (front typing before after version rest : String) :
    (front ++ "__version__" ++ typing ++ before ++ "=" ++ after ++ "\"" ++ version ++ "\"" ++
      rest).toList = front.toList ++ (versionName ++ (typing.toList ++
        (before.toList ++ '=' :: (after.toList ++ '"' ::
          (version.toList ++ '"' :: rest.toList))))) := by
  have hName : "__version__".toList = versionName := rfl
  have hEquals : "=".toList = ['='] := rfl
  have hQuote : "\"".toList = ['"'] := rfl
  simp only [String.toList_append, hEquals, hQuote, List.append_assoc, List.cons_append,
    List.nil_append]
  rw [hName]

/-- The version of a text is the one that it declares first. A text is read with each carriage
return, and the newline behind it if there is one, as a newline. Whatever stands in front of a
declaration in lines that do not begin as one, and whatever stands behind it, the version is what
stands between its quotes. It is read like the rest of the text, so it is as it was written if
there is no carriage return in it. A text without a line that begins as a declaration has the
version of an undeclared one. No version is empty or holds a double quote. -/
theorem version_declared :
    (∀ front typing before after version rest : String,
      front = "" ∨ (Text.withNewlines front.toList).getLast? = some '\n' →
      IsUndeclared (Text.withNewlines front.toList) → IsTyping typing.toList →
      (∀ c ∈ before.toList, Text.isBlank c = true) → (∀ c ∈ after.toList, Text.isBlank c = true) →
      version ≠ "" → '"' ∉ version.toList →
      let text := front ++ "__version__" ++ typing ++ before ++ "=" ++ after ++ "\"" ++
        version ++ "\"" ++ rest
      readVersion text = String.ofList (Text.withNewlines version.toList) ∧
        ('\r' ∉ version.toList → readVersion text = version)) ∧
    (∀ text : String, IsUndeclared (Text.withNewlines text.toList) → readVersion text = "0.0.0") ∧
    ∀ text : String, readVersion text ≠ "" ∧ '"' ∉ (readVersion text).toList := by
  refine ⟨?_, ?_, ?_⟩
  · intro front typing before after version rest hFront hUndeclared hTyping hBefore hAfter
      hNe hQuote text
    have hEnd : Text.withNewlines front.toList = [] ∨
        (Text.withNewlines front.toList).getLast? = some '\n' := by
      refine hFront.imp_left ?_
      rintro rfl
      rfl
    have hNe' : version.toList ≠ [] := by simpa using hNe
    have hAt := versionAt?_withNewlines hTyping hBefore hAfter hNe' hQuote rest.toList
    have hHead (s : List Char) : (versionName ++ s).head? = some '_' := rfl
    have hRead : readVersion text = String.ofList (Text.withNewlines version.toList) := by
      apply readVersion_of_found
      rw [toList_declaration, Text.withNewlines_append_of_head (by rw [hHead]; decide),
        findVersion?_append hEnd hUndeclared, findVersion?, hAt]
    refine ⟨hRead, ?_⟩
    intro hReturn
    rw [hRead, Text.withNewlines_eq_self hReturn, String.ofList_toList]
  · intro text h
    exact readVersion_of_not_found (findVersion?_of_isUndeclared h)
  · intro text
    cases hFound : findVersion? (Text.withNewlines text.toList) with
    | none =>
        rw [readVersion_of_not_found hFound]
        decide
    | some found =>
        rw [readVersion_of_found hFound, String.toList_ofList]
        obtain ⟨hNe, hQuote⟩ := findVersion?_eq_some hFound
        exact ⟨by simpa [← String.toList_inj] using hNe, hQuote⟩

/-- Names and quotes in front of the declaration, a type and line ends inside it, and another
declaration behind it. -/
theorem version_declared_surrounded :
    readVersion ("\"\"\"__version__\"\"\"\r\n __version__ = \"1\"\n" ++ "__version__" ++ ":\u3000\rstr" ++
      "\r\n" ++ "=" ++ "\t" ++ "\"" ++ "2 = '__version__'" ++ "\"" ++ "\"\n__version__ = \"3\"") =
        "2 = '__version__'" := by
  have hBlank {s : String} (h : s.toList.all Text.isBlank = true) :
      ∀ c ∈ s.toList, Text.isBlank c = true := List.all_eq_true.1 h
  have hTyping : IsTyping ":\u3000\rstr".toList :=
    .text (hBlank (s := "\u3000\r") (by decide))
  exact (version_declared.1 "\"\"\"__version__\"\"\"\r\n __version__ = \"1\"\n" ":\u3000\rstr" "\r\n" "\t"
    "2 = '__version__'" "\"\n__version__ = \"3\"" (.inr (by decide +kernel)) (by decide +kernel)
    hTyping (hBlank (by decide)) (hBlank (by decide)) (by decide) (by decide)).2 (by decide)

/-- The version in the manifest of this package is the one that its own text declares. -/
example : manifest.reading.version = version := by decide +kernel

/-- Taken as they were written, a version with a carriage return is not the one that is read, and a
text can declare a version though none of its lines begins as a declaration. -/
theorem readVersion_carriageReturn :
    ("1\r2" ≠ "" ∧ '"' ∉ "1\r2".toList ∧
      readVersion ("__version__" ++ " " ++ "=" ++ " " ++ "\"" ++ "1\r2" ++ "\"") ≠ "1\r2") ∧
    IsUndeclared "#\r__version__ = \"1\"".toList ∧
      readVersion "#\r__version__ = \"1\"" ≠ "0.0.0" := by
  decide +kernel

end Package

end SafeTypes
