import Mathlib.Data.List.Forall2
import SafeTypes.Json.Reader

/-! Reading gives back what the layout of a value was made of. The layout is cut into the tokens
of the value, whatever its depth, and the tokens build the value in any frames. -/
namespace SafeTypes.Json

/-- A machine that gets through a first part goes on with the second from there. -/
theorem foldlM_append_of_some {State Item : Type} {step : State → Item → Option State}
    {first second : List Item} {start reached : State}
    (h : first.foldlM step start = some reached) :
    (first ++ second).foldlM step start = second.foldlM step reached := by
  rw [List.foldlM_append, h]
  rfl

section Cutting

variable (tokens : List Token) (content : List Char)

theorem digit?_digitChar : ∀ digit < 16, digit? (Nat.digitChar digit) = some digit := by
  decide

theorem next_digitChar (high : Option Nat) (missing value : Nat) {digit : Nat}
    (h : digit < 16) :
    Cutting.next ⟨tokens, .digits content high missing value⟩ (Nat.digitChar digit) =
      (Place.behindDigit content high missing (16 * value + digit)).map fun place =>
        ⟨tokens, place⟩ := by
  simp only [Cutting.next, digit?_digitChar digit h, Option.bind_some]

theorem cut_hexadecimal (high : Option Nat) {unit : Nat} (h : unit < 0x10000) :
    (Text.hexadecimal 4 unit).foldlM Cutting.next ⟨tokens, .digits content high 3 0⟩ =
      (Place.behindUnit content high unit).map fun place => ⟨tokens, place⟩ := by
  have hDigits : Text.hexadecimal 4 unit =
      [Nat.digitChar (unit / 16 / 16 / 16 % 16), Nat.digitChar (unit / 16 / 16 % 16),
        Nat.digitChar (unit / 16 % 16), Nat.digitChar (unit % 16)] := rfl
  have hValue : 16 * (16 * (16 * (16 * 0 + unit / 16 / 16 / 16 % 16) + unit / 16 / 16 % 16) +
      unit / 16 % 16) + unit % 16 = unit := by omega
  have hDigit (n : Nat) : n % 16 < 16 := Nat.mod_lt n (by decide)
  simp only [hDigits, List.foldlM_cons, List.foldlM_nil, next_digitChar, hDigit,
    Place.behindDigit, Option.map_some, Option.bind_eq_bind, Option.bind_some, hValue]
  cases Place.behindUnit content high unit <;> rfl

/-- An escape of a code unit is read from inside a text, and behind the first of a pair. -/
theorem cut_unit {unit : Nat} (h : unit < 0x10000) :
    ('\\' :: 'u' :: Text.hexadecimal 4 unit).foldlM Cutting.next ⟨tokens, .quoted content⟩ =
      (Place.behindUnit content none unit).map fun place => ⟨tokens, place⟩ :=
  cut_hexadecimal tokens content none h

theorem cut_pairedUnit (high : Nat) {unit : Nat} (h : unit < 0x10000) :
    ('\\' :: 'u' :: Text.hexadecimal 4 unit).foldlM Cutting.next
        ⟨tokens, .paired content high⟩ =
      (Place.behindUnit content (some high) unit).map fun place => ⟨tokens, place⟩ :=
  cut_hexadecimal tokens content (some high) h

theorem cut_single {unit : Nat} (h : unit < 0xD800 ∨ 0xE000 ≤ unit ∧ unit < 0x10000) :
    ('\\' :: 'u' :: Text.hexadecimal 4 unit).foldlM Cutting.next ⟨tokens, .quoted content⟩ =
      some ⟨tokens, .quoted (content ++ [Char.ofNat unit])⟩ := by
  have hAlone : unit < 0xD800 ∨ 0xE000 ≤ unit := by omega
  rw [cut_unit _ _ (by omega), Place.behindUnit, if_pos hAlone, Option.map_some]

theorem cut_pair {high low : Nat} (hHigh : 0xD800 ≤ high ∧ high < 0xDC00)
    (hLow : 0xDC00 ≤ low ∧ low < 0xE000) :
    (('\\' :: 'u' :: Text.hexadecimal 4 high) ++
        ('\\' :: 'u' :: Text.hexadecimal 4 low)).foldlM
        Cutting.next ⟨tokens, .quoted content⟩ =
      some ⟨tokens, .quoted (content ++
        [Char.ofNat (0x10000 + (high - 0xD800) * 0x400 + (low - 0xDC00))])⟩ := by
  have hFirst : ('\\' :: 'u' :: Text.hexadecimal 4 high).foldlM Cutting.next
      ⟨tokens, .quoted content⟩ = some ⟨tokens, .paired content high⟩ := by
    rw [cut_unit _ _ (by omega), Place.behindUnit, if_neg (by omega), if_pos hHigh.2,
      Option.map_some]
  rw [foldlM_append_of_some hFirst, cut_pairedUnit _ _ _ (by omega), Place.behindUnit,
    if_pos hLow, Option.map_some]

/-- A character is read back from its code units, one or two. -/
theorem cut_codeUnits (c : Char) :
    ((codeUnits c).flatMap fun unit => '\\' :: 'u' :: Text.hexadecimal 4 unit).foldlM
        Cutting.next ⟨tokens, .quoted content⟩ =
      some ⟨tokens, .quoted (content ++ [c])⟩ := by
  have hValid : c.toNat < 0xD800 ∨ 0xDFFF < c.toNat ∧ c.toNat < 0x110000 := c.valid
  rw [codeUnits]
  split
  · next hSmall =>
      rw [List.flatMap_cons, List.flatMap_nil, List.append_nil,
        cut_single _ _ (by omega), Char.ofNat_toNat]
  · next hLarge =>
      have hValue : 0x10000 + (0xD800 + (c.toNat - 0x10000) / 0x400 - 0xD800) * 0x400 +
          (0xDC00 + (c.toNat - 0x10000) % 0x400 - 0xDC00) = c.toNat := by omega
      rw [List.flatMap_cons, List.flatMap_cons, List.flatMap_nil, List.append_nil,
        cut_pair _ _ (by omega) (by omega), hValue, Char.ofNat_toNat]

theorem cut_escape (c : Char) :
    (escape c).foldlM Cutting.next ⟨tokens, .quoted content⟩ =
      some ⟨tokens, .quoted (content ++ [c])⟩ := by
  -- A character with a short escape is fixed by its case, and only the last two are not.
  rw [escape]
  split
  · next h => rw [h]; rfl
  split
  · next h => rw [h]; rfl
  split
  · next h => rw [h]; rfl
  split
  · next h => rw [h]; rfl
  split
  · next h => rw [h]; rfl
  split
  · next h =>
      have hChar : c = '\x08' := Char.toNat_inj.1 h
      rw [hChar]
      rfl
  split
  · next h =>
      have hChar : c = '\x0c' := Char.toNat_inj.1 h
      rw [hChar]
      rfl
  split
  · next hQuote hBackslash _ _ _ _ _ hPlain =>
      have hLow : ¬ c.toNat < 0x20 := by
        rw [Bool.and_eq_true, decide_eq_true_eq] at hPlain
        exact Nat.not_lt.2 hPlain.1
      simp only [List.foldlM_cons, List.foldlM_nil, Cutting.next, hQuote, hBackslash, hLow,
        if_false]
      rfl
  · exact cut_codeUnits tokens content c

theorem cut_escaped (s : List Char) :
    (s.flatMap escape).foldlM Cutting.next ⟨tokens, .quoted content⟩ =
      some ⟨tokens, .quoted (content ++ s)⟩ := by
  induction s generalizing content with
  | nil => simp
  | cons c rest ih =>
      rw [List.flatMap_cons, foldlM_append_of_some (cut_escape tokens content c), ih,
        List.append_assoc, List.singleton_append]

end Cutting

/-- A text is cut into given tokens, whatever stands in front of it. -/
def Cuts (text : List Char) (tokens : List Token) : Prop :=
  ∀ done, text.foldlM Cutting.next ⟨done, .between⟩ = some ⟨done ++ tokens, .between⟩

theorem Cuts.nil : Cuts [] [] := by
  intro done
  rw [List.append_nil]
  rfl

theorem Cuts.append {first second : List Char} {firstTokens secondTokens : List Token}
    (h : Cuts first firstTokens) (hSecond : Cuts second secondTokens) :
    Cuts (first ++ second) (firstTokens ++ secondTokens) := by
  intro done
  rw [foldlM_append_of_some (h done), hSecond, List.append_assoc]

theorem Cuts.cons_gap {c : Char} {rest : List Char} {tokens : List Token}
    (hGap : isGap c = true) (h : Cuts rest tokens) : Cuts (c :: rest) tokens := by
  intro done
  simp only [List.foldlM_cons, Cutting.next, hGap, if_true]
  exact h done

theorem Cuts.cons_mark {c : Char} {rest : List Char} {token : Token} {tokens : List Token}
    (hMark : Token.ofMark? c = some token) (hGap : isGap c = false) (hQuote : c ≠ '"')
    (h : Cuts rest tokens) : Cuts (c :: rest) (token :: tokens) := by
  intro done
  have hRest := h (done ++ [token])
  rw [List.append_assoc, List.singleton_append] at hRest
  simp only [List.foldlM_cons, Cutting.next, hGap, hQuote, if_false, hMark, Option.map_some]
  exact hRest

theorem cuts_quote (content : String) : Cuts (quote content) [.text content] := by
  intro done
  change (content.toList.flatMap escape ++ ['"']).foldlM Cutting.next ⟨done, .quoted []⟩ = _
  rw [foldlM_append_of_some (cut_escaped done [] content.toList)]
  change some _ = _
  rw [List.nil_append, String.ofList_toList]

theorem cuts_lineStart (depth : Nat) : Cuts (lineStart depth) [] := by
  refine Cuts.cons_gap rfl ?_
  induction 2 * depth with
  | zero => exact Cuts.nil
  | succ count ih => exact Cuts.cons_gap rfl ih

/-- Parts between two brackets, with commas between the parts. -/
def Token.enclose (opening closing : Token) : List (List Token) → List Token
  | [] => [opening, closing]
  | first :: rest => opening :: first ++ rest.flatMap (Token.comma :: ·) ++ [closing]

mutual

/-- The tokens of a value, which no layout is part of. -/
def tokens : Json → List Token
  | .text content => [.text content]
  | .array items => Token.enclose .openArray .closeArray (tokensOfItems items)
  | .object fields => Token.enclose .openObject .closeObject (tokensOfFields fields)

def tokensOfItems : List Json → List (List Token)
  | [] => []
  | item :: rest => tokens item :: tokensOfItems rest

def tokensOfFields : List (String × Json) → List (List Token)
  | [] => []
  | (name, value) :: rest => (.text name :: .colon :: tokens value) :: tokensOfFields rest

end

theorem cuts_enclose {opening closing : Char} {openToken closeToken : Token}
    (hOpening : Cuts [opening] [openToken]) (hClosing : Cuts [closing] [closeToken])
    (depth : Nat) {items : List (List Char)} {parts : List (List Token)}
    (h : List.Forall₂ Cuts items parts) :
    Cuts (enclose opening closing depth items) (Token.enclose openToken closeToken parts) := by
  cases h with
  | nil => exact hOpening.append hClosing
  | @cons first part rest more hFirst hRest =>
      have hItems : Cuts (rest.flatMap fun item => ',' :: lineStart (depth + 1) ++ item)
          (more.flatMap (Token.comma :: ·)) := by
        induction hRest with
        | nil => exact Cuts.nil
        | cons hItem _ ih =>
            refine Cuts.append ?_ ih
            exact Cuts.cons_mark rfl rfl (by decide) ((cuts_lineStart (depth + 1)).append hItem)
      have hOpened := (hOpening.append (cuts_lineStart (depth + 1))).append hFirst
      have hClosed := (cuts_lineStart depth).append hClosing
      simpa [enclose, Token.enclose] using (hOpened.append hItems).append hClosed

mutual

theorem cuts_layout (depth : Nat) : ∀ value, Cuts (layout depth value) (tokens value)
  | .text content => cuts_quote content
  | .array items => by
      rw [layout, tokens]
      exact cuts_enclose (Cuts.cons_mark rfl rfl (by decide) Cuts.nil)
        (Cuts.cons_mark rfl rfl (by decide) Cuts.nil) depth (cuts_layoutItems (depth + 1) items)
  | .object fields => by
      rw [layout, tokens]
      exact cuts_enclose (Cuts.cons_mark rfl rfl (by decide) Cuts.nil)
        (Cuts.cons_mark rfl rfl (by decide) Cuts.nil) depth (cuts_layoutFields (depth + 1) fields)

theorem cuts_layoutItems (depth : Nat) :
    ∀ items, List.Forall₂ Cuts (layoutItems depth items) (tokensOfItems items)
  | [] => .nil
  | item :: rest => .cons (cuts_layout depth item) (cuts_layoutItems depth rest)

theorem cuts_layoutFields (depth : Nat) :
    ∀ fields, List.Forall₂ Cuts (layoutFields depth fields) (tokensOfFields fields)
  | [] => .nil
  | (name, value) :: rest => by
      have hValue : Cuts (':' :: ' ' :: layout depth value) (.colon :: tokens value) :=
        Cuts.cons_mark rfl rfl (by decide) (Cuts.cons_gap rfl (cuts_layout depth value))
      exact .cons ((cuts_quote name).append hValue) (cuts_layoutFields depth rest)

end

section Building

variable (frames : List Frame)

/-- A value does not begin with the end of an array, so in an array that was just opened its
tokens are those of a first item. -/
theorem build_inArray (value : Json) :
    (tokens value).foldlM Building.next (.inArray frames) =
      (tokens value).foldlM Building.next (.due (.array [] :: frames)) := by
  cases value with
  | text content => rfl
  | array items => cases items <;> rfl
  | object fields => rcases fields with _ | ⟨⟨name, value⟩, rest⟩ <;> rfl

theorem build_openArray (rest : List Token) :
    (Token.openArray :: rest).foldlM Building.next (.due frames) =
      rest.foldlM Building.next (.inArray frames) :=
  rfl

theorem build_furtherItem (value : Json) (items : List Json) (rest : List Token) :
    (Token.comma :: rest).foldlM Building.next (.whole value (.array items :: frames)) =
      rest.foldlM Building.next (.due (.array (items ++ [value]) :: frames)) :=
  rfl

/-- The name of the first field of an object leads to its value. -/
theorem build_firstName (name : String) (rest : List Token) :
    (Token.openObject :: .text name :: .colon :: rest).foldlM Building.next (.due frames) =
      rest.foldlM Building.next (.due (.object [] name :: frames)) :=
  rfl

theorem build_furtherName (value : Json) (fields : List (String × Json)) (name other : String)
    (rest : List Token) :
    (Token.comma :: .text other :: .colon :: rest).foldlM Building.next
        (.whole value (.object fields name :: frames)) =
      rest.foldlM Building.next (.due (.object (fields ++ [(name, value)]) other :: frames)) :=
  rfl

mutual

theorem build_tokens : ∀ (value : Json) (frames : List Frame),
    (tokens value).foldlM Building.next (.due frames) = some (.whole value frames)
  | .text content, frames => rfl
  | .array [], frames => rfl
  | .array (first :: rest), frames => by
      -- The items are read one frame deeper, so the frames vary in the recursion.
      have hFirst := (build_inArray frames first).trans (build_tokens first _)
      simp only [tokens, tokensOfItems, Token.enclose, List.cons_append, List.append_assoc]
      rw [build_openArray, foldlM_append_of_some hFirst, build_items rest first [] frames]
      rfl
  | .object [], frames => rfl
  | .object ((name, value) :: rest), frames => by
      simp only [tokens, tokensOfFields, Token.enclose, List.cons_append, List.append_assoc]
      rw [build_firstName, foldlM_append_of_some (build_tokens value _),
        build_fields rest value [] name frames]
      rfl

/-- Behind the first items of an array, the rest of them and its end make it whole. -/
theorem build_items : ∀ (rest : List Json) (value : Json) (items : List Json)
    (frames : List Frame),
    ((tokensOfItems rest).flatMap (Token.comma :: ·) ++ [Token.closeArray]).foldlM Building.next
        (.whole value (.array items :: frames)) =
      some (.whole (.array (items ++ value :: rest)) frames)
  | [], value, items, frames => rfl
  | next :: rest, value, items, frames => by
      simp only [tokensOfItems, List.flatMap_cons, List.cons_append, List.append_assoc]
      rw [build_furtherItem, foldlM_append_of_some (build_tokens next _),
        build_items rest next (items ++ [value]) frames, List.append_assoc,
        List.singleton_append]

theorem build_fields : ∀ (rest : List (String × Json)) (value : Json)
    (fields : List (String × Json)) (name : String) (frames : List Frame),
    ((tokensOfFields rest).flatMap (Token.comma :: ·) ++ [Token.closeObject]).foldlM
        Building.next (.whole value (.object fields name :: frames)) =
      some (.whole (.object (fields ++ (name, value) :: rest)) frames)
  | [], value, fields, name, frames => rfl
  | (other, next) :: rest, value, fields, name, frames => by
      simp only [tokensOfFields, List.flatMap_cons, List.cons_append, List.append_assoc]
      rw [build_furtherName, foldlM_append_of_some (build_tokens next _),
        build_fields rest next (fields ++ [(name, value)]) other frames, List.append_assoc,
        List.singleton_append]

end

end Building

/-- Reading a value that is rendered on lines of its own gives the value. -/
theorem read?_render (value : Json) : read? (value.render ++ "\n") = some value := by
  have hEnd : Cuts "\n".toList [] := Cuts.cons_gap rfl Cuts.nil
  have hCut := ((cuts_layout 0 value).append hEnd) []
  have hTokens : tokens? (value.render ++ "\n").toList = some (tokens value) := by
    rw [tokens?, render, String.toList_append, String.toList_ofList, hCut, List.append_nil]
    rfl
  rw [read?, hTokens, Option.bind_some, build_tokens, Option.bind_some]
  rfl

end SafeTypes.Json
