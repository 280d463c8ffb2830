import SafeTypes.CommandLine.Problem
import SafeTypes.Text.DecimalDigit
import SafeTypes.Text.Pieces

/-! Switches and the words that name them. A word names a switch by its full spelling,
by a beginning of it that no other switch shares, or by a letter in a cluster. -/
namespace SafeTypes.CommandLine

/-- A switch acts on its own or reads one value. The value may turn out to be none. -/
inductive Switch.Meaning (Action : Type) where
  | alone (action : Action)
  | valued (make : Option String → Action)

structure Switch (Action : Type) where
  spellings : List String
  meaning : Switch.Meaning Action

/-- What stands behind a switch in the same word. -/
inductive Attachment where
  | nothing
  /-- A text behind a long spelling and its equals sign. -/
  | value (text : List Char)
  /-- A text behind a spelling with one dash, with or without an equals sign. -/
  | letters (text : List Char)

/-- The part that a word plays. An unknown word has the shape of a switch. -/
inductive Role (Action : Type) where
  | operand
  | separator
  | switch (named : Switch Action) (attachment : Attachment)
  | unknown

structure Token (Action : Type) where
  word : String
  role : Role Action

variable {Action : Type}

def Switch.label (switch : Switch Action) : String :=
  "/".intercalate switch.spellings

/-- The text behind a spelling and its equals sign. -/
def Attachment.behind (spelling text : List Char) : Attachment :=
  match spelling with
  | '-' :: '-' :: _ => .value text
  | _ => .letters text

/-- A reading of a word as a switch, with the spelling that it goes by. -/
structure Candidate (Action : Type) where
  switch : Switch Action
  spelling : String
  attachment : Attachment

/-- All spellings in order, each with its switch. -/
def spelled (switches : List (Switch Action)) : List (String × Switch Action) :=
  switches.flatMap fun switch => switch.spellings.map fun spelling => (spelling, switch)

/-- The switch of a full spelling. -/
def find? (switches : List (Switch Action)) (spelling : List Char) : Option (Switch Action) :=
  ((spelled switches).find? fun entry => entry.1.toList == spelling).map Prod.snd

/-- A spelling that begins with the whole stem may be meant by it. -/
def completions (switches : List (Switch Action)) (stem : List Char)
    (attachment : Attachment) : List (Candidate Action) :=
  (spelled switches).filterMap fun entry =>
    if stem.isPrefixOf entry.1.toList then some ⟨entry.2, entry.1, attachment⟩ else none

/-- The readings of a word that is no full spelling. A word with two dashes is read up
to its equals sign. A word with one dash may be a switch of one letter and more. -/
def candidates (switches : List (Switch Action)) : List Char → List (Candidate Action)
  | '-' :: '-' :: rest =>
      match Text.cut '=' ('-' :: '-' :: rest) with
      | (stem, some value) => completions switches stem (.value value)
      | (stem, none) => completions switches stem .nothing
  | dash :: letter :: rest =>
      (spelled switches).filterMap fun entry =>
        if entry.1.toList = [dash, letter] then some ⟨entry.2, entry.1, .letters rest⟩
        else if (dash :: letter :: rest).isPrefixOf entry.1.toList then
          some ⟨entry.2, entry.1, .nothing⟩
        else none
  | _ => []

/-- A text without the newline at its end. -/
def dropFinalNewline (text : List Char) : List Char :=
  if text.getLast? = some '\n' then text.dropLast else text

/-- Digits, or digits around a point with at least one behind it. -/
def isNumeral (text : List Char) : Bool :=
  match Text.cut '.' text with
  | (digits, none) => !digits.isEmpty && digits.all Text.isDecimalDigit
  | (digits, some more) =>
      digits.all Text.isDecimalDigit && !more.isEmpty && more.all Text.isDecimalDigit

/-- A negative number is an operand in spite of its dash. -/
def isNegative : List Char → Bool
  | '-' :: rest => isNumeral (dropFinalNewline rest)
  | _ => false

/-- Finds the part of one word in front of the separator. -/
def classify (switches : List (Switch Action)) (word : String) :
    Except Problem (Role Action) :=
  let text := word.toList
  if text.head? ≠ some '-' || text = ['-'] then .ok .operand
  else match find? switches text, Text.cut '=' text with
    | some switch, _ => .ok (.switch switch .nothing)
    | none, (stem, value?) =>
        match value?, find? switches stem with
        | some value, some switch => .ok (.switch switch (.behind stem value))
        | _, _ =>
            match candidates switches text with
            | [] => .ok (if isNegative text || text.contains ' ' then .operand else .unknown)
            | [candidate] => .ok (.switch candidate.switch candidate.attachment)
            | several => .error (.ambiguous word (several.map Candidate.spelling))

/-- Finds the part of every word. Behind the first separator there are operands only. -/
def tokens (switches : List (Switch Action)) :
    List String → Except Problem (List (Token Action))
  | [] => .ok []
  | word :: rest =>
      if word = "--" then .ok (⟨word, .separator⟩ :: rest.map fun word => ⟨word, .operand⟩)
      else match classify switches word with
        | .error problem => .error problem
        | .ok role => (tokens switches rest).map (⟨word, role⟩ :: ·)

end SafeTypes.CommandLine
