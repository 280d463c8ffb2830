import SafeTypes.CommandLine.Switch

/-! Reading the words of a command line in order. What is read is a list of steps, and a
step that is a problem is the last. -/
namespace SafeTypes.CommandLine

variable {Action : Type}

/-- What the switches of one word amount to. -/
structure Expansion (Action : Type) where
  actions : List Action := []
  /-- The label of a last switch that reads the next word, and what it makes of it. -/
  awaiting : Option (String × (Option String → Action)) := none

/-- A value in the same word as its switch. Two dashes there stand for no value. -/
def attachedValue (text : List Char) : Option String :=
  if text = ['-', '-'] then none else some (String.ofList text)

/-- A switch with nothing behind it in its word. -/
def Switch.expandAlone (switch : Switch Action) : Expansion Action :=
  match switch.meaning with
  | .alone action => { actions := [action] }
  | .valued make => { awaiting := some (switch.label, make) }

/-- A switch with a value in its word. -/
def Switch.expandValue (switch : Switch Action) (text : List Char) :
    Except Problem (Expansion Action) :=
  match switch.meaning with
  | .alone _ => .error (.ignoredValue switch.label (String.ofList text))
  | .valued make => .ok { actions := [make (attachedValue text)] }

/-- A switch of one letter with letters behind it. They are the value of a switch that
reads one. Otherwise each of them has to be a switch of one letter again. -/
def Switch.expandLetters (switches : List (Switch Action)) (switch : Switch Action) :
    List Char → Except Problem (Expansion Action)
  | [] => switch.expandValue []
  | letter :: rest =>
      match switch.meaning, find? switches ['-', letter] with
      | .alone action, some next =>
          let expansion :=
            if rest.isEmpty then .ok next.expandAlone
            else Switch.expandLetters switches next rest
          expansion.map fun found => { found with actions := action :: found.actions }
      | _, _ => switch.expandValue (letter :: rest)

def Switch.expand (switches : List (Switch Action)) (switch : Switch Action) :
    Attachment → Except Problem (Expansion Action)
  | .nothing => .ok switch.expandAlone
  | .value value => switch.expandValue value
  | .letters letters => switch.expandLetters switches letters

/-- One step of a command line. -/
inductive Step (Action : Type) where
  | act (action : Action)
  | operands (words : List String)
  | extra (word : String)
  | stuck (problem : Problem)

/-- Which words a reader takes as operands, given what it has read so far. -/
inductive Operands where
  /-- The next operand and every word behind it. -/
  | tail
  /-- The next operands up to a switch. -/
  | row
  /-- The operands right here, up to a switch. -/
  | openRow
  /-- None from here on. -/
  | closed

/-- A switch ends a row of operands. -/
def Operands.behindSwitch : Operands → Operands
  | .openRow => .closed
  | operands => operands

def Expansion.steps (expansion : Expansion Action) : List (Step Action) :=
  expansion.actions.map .act

/-- Reads words in order. The separator is dropped inside a row of operands, and is a
word like others behind one. -/
def steps (switches : List (Switch Action)) (operands : Operands) :
    List (Token Action) → List (Step Action)
  | [] => []
  | ⟨word, .unknown⟩ :: rest => .extra word :: steps switches operands.behindSwitch rest
  | ⟨_, .switch switch attachment⟩ :: rest =>
      match switch.expand switches attachment with
      | .error problem => [.stuck problem]
      | .ok expansion =>
          match expansion.awaiting with
          | none => expansion.steps ++ steps switches operands.behindSwitch rest
          | some (label, make) =>
              match rest with
              | ⟨value, .operand⟩ :: more =>
                  expansion.steps ++ .act (make (some value)) ::
                    steps switches operands.behindSwitch more
              | _ => [.stuck (.missingValue label)]
  | ⟨word, .operand⟩ :: rest =>
      match operands with
      | .tail => [.operands (word :: rest.map Token.word)]
      | .row => .operands [word] :: steps switches .openRow rest
      | .openRow => .operands [word] :: steps switches .openRow rest
      | .closed => .extra word :: steps switches .closed rest
  | ⟨word, .separator⟩ :: rest =>
      match operands with
      | .tail => if rest.isEmpty then [.extra word] else [.operands (word :: rest.map Token.word)]
      | .row => if rest.isEmpty then [.extra word] else steps switches .openRow rest
      | .openRow => steps switches .openRow rest
      | .closed => .extra word :: steps switches .closed rest

/-- Reads a command line. An ambiguous word is a problem before anything is done. -/
def read (switches : List (Switch Action)) (operands : Operands) (words : List String) :
    List (Step Action) :=
  match tokens switches words with
  | .ok found => steps switches operands found
  | .error problem => [.stuck problem]

end SafeTypes.CommandLine
