import SafeTypes.CommandLine.Page
import SafeTypes.CommandLine.Reading
import SafeTypes.Report

/-! What a command line asks for. The switches of the program come before the command,
and every word behind the command belongs to the command. -/
namespace SafeTypes.CommandLine

inductive Command where
  | list (format : Report.Format) (showUnsafe : Bool)
  | lookup (names : List String)
  deriving DecidableEq

/-- What a command line gives. A value that is missing is `none`. -/
structure Arguments where
  verbosity : Nat
  flags : List (Option String)
  mutableNames : List (Option String)
  command : Command
  deriving DecidableEq

/-- Why a command line is not carried out. The first two are answers of their own. -/
inductive Stop where
  | help (page : Page)
  | version
  | misuse (page : Page) (problem : Problem)
  deriving DecidableEq

inductive ListAction where
  | help
  | format (name : Option String)
  | showUnsafe

def listSwitches : List (Switch ListAction) :=
  [⟨["-h", "--help"], .alone .help⟩,
   ⟨["--format"], .valued .format⟩,
   ⟨["--unsafe"], .alone .showUnsafe⟩]

/-- The last format counts. Text is the format of a listing that names none, and of one
whose format is missing. -/
structure ListRequest where
  format : Report.Format := .text
  showUnsafe : Bool := false
  extras : List String := []

def ListRequest.next (request : ListRequest) : Step ListAction → Except Stop ListRequest
  | .act .help => .error (.help .list)
  | .act (.format none) => .ok { request with format := .text }
  | .act (.format (some "text")) => .ok { request with format := .text }
  | .act (.format (some "json")) => .ok { request with format := .json }
  | .act (.format (some name)) =>
      .error (.misuse .list (.invalidChoice "--format" name ["text", "json"]))
  | .act .showUnsafe => .ok { request with showUnsafe := true }
  | .operands words => .ok { request with extras := request.extras ++ words }
  | .extra word => .ok { request with extras := request.extras ++ [word] }
  | .stuck problem => .error (.misuse .list problem)

/-- A command with the words that it has no use for. -/
abbrev Understood := Command × List String

def readList (words : List String) : Except Stop Understood :=
  ((read listSwitches .closed words).foldlM ListRequest.next {}).map fun request =>
    (.list request.format request.showUnsafe, request.extras)

inductive LookupAction where
  | help

def lookupSwitches : List (Switch LookupAction) :=
  [⟨["-h", "--help"], .alone .help⟩]

structure LookupRequest where
  names : List String := []
  extras : List String := []

def LookupRequest.next (request : LookupRequest) : Step LookupAction → Except Stop LookupRequest
  | .act .help => .error (.help .lookup)
  | .operands words => .ok { request with names := request.names ++ words }
  | .extra word => .ok { request with extras := request.extras ++ [word] }
  | .stuck problem => .error (.misuse .lookup problem)

/-- At least one name is needed. -/
def readLookup (words : List String) : Except Stop Understood :=
  match (read lookupSwitches .row words).foldlM LookupRequest.next {} with
  | .error stop => .error stop
  | .ok request =>
      if request.names.isEmpty then .error (.misuse .lookup (.missingOperand "NAME"))
      else .ok (.lookup request.names, request.extras)

/-- Reads the name of a command and the words behind it. -/
def readCommand : List String → Except Stop Understood
  | "list" :: words => readList words
  | "lookup" :: words => readLookup words
  | name :: _ =>
      .error (.misuse .overview (.invalidChoice "<command>" name ["list", "lookup"]))
  | [] => .error (.misuse .overview (.missingOperand "<command>"))

inductive ProgramAction where
  | help
  | version
  | verbose
  | flag (item : Option String)
  | mutableName (name : Option String)

def programSwitches : List (Switch ProgramAction) :=
  [⟨["-h", "--help"], .alone .help⟩,
   ⟨["--version"], .alone .version⟩,
   ⟨["-v", "--verbose"], .alone .verbose⟩,
   ⟨["--flag"], .valued .flag⟩,
   ⟨["--mutable"], .valued .mutableName⟩]

structure ProgramRequest where
  verbosity : Nat := 0
  flags : List (Option String) := []
  mutableNames : List (Option String) := []
  command : Option Understood := none
  extras : List String := []

def ProgramRequest.next (request : ProgramRequest) :
    Step ProgramAction → Except Stop ProgramRequest
  | .act .help => .error (.help .overview)
  | .act .version => .error .version
  | .act .verbose => .ok { request with verbosity := request.verbosity + 1 }
  | .act (.flag item) => .ok { request with flags := request.flags ++ [item] }
  | .act (.mutableName name) =>
      .ok { request with mutableNames := request.mutableNames ++ [name] }
  | .operands words =>
      (readCommand words).map fun understood => { request with command := some understood }
  | .extra word => .ok { request with extras := request.extras ++ [word] }
  | .stuck problem => .error (.misuse .overview problem)

/-- A missing command is reported before words that nobody has a use for. -/
def ProgramRequest.finish (request : ProgramRequest) : Except Stop Arguments :=
  match request.command with
  | none => .error (.misuse .overview (.missingOperand "<command>"))
  | some (command, extras) =>
      match request.extras ++ extras with
      | [] => .ok ⟨request.verbosity, request.flags, request.mutableNames, command⟩
      | words => .error (.misuse .overview (.unrecognized words))

/-- The arguments of a command line. -/
def parse (words : List String) : Except Stop Arguments :=
  match (read programSwitches .tail words).foldlM ProgramRequest.next {} with
  | .error stop => .error stop
  | .ok request => request.finish

end SafeTypes.CommandLine
