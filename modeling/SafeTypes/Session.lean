import SafeTypes.CommandLine.Arguments
import SafeTypes.Package.Version

/-! One run of the program, from its words to its exit status and its output. -/
namespace SafeTypes

/-- What a carried out invocation leaves. The log is complete, whatever is shown of it. -/
structure Execution where
  status : Nat
  stdout : String
  log : Log
  deriving DecidableEq

namespace Execution

/-- A failed run writes nothing and ends its log with the failure. -/
def failed (status : Nat) (log : Log) (diagnostic : Diagnostic) : Execution :=
  ⟨status, "", log ++ [.failed diagnostic]⟩

end Execution

/-- What a command writes about a registry. -/
def CommandLine.Command.report (registry : Registry) (palette : Report.Palette) :
    CommandLine.Command → String
  | .list format showUnsafe =>
      if showUnsafe then Report.unsafeTypes registry palette format
      else Report.safeTypes registry palette format
  | .lookup names => Report.answers registry palette names

/-- Arguments with all their values. -/
structure Invocation where
  verbosity : Nat
  flags : List String
  mutableNames : List String
  command : CommandLine.Command
  deriving DecidableEq

/-- Status 2 stands for a malformed flag, and status 1 for a defect of the catalog. The
flags are read first. -/
def Invocation.execute (catalog : Catalog) (palette : Report.Palette)
    (invocation : Invocation) : Execution :=
  match Flags.parse invocation.flags with
  | .error fault => .failed 2 [] fault.diagnostic
  | .ok flags =>
      match Registry.assemble catalog flags (.ofFlags flags invocation.mutableNames) with
      | (.error refusal, log) => .failed 1 log refusal.diagnostic
      | (.ok registry, log) => ⟨0, invocation.command.report registry palette, log⟩

/-- A value that is missing where it is needed. It breaks a run off. -/
inductive MissingValue where
  | flag
  | mutableName
  deriving DecidableEq

def MissingValue.message : MissingValue → String
  | .flag => "'list' object has no attribute 'strip'"
  | .mutableName => "unhashable type: 'list'"

namespace CommandLine.Arguments

/-- The values in front of the first missing one. -/
def given (values : List (Option String)) : List String :=
  (values.takeWhile Option.isSome).filterMap id

/-- The arguments up to what is missing. -/
def invocation (arguments : Arguments) : Invocation :=
  ⟨arguments.verbosity, given arguments.flags, given arguments.mutableNames, arguments.command⟩

/-- The missing value that breaks the run off. The flags are read in order before the
names of mutable types, and a malformed flag ends the run before what comes after it. -/
def missing? (arguments : Arguments) : Option MissingValue :=
  match Flags.parse (given arguments.flags) with
  | .error _ => none
  | .ok _ =>
      if none ∈ arguments.flags then some .flag
      else if none ∈ arguments.mutableNames then some .mutableName
      else none

def execute (catalog : Catalog) (palette : Report.Palette) (arguments : Arguments) :
    Except MissingValue Execution :=
  match arguments.missing? with
  | some missing => .error missing
  | none => .ok (arguments.invocation.execute catalog palette)

end CommandLine.Arguments

/-- What the outside sees of a run. -/
structure Transcript where
  status : Nat
  stdout : String
  stderr : String
  deriving DecidableEq

/-- Shows as much of the log as the verbosity asks for. -/
def Execution.transcript (execution : Execution) (clock : String) (verbosity : Nat) :
    Transcript :=
  ⟨execution.status, execution.stdout, (execution.log.shown verbosity).lines clock⟩

/-- Help and version are successful answers. A misused command line has status 2 and
shows the usage of the page that was misused. -/
def CommandLine.Stop.transcript : CommandLine.Stop → Transcript
  | .help page => ⟨0, page.help, ""⟩
  | .version => ⟨0, CommandLine.Page.program ++ " " ++ Package.version ++ "\n", ""⟩
  | .misuse page problem =>
      ⟨2, "", page.usage ++ page.title ++ ": error: " ++ problem.message ++ "\n"⟩

/-- Runs the program on the words of a command line. -/
def Session.run (catalog : Catalog) (palette : Report.Palette) (clock : String)
    (words : List String) : Except MissingValue Transcript :=
  match CommandLine.parse words with
  | .error stop => .ok stop.transcript
  | .ok arguments =>
      (arguments.execute catalog palette).map fun execution =>
        execution.transcript clock arguments.verbosity

end SafeTypes
