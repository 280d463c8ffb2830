import SafeTypes.Diagnostic
import SafeTypes.SafeType

/-! The record of what happened while a registry was made. -/
namespace SafeTypes

/-- The levels, from the least to the most urgent. -/
inductive Log.Level where
  | debug
  | info
  | error
  deriving DecidableEq

inductive Log.Event where
  /-- A record took the place of another. -/
  | overriding (previous record : SafeType)
  /-- A roster was closed with so many types. -/
  | closed (count : Nat)
  /-- A registry was assembled, with so many of its types known to be immutable. -/
  | assembled (total immutable : Nat)
  /-- A fault ended the run. -/
  | failed (diagnostic : Diagnostic)
  deriving DecidableEq

/-- The events in the order in which they happened. -/
abbrev Log := List Log.Event

namespace Log

/-- A level in five places, filled up with blanks. -/
def Level.column : Level → String
  | .debug => "DEBUG"
  | .info => "INFO "
  | .error => "ERROR"

def Level.name : Level → String
  | .debug => "DEBUG"
  | .info => "INFO"
  | .error => "ERROR"

namespace Event

def level : Event → Level
  | .overriding _ _ => .debug
  | .closed _ => .debug
  | .assembled _ _ => .info
  | .failed _ => .error

/-- The part of the program that speaks. -/
def source : Event → String
  | .overriding _ _ => "threadsafety_registry.builder"
  | .closed _ => "threadsafety_registry.builder"
  | .assembled _ _ => "threadsafety_registry.well_known"
  | .failed _ => "threadsafety_registry"

def message : Event → String
  | .overriding previous record => "Overriding " ++ previous.render ++ " with " ++ record.render
  | .closed count =>
      "Built thread-safe type table with " ++ String.ofList (Text.decimal count) ++ " entries"
  | .assembled total immutable =>
      "Assembled " ++ String.ofList (Text.decimal total) ++ " known thread-safe types (" ++
        String.ofList (Text.decimal immutable) ++ " from the immutable-types table)"
  | .failed diagnostic => diagnostic.render

/-- `LEVEL source: message`. -/
def render (event : Event) : String :=
  event.level.name ++ " " ++ event.source ++ ": " ++ event.message

/-- One entry of the log as the terminal shows it, behind the time of day. -/
def line (clock : String) (event : Event) : String :=
  clock ++ " [" ++ event.level.column ++ "] " ++ event.source ++ ": " ++ event.message ++ "\n"

end Event

/-- A level is shown from a verbosity on. Errors are always shown. -/
def Level.isShown (verbosity : Nat) : Level → Bool
  | .error => true
  | .info => 1 ≤ verbosity
  | .debug => 2 ≤ verbosity

/-- The events that are shown at a verbosity, in their order. -/
def shown (verbosity : Nat) (log : Log) : Log :=
  log.filter fun event => event.level.isShown verbosity

/-- Two digits each for the hours, the minutes and the seconds. -/
def clock (seconds : Nat) : String :=
  let twoDigits (n : Nat) : List Char := Text.padded 2 (Int.ofNat n)
  String.ofList (twoDigits (seconds / 3600 % 24) ++ ':' :: twoDigits (seconds / 60 % 60) ++
    ':' :: twoDigits (seconds % 60))

/-- The lines of a log, each behind the same time of day. -/
def lines (clock : String) (log : Log) : String :=
  String.join (log.map (Event.line clock))

end Log

end SafeTypes
