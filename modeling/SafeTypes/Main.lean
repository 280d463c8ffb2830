import SafeTypes.Catalog.Shipped
import SafeTypes.Session

/-! The program itself, with the shipped catalog. Log lines carry the time that has
passed since the start. -/
namespace SafeTypes.Session

/-- Whether the environment gives a name a text that is not empty. -/
def isSet (name : String) : IO Bool := do
  pure !((← IO.getEnv name).getD "").isEmpty

def surroundings : IO Report.Surroundings := do
  pure
    { coloursRefused := (← isSet "ANSI_COLORS_DISABLED") || (← isSet "NO_COLOR")
      coloursForced := ← isSet "FORCE_COLOR"
      isDumb := (← IO.getEnv "TERM") == some "dumb"
      isTerminal := ← (← IO.getStdout).isTty }

/-- Writes what a run has to say and returns its status. -/
def perform (words : List String) : IO UInt32 := do
  let started ← IO.monoMsNow
  let palette := Report.Palette.suited (← surroundings)
  let clock := Log.clock (((← IO.monoMsNow) - started) / 1000)
  match run Catalog.shipped palette clock words with
  | .ok transcript =>
      (← IO.getStderr).putStr transcript.stderr
      (← IO.getStdout).putStr transcript.stdout
      pure transcript.status.toUInt32
  | .error missing =>
      (← IO.getStderr).putStrLn missing.message
      pure 1

end SafeTypes.Session

def main (words : List String) : IO UInt32 :=
  SafeTypes.Session.perform words
