import FrameConsole.Program
import Std.Time.DateTime.Timestamp

/-!
# Command line

The program at work: it reads the clock, hands its arguments and its input to
`FrameConsole.Program`, and prints what comes of them. Lines are run and taken one at a time, each
with a reading of the clock, and what each of them logs is printed before the next one.
-/

namespace FrameConsole

/-- The time in milliseconds since 1970. -/
def currentMillis : IO Nat := do
  let now ← Std.Time.Timestamp.now
  return now.toMillisecondsSinceUnixEpoch.val.toNat

/-- Prints what has been logged and forgets it. -/
def flushTranscript (s : Console Unit) : IO (Console Unit) := do
  IO.print (printed s.transcript)
  (← IO.getStdout).flush
  return { s with transcript := [] }

/-- Prints what the program leaves, and answers with its status. -/
def conclude (ending : Ending) : IO Status := do
  IO.print ending.output
  for report in ending.report do
    IO.eprintln report
  return ending.status

/-- Runs lines until one of them fails, and answers with the status. -/
def runGiven (p : Prompt Unit) : List String → Console Unit → IO Status
  | [], s => conclude (Program.endingOf (.ok (), s))
  | line :: lines, s => do
    let s ← flushTranscript s
    let now ← currentMillis
    match Program.runLines p [(now, line)] s with
    | (.ok (), s) => runGiven p lines s
    | (.error r, s) => conclude (Program.endingOf (.error r, s))

/-- Takes lines until the input ends or one of them is broken, and answers with the status. -/
partial def takeInput (p : Prompt Unit) (s : Console Unit) : IO Status := do
  let s ← flushTranscript s
  let input ← (← IO.getStdin).getLine
  if input.isEmpty then return .success
  let now ← currentMillis
  let lines := (Program.inputLines input).map fun line => (now, line)
  let (status, s) := Program.takeLines p lines s
  if status = .success then takeInput p s else return status

end FrameConsole

/-- Runs the program. -/
def main (arguments : List String) : IO UInt32 := do
  let status ← match FrameConsole.Program.launch (← FrameConsole.currentMillis) arguments with
    | .ended ending => FrameConsole.conclude ending
    | .running p lines s => FrameConsole.runGiven p lines s
    | .waiting p s => FrameConsole.takeInput p s
  return UInt32.ofNat status.code
