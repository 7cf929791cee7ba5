import FrameConsole.Prompt
import Mathlib.Tactic.Lemma
import Mathlib.Tactic.SplitIfs

/-!
# Entry points of a prompt

The four ways to hand a line to a prompt come to the same: a command is run by its name, after an
echo of the line or without one, or nothing happens. Which of these it is, and with which name and
parameter, depends on the line and the settings only.

## Main definitions

* `FrameConsole.Entry`, `FrameConsole.Prompt.enter` — the ways to hand over a line.
* `FrameConsole.Invocation` — the name and the parameter of a command, and the echo before it.
* `FrameConsole.Settings.invocation?` — what a line invokes.

## Main results

* `FrameConsole.Prompt.enter_eq` — handing over a line runs the command that the line invokes.
-/

namespace FrameConsole

variable {α : Type}

/-- The ways to hand a line to a prompt. -/
inductive Entry where
  /-- A command with its parameter, without the trigger. -/
  | run
  /-- A line with the trigger. -/
  | silent
  /-- A line with the trigger, which is logged. -/
  | loud
  /-- A line from the user. -/
  | submit
  deriving DecidableEq, Repr

/-- Hands a line to a prompt. -/
def Prompt.enter (p : Prompt α) : Entry → String → Console α → Outcome α ConsoleError Unit
  | .run => p.run
  | .silent => p.silent
  | .loud => p.loud
  | .submit => p.submit

/-! ## Invocations -/

/-- What a line invokes. -/
structure Invocation where
  /-- The name of the command. -/
  name : String
  /-- The parameter of the command. -/
  parameter : String
  /-- The line that is logged before the command is run, if one is. -/
  echo : Option String
  deriving DecidableEq, Repr

/-- What a command given with its parameter invokes. -/
def Invocation.ofCommand (command : String) (echo : Option String) : Invocation :=
  ⟨(splitCommand command).1, (splitCommand command).2, echo⟩

/-- What a line invokes. A blank line from the user invokes nothing, and any other line from the
user that names no command invokes the default command. -/
def Settings.invocation? (settings : Settings) : Entry → String → Option Invocation
  | .run, line => some (.ofCommand line none)
  | .silent, line => some (.ofCommand (withoutTrigger line) none)
  | .loud, line => some (.ofCommand (withoutTrigger line) (some line))
  | .submit, line =>
    if isBlankLine line then none
    else if settings.isCommand line then some (.ofCommand (withoutTrigger line) (some line))
    else
      some (.ofCommand (withoutTrigger (settings.defaultLine line))
        (some (settings.defaultLine line)))

/-- The console with the echo logged. -/
def Invocation.echoTo (i : Invocation) (s : Console α) : Console α :=
  match i.echo with
  | some line => s.log .command line
  | none => s

/-- An echo goes to the transcript and nowhere else. -/
lemma Invocation.connection_echoTo (i : Invocation) (s : Console α) :
    (i.echoTo s).connection = s.connection := by
  unfold Invocation.echoTo
  split <;> rfl

/-- Handing over a line runs the command that the line invokes, behind the echo. -/
lemma Prompt.enter_eq (p : Prompt α) (entry : Entry) (line : String) (s : Console α) :
    p.enter entry line s =
      match p.settings.invocation? entry line with
      | none => (.ok (), s)
      | some i => p.runCommand i.name i.parameter (i.echoTo s) := by
  cases entry with
  | submit =>
    rw [Prompt.enter, Prompt.submit, Settings.invocation?]
    split_ifs <;> rfl
  | _ => rfl

end FrameConsole
