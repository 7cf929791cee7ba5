import FrameConsole.Evaluation
import FrameConsole.Registry
import FrameConsole.Template.Reader
import FrameConsole.Text.Blank

/-!
# Prompt

How a line becomes the run of a command. A line that starts with the trigger character names a
command, up to its first space, and gives its parameter after that space; any other line is the
parameter of the default command. Lines that the user submits are logged before anything else
happens.

## Main definitions

* `FrameConsole.Settings` — the trigger character and the default command.
* `FrameConsole.Prompt` — settings, commands, and a reader of templates.
* `FrameConsole.Prompt.runCommand` — runs a command by its name.
* `FrameConsole.Prompt.run`, `FrameConsole.Prompt.silent`, `FrameConsole.Prompt.loud`,
  `FrameConsole.Prompt.submit` — run a line, each with more of the rules above.
-/

namespace FrameConsole

/-! ### Lines -/

/-- How lines are taken. -/
structure Settings where
  /-- The character that a line with a command starts with. -/
  trigger : Char := '/'
  /-- The command of all other lines. -/
  defaultCommand : String := "send"
  deriving DecidableEq, Repr

/-- Whether a line names a command. -/
def Settings.isCommand (settings : Settings) (line : String) : Bool :=
  line.toList.head? == some settings.trigger

/-- The line that gives a line to the default command. -/
def Settings.defaultLine (settings : Settings) (line : String) : String :=
  String.singleton settings.trigger ++ settings.defaultCommand ++ " " ++ line

/-- The name and the parameter of a command: what stands before the first space and what stands
after it, or everything and nothing if there is no space. -/
def splitCommand (command : String) : String × String :=
  (String.ofList (command.toList.takeWhile (· ≠ ' ')),
    String.ofList ((command.toList.dropWhile (· ≠ ' ')).drop 1))

/-- A line without its first character. -/
def withoutTrigger (line : String) : String :=
  String.ofList (line.toList.drop 1)

/-! ### Prompts -/

/-- What is needed to run lines. -/
structure Prompt (α : Type) where
  /-- The commands that lines can name. -/
  registry : Registry α
  /-- Reads a template; readers may keep records of their own. -/
  read : String → α → Except SyntaxError Template × α := fun source extra =>
    (Template.parse source, extra)
  /-- How lines are taken. -/
  settings : Settings := {}

namespace Prompt

variable {α : Type}

/-- The bytes of a template given by its source. -/
def evaluate (p : Prompt α) (source : String) (s : Console α) : Outcome α ConsoleError Bytes :=
  match p.read source s.extra with
  | (.error e, extra) => (.error (.malformed e), { s with extra := extra })
  | (.ok template, extra) =>
    match template.eval s.scope with
    | .error e => (.error (.evaluation e), { s with extra := extra })
    | .ok bytes => (.ok bytes, { s with extra := extra })

/-- Runs a command with a payload. -/
def perform (command : Command α) (payload : Payload) (s : Console α) :
    Outcome α ConsoleError Unit :=
  match command.run payload s with
  | (.ok (), s) => (.ok (), s)
  | (.error e, s) => (.error (.command e), s)

/-- Runs the command of a name. Its parameter is evaluated first if the command takes a template,
and handed over as it is if not. -/
def runCommand (p : Prompt α) (name parameter : String) (s : Console α) :
    Outcome α ConsoleError Unit :=
  match p.registry.find? name with
  | none => (.error (.unknownCommand name), s)
  | some command =>
    if command.takesTemplate then
      match p.evaluate parameter s with
      | (.error e, s) => (.error e, s)
      | (.ok bytes, s) => perform command (.binary bytes) s
    else perform command (.text parameter) s

/-- Runs a command given with its parameter. -/
def run (p : Prompt α) (command : String) (s : Console α) : Outcome α ConsoleError Unit :=
  p.runCommand (splitCommand command).1 (splitCommand command).2 s

/-- Runs a line whose first character is the trigger. -/
def silent (p : Prompt α) (line : String) (s : Console α) : Outcome α ConsoleError Unit :=
  p.run (withoutTrigger line) s

/-- Logs a line whose first character is the trigger, and runs it. -/
def loud (p : Prompt α) (line : String) (s : Console α) : Outcome α ConsoleError Unit :=
  p.silent line (s.log .command line)

/-- Takes a line from the user. A blank line does nothing. -/
def submit (p : Prompt α) (line : String) (s : Console α) : Outcome α ConsoleError Unit :=
  if isBlankLine line then (.ok (), s)
  else if p.settings.isCommand line then p.loud line s
  else p.loud (p.settings.defaultLine line) s

end FrameConsole.Prompt
