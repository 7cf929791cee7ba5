import FrameConsole.Commands
import FrameConsole.Options.Request
import FrameConsole.Template.Tree
import FrameConsole.Text.Backspace

/-!
# Program

What the program does for its arguments and its input. It prints the tree of a template, or runs
given lines until one of them fails, or takes lines from its input until that ends and goes on
after failures. Only a line whose backspaces cut a character ends it early. Each line comes with the
time at which it is run.

## Main definitions

* `FrameConsole.Report` — the failure that ends the program.
* `FrameConsole.Ending` — what a run of the program leaves: its status, output and report.
* `FrameConsole.Program.launch` — what happens before any line is run or read.
* `FrameConsole.Program.runLines` — what happens for given lines.
* `FrameConsole.Program.takeLine`, `FrameConsole.Program.takeLines` — what happens for a line of
  input and for all of them.
* `FrameConsole.Program.run` — a whole run.
-/

namespace FrameConsole

/-! ### Endings -/

/-- A failure that ends the program. -/
structure Report where
  /-- What failed. -/
  message : String
  /-- Why it failed. -/
  cause : Option String := none
  deriving DecidableEq, Repr

/-- A text whose lines after the first one are indented as far as the first one is. -/
def indented (text : String) : String :=
  "    " ++ String.ofList (text.toList.flatMap fun c =>
    if c = '\n' then ['\n', ' ', ' ', ' ', ' '] else [c])

/-- The wording of a report. -/
def Report.text (r : Report) : String :=
  match r.cause with
  | none => "Error: " ++ r.message
  | some cause => "Error: " ++ r.message ++ "\n\nCaused by:\n" ++ indented cause

/-- How the program ends. -/
inductive Status where
  /-- It has done its work. -/
  | success
  /-- It has failed. -/
  | failure
  /-- Its arguments are wrong. -/
  | wrongArguments
  /-- It has met a line of input whose backspaces cut a character. -/
  | brokenLine
  deriving DecidableEq, Repr

/-- The number by which the program tells how it has ended. -/
def Status.code : Status → Nat
  | .success => 0
  | .failure => 1
  | .wrongArguments => 2
  | .brokenLine => 101

/-- What a run of the program leaves. -/
structure Ending where
  /-- How it has ended. -/
  status : Status
  /-- What was printed. -/
  output : String
  /-- What was reported. -/
  report : Option String
  deriving DecidableEq, Repr

/-- The transcript as it is printed. -/
def printed (lines : List Line) : String :=
  String.join (lines.map fun line => line.printed ++ "\n")

/-! ### Variables -/

/-- The wording of a fault in hexadecimal digits. -/
def Hex.Fault.message : Hex.Fault → String
  | .oddLength => "Odd number of digits"
  | .notADigit byte offset =>
    "Invalid character " ++ Quoted.char (Char.ofNat byte.toNat) ++ " at position "
      ++ toString offset

namespace Program

/-- The name of the program. -/
def name : String := "socketprompt"

/-- The version of the program. -/
def version : String := "0.1.0"

/-- What the program is for. -/
def purpose : String := "Drive websocket sessions with slash-commands and binary templates"

/-- How an option is described: the option, and its purpose on the next line. -/
def optionHelp (option : OptionName) : String :=
  let usual := match option.usual? with
    | some value => " [default: " ++ value ++ "]"
    | none => ""
  "      " ++ option.shown ++ "\n          " ++ option.purpose ++ usual ++ "\n"

/-- How a flag is described: the flag, and its purpose on the next line. -/
def flagHelp (flag : Flag) : String :=
  "  -" ++ String.singleton flag.letter ++ ", " ++ flag.shown ++ "\n          " ++ flag.purpose
    ++ "\n"

/-- The description of the program and its options. -/
def help : String :=
  purpose ++ "\n\nUsage: " ++ name ++ " [OPTIONS]\n\nOptions:\n"
    ++ String.join (OptionName.all.map optionHelp) ++ String.join (Flag.all.map flagHelp)

/-- The text that a flag asks for. -/
def information : Flag → String
  | .help => help
  | .version => name ++ " " ++ version ++ "\n"

/-- Binds the text variables of the options. -/
def bindTexts (vars : Variables) (assignments : List (String × String)) : Variables :=
  assignments.foldl (fun vars a => vars.define a.1 (.text a.2)) vars

/-- Binds the binary variables of the options; the first one whose digits are wrong is reported. -/
def bindBinaries (vars : Variables) : List (String × String) → Except Report Variables
  | [] => .ok vars
  | (name, digits) :: assignments =>
    match Hex.decode (Utf8.encode digits) with
    | .ok bytes => bindBinaries (vars.define name (.binary bytes)) assignments
    | .error fault =>
      .error ⟨"invalid hex for binary variable `" ++ name ++ "`", some fault.message⟩

/-- The variables of a run: the built-in functions, then text variables, then binary ones. -/
def varsOf (o : Options) : Except Report Variables :=
  bindBinaries (bindTexts .initial o.textVariables) o.binaryVariables

/-! ### Lines -/

/-- The prompt of a run. -/
def prompt (o : Options) : Prompt Unit :=
  { registry := .standard, settings := o.settings }

/-- Runs lines, each at its time, until one of them fails. -/
def runLines (p : Prompt Unit) : List (Nat × String) → Console Unit → Outcome Unit Report Unit
  | [], s => (.ok (), s)
  | (now, line) :: lines, s =>
    match p.silent line { s with now := now } with
    | (.ok (), s) => runLines p lines s
    | (.error e, s) => (.error ⟨"command failed: " ++ line, some e.message⟩, s)

/-- Takes a line of input at its time. A failure is logged and has no other effect. -/
def takeLine (p : Prompt Unit) (s : Console Unit) (given : Nat × String) : Console Unit :=
  match p.submit given.2 { s with now := given.1 } with
  | (.ok (), s) => s
  | (.error e, s) => s.log .error e.message

/-- Takes lines of input, each at its time, up to one that has come to nothing. The answer tells how
the program ends, and what it leaves. -/
def takeLines (p : Prompt Unit) : List (Nat × Option String) → Console Unit → Status × Console Unit
  | [], s => (.success, s)
  | (_, none) :: _, s => (.brokenLine, s)
  | (now, some line) :: lines, s => takeLines p lines (takeLine p s (now, line))

/-- Where every line is there, all of them are taken. -/
theorem takeLines_map_some (p : Prompt Unit) (lines : List (Nat × String)) (s : Console Unit) :
    takeLines p (lines.map fun line => (line.1, some line.2)) s =
      (.success, lines.foldl (takeLine p) s) := by
  induction lines generalizing s with
  | nil => rfl
  | cons line lines ih => exact ih (takeLine p s line)

/-- What the user is told before the first line of input. -/
def banner (settings : Settings) : String :=
  "Type " ++ String.singleton settings.trigger
    ++ "connect <url> to open a session, Ctrl-D to quit"

/-- The line of some characters, given with the last one first: what its backspaces leave of it,
unless they cut a character. -/
def lineOf? (reversed : List Char) : Option String :=
  (withBackspaces? reversed.reverse).map String.ofList

/-- A line of input that a line feed has ended, given with its last character first. A carriage
return before the line feed belongs to the end of the line. -/
def endedLine? (reversed : List Char) : Option String :=
  match reversed with
  | '\r' :: rest => lineOf? rest
  | _ => lineOf? reversed

/-- The lines of the rest of an input, given the characters of the current line so far, of which
the last one stands first. -/
def linesAfter (reversed : List Char) : List Char → List (Option String)
  | [] => if reversed.isEmpty then [] else [lineOf? reversed]
  | c :: cs =>
    if c = '\n' then endedLine? reversed :: linesAfter [] cs else linesAfter (c :: reversed) cs

/-- The lines of an input, with nothing for a line whose backspaces cut a character. -/
def inputLines (input : String) : List (Option String) :=
  linesAfter [] input.toList

/-! ### Runs -/

/-- What the program has come to before it runs or reads any line. -/
inductive Launch where
  /-- It has ended. -/
  | ended (ending : Ending)
  /-- It runs lines. -/
  | running (p : Prompt Unit) (lines : List String) (s : Console Unit)
  /-- It takes lines. -/
  | waiting (p : Prompt Unit) (s : Console Unit)

/-- Prints the tree of a template. -/
def dump (source : String) : Ending :=
  match Template.parse source with
  | .ok template => ⟨.success, template.toJson.pretty ++ "\n", none⟩
  | .error e => ⟨.failure, "", some (Report.text ⟨e.message, none⟩)⟩

/-- Gets ready to run the lines of the options, or to take lines if there are none. -/
def start (now : Nat) (o : Options) (vars : Variables) : Launch :=
  let s := Console.fresh now vars ()
  match o.lines with
  | [] => .waiting (prompt o) (s.log .system (banner o.settings))
  | lines => .running (prompt o) lines s

/-- What the program leaves when lines have been run. -/
def endingOf : Outcome Unit Report Unit → Ending
  | (.ok (), s) => ⟨.success, printed s.transcript, none⟩
  | (.error r, s) => ⟨.failure, printed s.transcript, some r.text⟩

/-- Does what the options ask for before any line is run or read. -/
def launchWith (now : Nat) (o : Options) : Launch :=
  match o.dumpTree with
  | some source => .ended (dump source)
  | none =>
    match varsOf o with
    | .error r => .ended ⟨.failure, "", some r.text⟩
    | .ok vars => start now o vars

/-- Does what the arguments ask for before any line is run or read. -/
def launch (now : Nat) (arguments : List String) : Launch :=
  match Request.ofArguments arguments with
  | .error e => .ended ⟨.wrongArguments, "", some e.report⟩
  | .ok (.inform flag) => .ended ⟨.success, information flag, none⟩
  | .ok (.run o) => launchWith now o

/-- A whole run of the program, all of it at one time. -/
def run (now : Nat) (arguments : List String) (input : String) : Ending :=
  match launch now arguments with
  | .ended ending => ending
  | .running p lines s => endingOf (runLines p (lines.map fun line => (now, line)) s)
  | .waiting p s =>
    match takeLines p ((inputLines input).map fun line => (now, line)) s with
    | (status, s) => ⟨status, printed s.transcript, none⟩

end FrameConsole.Program
