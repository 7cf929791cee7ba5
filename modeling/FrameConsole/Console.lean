import FrameConsole.Connection
import FrameConsole.Variables

/-!
# Console

What commands act on: the variables, a connection, and a transcript of tagged lines. A console can
carry something more, of any type, for commands and readers of templates that keep records of their
own.

## Main definitions

* `FrameConsole.Tag`, `FrameConsole.Line` — lines of the transcript.
* `FrameConsole.Console` — the state that commands act on.
* `FrameConsole.Payload` — the parameter that a command is run with.
* `FrameConsole.Command` — names, and what is done under them.
-/

namespace FrameConsole

/-- What a line of the transcript is about. -/
inductive Tag where
  /-- A line that the user gave. -/
  | command
  /-- News of the console itself. -/
  | system
  /-- Something that had no effect. -/
  | warning
  /-- A failure. -/
  | error
  /-- A message that was sent. -/
  | sent
  deriving DecidableEq, Repr

/-- The word for a tag. -/
def Tag.name : Tag → String
  | .command => "command"
  | .system => "system"
  | .warning => "warning"
  | .error => "error"
  | .sent => "sent"

/-- A line of the transcript. -/
structure Line where
  /-- What the line is about. -/
  tag : Tag
  /-- The text of the line. -/
  text : String
  deriving DecidableEq, Repr

/-- A line as it is printed: the word for its tag, a space and its text. -/
def Line.printed (line : Line) : String :=
  line.tag.name ++ " " ++ line.text

/-- The state that commands act on. -/
structure Console (α : Type) where
  /-- The time in milliseconds since 1970. -/
  now : Nat
  /-- The variables that templates refer to. -/
  vars : Variables
  /-- The connection to a server. -/
  connection : Connection
  /-- The lines logged so far, the oldest first. -/
  transcript : List Line
  /-- What commands and readers of templates keep of their own. -/
  extra : α

namespace Console

variable {α : Type}

/-- A console with nothing logged and no session. -/
def fresh (now : Nat) (vars : Variables) (extra : α) : Console α :=
  ⟨now, vars, {}, [], extra⟩

/-- Logs some lines under one tag. -/
def logAll (s : Console α) (tag : Tag) (texts : List String) : Console α :=
  { s with transcript := s.transcript ++ texts.map (Line.mk tag) }

/-- Logs a line. -/
def log (s : Console α) (tag : Tag) (text : String) : Console α :=
  s.logAll tag [text]

/-- The texts of the lines logged under a tag. -/
def linesOf (s : Console α) (tag : Tag) : List String :=
  (s.transcript.filter fun line => line.tag = tag).map Line.text

/-- The scope that the console's variables make at its time. -/
def scope (s : Console α) : Scope :=
  s.vars.scope s.now

end Console

/-! ### Commands -/

/-- The parameter that a command is run with. -/
inductive Payload where
  /-- The parameter as it was typed. -/
  | text (value : String)
  /-- The bytes of the parameter's template. -/
  | binary (value : Bytes)
  deriving DecidableEq, Repr

/-- A payload as text; bytes that are no UTF-8 show as replacement characters. -/
def Payload.toText : Payload → String
  | .text value => value
  | .binary value => Utf8.decodeLossy value

/-- A payload as bytes. -/
def Payload.toBytes : Payload → Bytes
  | .text value => Utf8.encode value
  | .binary value => value

/-- What an action on a console gives: an answer or an error, and the console after it. -/
abbrev Outcome (α ε β : Type) := Except ε β × Console α

/-- A command. -/
structure Command (α : Type) where
  /-- The names that the command is called by. -/
  names : List String
  /-- Whether the parameter is a template, whose bytes the command is run with. -/
  takesTemplate : Bool
  /-- What the command is for, in a few words. -/
  info : String
  /-- What the command does. -/
  run : Payload → Console α → Outcome α CommandError Unit

end FrameConsole
