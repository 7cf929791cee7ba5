import FrameConsole.Options.Basic
import FrameConsole.Text.ControlSequence

/-!
# Wrong arguments

What can be wrong with the arguments of the program, and how it is reported. A report sets off its
parts by the colours of a terminal. What is written is the report without control sequences, so
that those which the arguments bring along are lost too, with whatever they swallow.

## Main definitions

* `FrameConsole.ValueFault` — why a value does not suit its option.
* `FrameConsole.UsageError` — what is wrong with the arguments.
* `FrameConsole.UsageError.report` — its report.
-/

namespace FrameConsole

/-! ### Faults -/

/-- Why a value does not suit its option. -/
inductive ValueFault where
  /-- A character is asked for, and there is none. -/
  | noCharacter
  /-- A character is asked for, and there are several. -/
  | manyCharacters
  /-- An assignment is asked for, and there is no equals sign. -/
  | noAssignment (value : String)
  /-- The name of an assignment is empty. -/
  | emptyName
  deriving DecidableEq, Repr

/-- The wording of a value's fault. -/
def ValueFault.message : ValueFault → String
  | .noCharacter => "cannot parse char from empty string"
  | .manyCharacters => "too many characters in string"
  | .noAssignment value => "expected NAME=VALUE, got `" ++ value ++ "`"
  | .emptyName => "variable name is empty"

/-- What is wrong with the arguments. -/
inductive UsageError where
  /-- An argument is neither an option nor the value of one. -/
  | unexpectedArgument (shown : String)
  /-- A value is given to a flag. -/
  | unexpectedValue (value : String) (flag : Flag)
  /-- An option lacks its value. -/
  | missingValue (name : OptionName)
  /-- An option is given more than once. -/
  | repeated (name : OptionName)
  /-- A value does not suit its option. -/
  | invalidValue (value : String) (name : OptionName) (fault : ValueFault)
  deriving DecidableEq, Repr

/-! ### Styles -/

/-- How a part of a report is set off on a terminal. -/
inductive Style where
  /-- The word that announces an error: bold and red. -/
  | error
  /-- What is wrong: yellow. -/
  | wrong
  /-- What is to be written as it stands: bold. -/
  | literal
  deriving DecidableEq, Repr

namespace Style

/-- The command by which a terminal changes its colours. -/
def command (parameters : String) : String :=
  String.singleton ControlSequence.escape ++ "[" ++ parameters ++ "m"

/-- The commands that begin a style. -/
def opening : Style → String
  | .error => command "1" ++ command "31"
  | .wrong => command "33"
  | .literal => command "1"

/-- A text in a style. -/
def apply (style : Style) (text : String) : String :=
  style.opening ++ text ++ command "0"

/-- A text in a style, between quotes. -/
def quote (style : Style) (text : String) : String :=
  "'" ++ style.apply text ++ "'"

end Style

/-! ### Reports -/

namespace UsageError

/-- The wording of what is wrong with the arguments, with its styles. -/
def message : UsageError → String
  | .unexpectedArgument shown => "unexpected argument " ++ Style.wrong.quote shown ++ " found"
  | .unexpectedValue value flag =>
    "unexpected value " ++ Style.wrong.quote value ++ " for " ++ Style.literal.quote flag.shown
      ++ " found; no more were expected"
  | .missingValue name =>
    "a value is required for " ++ Style.wrong.quote name.shown ++ " but none was supplied"
  | .repeated name =>
    "the argument " ++ Style.wrong.quote name.shown ++ " cannot be used multiple times"
  | .invalidValue value name fault =>
    "invalid value " ++ Style.wrong.quote value ++ " for " ++ Style.literal.quote name.shown
      ++ ": " ++ fault.message

/-- The report of what is wrong with the arguments, with its styles: the wording, and behind an
empty line where to learn more. -/
def styledReport (e : UsageError) : String :=
  Style.error.apply "error:" ++ " " ++ e.message ++ "\n\nFor more information, try "
    ++ Style.literal.quote Flag.help.shown ++ "."

/-- The report without control sequences, neither those of its styles nor those that the arguments
have brought along. -/
def report (e : UsageError) : String :=
  ControlSequence.strip e.styledReport

end UsageError

end FrameConsole
