import FrameConsole.Template.Fault
import FrameConsole.Value

/-!
# Errors

Why evaluating a template or running a command fails. Errors name their causes; the wording is one
function for each kind of error.

## Main definitions

* `FrameConsole.EvalError` — a template cannot be evaluated.
* `FrameConsole.CommandError` — a command refuses to do its work.
* `FrameConsole.ConsoleError` — a line fails, at any of the stages of running it.
-/

namespace FrameConsole

/-- Why a template cannot be evaluated. -/
inductive EvalError where
  /-- A call of a name that is not bound. -/
  | unknownInstruction (name : String)
  /-- A reference to a name that is not bound. -/
  | unknownVariable (name : String)
  /-- A value of another kind than one of those asked for. -/
  | invalidDataType (name : String) (expected : List DataType)
  /-- A call fails. -/
  | function (cause : FunctionError)
  deriving DecidableEq, Repr

/-- The wording of a failed evaluation. -/
def EvalError.message : EvalError → String
  | .unknownInstruction name => "unknown instruction: " ++ name
  | .unknownVariable name => "unknown variable: " ++ name
  | .invalidDataType name expected =>
    "invalid data type for `" ++ name ++ "`, expected " ++ DataType.alternatives expected
  | .function cause => cause.message

/-- Why a command refuses to do its work. -/
inductive CommandError where
  /-- No session is open. -/
  | notConnected
  /-- A session is open already. -/
  | alreadyConnected (url : String)
  /-- A text is no address of a server. -/
  | invalidUrl (url : String)
  /-- A command lacks what it needs. -/
  | missingArgument (command argument : String)
  deriving DecidableEq, Repr

/-- The wording of a command's refusal. -/
def CommandError.message : CommandError → String
  | .notConnected => "no open connection"
  | .alreadyConnected url => "already connected to " ++ url
  | .invalidUrl url => "invalid websocket url: `" ++ url ++ "`"
  | .missingArgument command argument => "/" ++ command ++ " requires " ++ argument

/-- Why a line fails. -/
inductive ConsoleError where
  /-- No command has the name. -/
  | unknownCommand (name : String)
  /-- The parameter is no template. -/
  | malformed (cause : SyntaxError)
  /-- The template of the parameter cannot be evaluated. -/
  | evaluation (cause : EvalError)
  /-- The command refuses. -/
  | command (cause : CommandError)
  deriving DecidableEq, Repr

/-- The wording of a failed line. -/
def ConsoleError.message : ConsoleError → String
  | .unknownCommand name => "unknown command: " ++ name
  | .malformed cause => cause.message
  | .evaluation cause => cause.message
  | .command cause => cause.message

end FrameConsole
