import FrameConsole.Prompt

/-!
# Command-line options

The options and flags of the program and the values that are given for them.

## Main definitions

* `FrameConsole.OptionName` — the options that take a value, with their words and placeholders.
* `FrameConsole.Flag` — the flags, which take no value.
* `FrameConsole.Options` — the values given.
-/

namespace FrameConsole

/-! ### Options with values -/

/-- The options that take a value. -/
inductive OptionName where
  /-- The trigger character. -/
  | trigger
  /-- The default command. -/
  | defaultCommand
  /-- A text variable. -/
  | textVariable
  /-- A binary variable. -/
  | binaryVariable
  /-- How much the program reports about its own work. -/
  | logLevel
  /-- A line to run. -/
  | line
  /-- A template whose tree is to be printed. -/
  | dumpTree
  deriving DecidableEq, Repr

namespace OptionName

/-- All options. -/
def all : List OptionName :=
  [.trigger, .defaultCommand, .textVariable, .binaryVariable, .logLevel, .line, .dumpTree]

/-- The word of an option, which follows two dashes. -/
def word : OptionName → String
  | .trigger => "prefix"
  | .defaultCommand => "default-command"
  | .textVariable => "var"
  | .binaryVariable => "bytes"
  | .logLevel => "log-level"
  | .line => "eval"
  | .dumpTree => "dump-ast"

/-- What stands for the value of an option in messages. -/
def placeholder : OptionName → String
  | .trigger => "PREFIX"
  | .defaultCommand => "DEFAULT_COMMAND"
  | .textVariable => "NAME=VALUE"
  | .binaryVariable => "NAME=HEX"
  | .logLevel => "LOG_LEVEL"
  | .line => "LINE"
  | .dumpTree => "EXPR"

/-- Whether an option may be given more than once. -/
def isRepeatable : OptionName → Bool
  | .textVariable | .binaryVariable | .line => true
  | _ => false

/-- An option as messages show it. -/
def shown (name : OptionName) : String :=
  "--" ++ name.word ++ " <" ++ name.placeholder ++ ">"

/-- What an option is for. -/
def purpose : OptionName → String
  | .trigger => "Character that marks a line as a command"
  | .defaultCommand => "Command that receives lines typed without the prefix"
  | .textVariable => "Define a text variable for this session"
  | .binaryVariable => "Define a binary variable from hex digits"
  | .logLevel => "Log filter, e.g. `debug` or `socketprompt=trace` (defaults to RUST_LOG)"
  | .line => "Run a command line and exit instead of starting the prompt"
  | .dumpTree => "Print the parsed template expression as JSON and exit"

/-- The value that an option has if it is not given. -/
def usual? : OptionName → Option String
  | .trigger => some (String.singleton ({} : Settings).trigger)
  | .defaultCommand => some ({} : Settings).defaultCommand
  | _ => none

/-- The option of a word. -/
def ofWord? (word : String) : Option OptionName :=
  all.find? fun name => name.word == word

end OptionName

/-! ### Flags -/

/-- The flags, which take no value and ask for nothing but a text. -/
inductive Flag where
  /-- The description of the program and its options. -/
  | help
  /-- The version of the program. -/
  | version
  deriving DecidableEq, Repr

namespace Flag

/-- All flags. -/
def all : List Flag :=
  [.help, .version]

/-- The word of a flag, which follows two dashes. -/
def word : Flag → String
  | .help => "help"
  | .version => "version"

/-- The letter of a flag, which follows one dash. -/
def letter : Flag → Char
  | .help => 'h'
  | .version => 'V'

/-- What a flag is for. -/
def purpose : Flag → String
  | .help => "Print help"
  | .version => "Print version"

/-- A flag as messages show it. -/
def shown (flag : Flag) : String :=
  "--" ++ flag.word

/-- The flag of a word. -/
def ofWord? (word : String) : Option Flag :=
  all.find? fun flag => flag.word == word

/-- The flag of a letter. -/
def ofLetter? (letter : Char) : Option Flag :=
  all.find? fun flag => flag.letter == letter

end Flag

/-! ### Values given -/

/-- The values of the options given. -/
structure Options where
  /-- The trigger character. -/
  trigger : Option Char := none
  /-- The default command. -/
  defaultCommand : Option String := none
  /-- Names and texts of text variables, in the order given. -/
  textVariables : List (String × String) := []
  /-- Names and hexadecimal digits of binary variables, in the order given. -/
  binaryVariables : List (String × String) := []
  /-- How much the program reports about its own work. -/
  logLevel : Option String := none
  /-- The lines to run, in the order given. -/
  lines : List String := []
  /-- The source of the template whose tree is to be printed. -/
  dumpTree : Option String := none
  deriving DecidableEq, Repr

/-- How lines are taken, by the options given and the usual settings. -/
def Options.settings (o : Options) : Settings :=
  let usual : Settings := {}
  ⟨o.trigger.getD usual.trigger, o.defaultCommand.getD usual.defaultCommand⟩

end FrameConsole
