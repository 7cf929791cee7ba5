import FrameConsole.Options.Usage

/-!
# Reading the arguments

How options are read off the arguments of the program. An option has its value either behind an
equals sign or in the argument after it. A value that stands in an argument of its own is looked at
only when the next known option comes or the arguments end, so that an unknown argument is reported
first; a value behind an equals sign is looked at where it stands.

## Main definitions

* `FrameConsole.Options.add` — adds the value of an option.
* `FrameConsole.Request.ofArguments` — what the arguments ask for.
-/

namespace FrameConsole

/-! ### Values -/

/-- Reads a value that has to be one character. -/
def readCharacter (value : String) : Except ValueFault Char :=
  match value.toList with
  | [] => .error .noCharacter
  | [c] => .ok c
  | _ => .error .manyCharacters

/-- Reads a name and a value with an equals sign between them. The first equals sign counts. -/
def readAssignment (value : String) : Except ValueFault (String × String) :=
  match value.toList.dropWhile (· ≠ '=') with
  | [] => .error (.noAssignment value)
  | _ :: content =>
    match value.toList.takeWhile (· ≠ '=') with
    | [] => .error .emptyName
    | name => .ok (String.ofList name, String.ofList content)

/-- Reads a value in some way and adds it to the options. -/
def Options.addBy {β : Type} (name : OptionName) (value : String)
    (read : String → Except ValueFault β) (add : β → Options) : Except UsageError Options :=
  match read value with
  | .ok content => .ok (add content)
  | .error fault => .error (.invalidValue value name fault)

/-- Whether an option that may be given once has been given. -/
def Options.has (o : Options) : OptionName → Bool
  | .trigger => o.trigger.isSome
  | .defaultCommand => o.defaultCommand.isSome
  | .logLevel => o.logLevel.isSome
  | .dumpTree => o.dumpTree.isSome
  | _ => false

/-- Adds the value of an option. -/
def Options.add (o : Options) (name : OptionName) (value : String) : Except UsageError Options :=
  if !name.isRepeatable && o.has name then .error (.repeated name)
  else
    match name with
    | .trigger => addBy name value readCharacter fun c => { o with trigger := some c }
    | .defaultCommand => .ok { o with defaultCommand := some value }
    | .textVariable =>
      addBy name value readAssignment fun a => { o with textVariables := o.textVariables ++ [a] }
    | .binaryVariable =>
      addBy name value readAssignment fun a =>
        { o with binaryVariables := o.binaryVariables ++ [a] }
    | .logLevel => .ok { o with logLevel := some value }
    | .line => .ok { o with lines := o.lines ++ [value] }
    | .dumpTree => .ok { o with dumpTree := some value }

/-! ### Arguments -/

/-- An argument by its form. -/
inductive Word where
  /-- Two dashes alone, behind which no argument is an option. -/
  | terminator
  /-- A word behind two dashes, with what follows its equals sign. -/
  | long (word : String) (value : Option String)
  /-- Letters behind a dash, of which the first one counts. -/
  | short (letter : Char)
  /-- Anything else. -/
  | plain
  deriving DecidableEq, Repr

/-- The form of an argument. -/
def Word.ofArgument (argument : String) : Word :=
  match argument.toList with
  | ['-', '-'] => .terminator
  | '-' :: '-' :: rest =>
    .long (String.ofList (rest.takeWhile (· ≠ '=')))
      (match rest.dropWhile (· ≠ '=') with
      | [] => none
      | _ :: value => some (String.ofList value))
  | '-' :: letter :: _ => .short letter
  | _ => .plain

/-- An option whose value is still to come or to be looked at. -/
inductive Pending where
  /-- There is none. -/
  | nothing
  /-- The option's value may be the next argument. -/
  | awaiting (name : OptionName)
  /-- The option's value has been found. -/
  | filled (name : OptionName) (value : String)
  deriving DecidableEq, Repr

/-- Adds the option that is pending. -/
def Pending.settle (pending : Pending) (o : Options) : Except UsageError Options :=
  match pending with
  | .nothing => .ok o
  | .awaiting name => .error (.missingValue name)
  | .filled name value => o.add name value

/-- What the arguments ask for. -/
inductive Request where
  /-- The text of a flag. -/
  | inform (flag : Flag)
  /-- A run of the program. -/
  | run (options : Options)
  deriving DecidableEq, Repr

/-- Reads arguments, given the options before them and the one that is pending. -/
def Request.ofArgumentsAfter (o : Options) (pending : Pending) :
    List String → Except UsageError Request
  | [] => (pending.settle o).map Request.run
  | argument :: arguments =>
    match Word.ofArgument argument with
    | .terminator =>
      match arguments with
      | [] => (pending.settle o).map Request.run
      | next :: _ => .error (.unexpectedArgument next)
    | .long word value =>
      match OptionName.ofWord? word with
      | some name =>
        match pending.settle o with
        | .error e => .error e
        | .ok o =>
          match value with
          | none => ofArgumentsAfter o (.awaiting name) arguments
          | some value =>
            match o.add name value with
            | .error e => .error e
            | .ok o => ofArgumentsAfter o .nothing arguments
      | none =>
        match Flag.ofWord? word with
        | some flag =>
          match value with
          | none => (pending.settle o).map fun _ => .inform flag
          | some value => .error (.unexpectedValue value flag)
        | none => .error (.unexpectedArgument ("--" ++ word))
    | .short letter =>
      match Flag.ofLetter? letter with
      | some flag => (pending.settle o).map fun _ => .inform flag
      | none => .error (.unexpectedArgument (String.ofList ['-', letter]))
    | .plain =>
      match pending with
      | .awaiting name => ofArgumentsAfter o (.filled name argument) arguments
      | _ => .error (.unexpectedArgument argument)

/-- Reads the arguments of the program. -/
def Request.ofArguments (arguments : List String) : Except UsageError Request :=
  ofArgumentsAfter {} .nothing arguments

end FrameConsole
