import FrameConsole.Value

/-!
# Built-in functions

The functions that every session starts with. Each checks the number of its arguments first and
then the arguments from left to right, the kind of one before its range.

## Main definitions

* `FrameConsole.byteRange`, `FrameConsole.charRange` — consecutive bytes, consecutive characters.
* `FrameConsole.repeatText` — a text several times.
* `FrameConsole.currentTime` — the time in milliseconds.
* `FrameConsole.builtins` — all of them under their names, in the order in which they are bound.
-/

namespace FrameConsole

/-! ### Checks -/

/-- Refuses a list of arguments whose length is not between the bounds. -/
def checkArity (name : String) (least most : Nat) (args : List Argument) :
    Except FunctionError Unit :=
  if args.length < least ∨ most < args.length then
    .error (.arityMismatch name least most args.length)
  else .ok ()

/-- The integer at a position, which has to lie in a closed range; where no argument stands, the
default. -/
def integerAt (name : String) (args : List Argument) (index : Nat) (default least greatest : Int) :
    Except FunctionError Int :=
  match args[index]? with
  | none => .ok default
  | some (.string _) => .error (.invalidArgument name index .integerExpected)
  | some (.integer value) =>
    if least ≤ value.toInt ∧ value.toInt ≤ greatest then .ok value.toInt
    else .error (.invalidArgument name index (.outOfRange value.toInt least greatest))

/-- The string at a position. -/
def stringAt (name : String) (args : List Argument) (index : Nat) : Except FunctionError String :=
  match args[index]? with
  | some (.string value) => .ok value
  | some (.integer _) => .error (.invalidArgument name index .stringExpected)
  | none => .error (.invalidArgument name index .missing)

/-- An integer as a number of times to do something. -/
def countOf (name : String) (index : Nat) (value : Int) : Except FunctionError Nat :=
  if 0 ≤ value then .ok value.toNat else .error (.invalidArgument name index .noCount)

/-- The bounds of a range, given by at most two arguments: both lie between `0` and `greatest`, and
the end is not before the start. -/
def rangeOf (name : String) (args : List Argument) (start stop greatest : Int) :
    Except FunctionError (Int × Int) := do
  checkArity name 0 2 args
  let start ← integerAt name args 0 start 0 greatest
  let stop ← integerAt name args 1 stop 0 greatest
  if stop < start then .error (.invalidArgument name 1 (.endBeforeStart stop start))
  else return (start, stop)

/-! ### Functions -/

/-- The integers from `start` to `stop`, both included. -/
def integersFromTo (start stop : Int) : List Int :=
  (List.range (stop + 1 - start).toNat).map fun (i : Nat) => start + i

/-- The character of a code point, for an integer that is a scalar value. -/
def scalar? (n : Int) : Option Char :=
  if 0 ≤ n ∧ n.toNat.isValidChar then some (Char.ofNat n.toNat) else none

/-- The bytes from the first argument, or `0`, to the second one, or `255`. -/
def byteRange : FunctionBody := fun _ args => do
  let (start, stop) ← rangeOf "byteRange" args 0 255 255
  return .binary ((integersFromTo start stop).map UInt8.ofInt)

/-- The characters from the first argument, or `32`, to the second one, or `126`, as code points.
Surrogates, which are no characters, are left out. -/
def charRange : FunctionBody := fun _ args => do
  let (start, stop) ← rangeOf "charRange" args 32 126 0x10FFFF
  return .text (String.ofList ((integersFromTo start stop).filterMap scalar?))

/-- The first argument as often as the second one says. -/
def repeatText : FunctionBody := fun _ args => do
  checkArity "repeat" 2 2 args
  let text ← stringAt "repeat" args 0
  let count ← integerAt "repeat" args 1 0 0 65535
  let times ← countOf "repeat" 1 count
  return .text (String.join (List.replicate times text))

/-- The time of the call in milliseconds since 1970, in decimal. -/
def currentTime : FunctionBody := fun now args => do
  checkArity "time" 0 0 args
  return .text (toString now)

/-- The built-in functions under their names. -/
def builtins : List (String × FunctionBody) :=
  [("byteRange", byteRange), ("charRange", charRange), ("repeat", repeatText),
    ("time", currentTime)]

end FrameConsole
