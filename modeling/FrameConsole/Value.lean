import FrameConsole.Template.Basic
import FrameConsole.Text.Quoted
import FrameConsole.Text.Utf8

/-!
# Values

What a name can stand for: a text, a byte sequence or a function. A function has a name of its
own, an identity that it received when it was made, and a body that gives a text or bytes for a
list of literal arguments. Two functions are the same when they have the same name and the same
identity, whatever their bodies do.

## Main definitions

* `FrameConsole.DataType` — the three kinds of value.
* `FrameConsole.FunctionError` — why a call fails, with its wording.
* `FrameConsole.FunctionValue`, `FrameConsole.Value` — functions and values.
* `FrameConsole.Value.same` — equality of values.
* `FrameConsole.Value.display`, `FrameConsole.Value.inspect` — the two ways to show a value.
-/

namespace FrameConsole

/-! ### Kinds -/

/-- The kinds of value. -/
inductive DataType where
  /-- A text. -/
  | string
  /-- A byte sequence. -/
  | binary
  /-- A function. -/
  | function
  deriving DecidableEq, Repr

/-- The word for a kind of value. -/
def DataType.name : DataType → String
  | .string => "STRING"
  | .binary => "BINARY"
  | .function => "FUNCTION"

/-- The words for some kinds of which one is meant: `A`, `A or B`, `A, B or C`. -/
def DataType.alternatives (types : List DataType) : String :=
  match types.getLast? with
  | none => "nothing"
  | some last =>
    match types.dropLast with
    | [] => last.name
    | others => String.intercalate ", " (others.map DataType.name) ++ " or " ++ last.name

/-! ### Calls -/

/-- What is wrong with an argument of a call. -/
inductive ArgumentFault where
  /-- A string stands where an integer is asked for. -/
  | integerExpected
  /-- An integer stands where a string is asked for. -/
  | stringExpected
  /-- An integer lies outside of a closed range. -/
  | outOfRange (value least greatest : Int)
  /-- The end of a range lies before its start. -/
  | endBeforeStart (stop start : Int)
  /-- Nothing stands where an argument is asked for. -/
  | missing
  /-- An integer is no number of times to do something. -/
  | noCount
  /-- A fault in the function's own words. -/
  | custom (message : String)
  deriving DecidableEq, Repr

/-- The wording of what is wrong with an argument. -/
def ArgumentFault.message : ArgumentFault → String
  | .integerExpected => "expected an integer, found a string"
  | .stringExpected => "expected a string, found an integer"
  | .outOfRange value least greatest =>
    toString value ++ " is out of range " ++ toString least ++ "..=" ++ toString greatest
  | .endBeforeStart stop start =>
    "end " ++ toString stop ++ " is before start " ++ toString start
  | .missing => "missing argument"
  | .noCount => "out of range integral type conversion attempted"
  | .custom message => message

/-- Why a call fails. -/
inductive FunctionError where
  /-- The number of arguments is not one that the function takes. -/
  | arityMismatch (name : String) (least most given : Nat)
  /-- The argument at a position, counted from zero, is not one that the function takes. -/
  | invalidArgument (name : String) (index : Nat) (fault : ArgumentFault)
  deriving DecidableEq, Repr

/-- The wording of a failed call. -/
def FunctionError.message : FunctionError → String
  | .arityMismatch name least most given =>
    "function `" ++ name ++ "` takes " ++ toString least ++ " to " ++ toString most
      ++ " arguments, got " ++ toString given
  | .invalidArgument name index fault =>
    "function `" ++ name ++ "` argument " ++ toString index ++ ": " ++ fault.message

/-- What a call gives. -/
inductive Output where
  /-- A text. -/
  | text (value : String)
  /-- A byte sequence. -/
  | binary (value : Bytes)
  deriving DecidableEq, Repr

/-- The bytes of what a call gives. -/
def Output.bytes : Output → Bytes
  | .text value => Utf8.encode value
  | .binary value => value

/-- What a function does: it is given the time of the call, in milliseconds since 1970, and the
arguments as they are written. -/
abbrev FunctionBody := (now : Nat) → List Argument → Except FunctionError Output

/-- A function. -/
structure FunctionValue where
  /-- The function's own name, which need not be the name it is bound to. -/
  name : String
  /-- The number that the function received when it was made; copies keep it. -/
  identity : Nat
  /-- What the function does. -/
  body : FunctionBody

/-! ### Values -/

/-- What a name can stand for. -/
inductive Value where
  /-- A text. -/
  | text (value : String)
  /-- A byte sequence. -/
  | binary (value : Bytes)
  /-- A function. -/
  | function (value : FunctionValue)

namespace Value

/-- The kind of a value. -/
def dataType : Value → DataType
  | .text _ => .string
  | .binary _ => .binary
  | .function _ => .function

/-- Whether a value can be called. -/
def isCallable : Value → Bool
  | .function _ => true
  | _ => false

/-- Equality of values: texts and byte sequences by content, functions by name and identity. -/
def same : Value → Value → Bool
  | .text a, .text b => a == b
  | .binary a, .binary b => a == b
  | .function f, .function g => f.name == g.name && f.identity == g.identity
  | _, _ => false

instance : BEq Value := ⟨same⟩

/-- A value as it is shown to a user. -/
def display : Value → String
  | .text value => value
  | .binary value => "<" ++ toString value.length ++ " bytes>"
  | .function f => f.name ++ "()"

/-- A value as it is shown for inspection: texts in quotes, bytes by their numbers. -/
def inspect : Value → String
  | .text value => Quoted.text value
  | .binary value => "b[" ++ String.intercalate ", " (value.map fun b => toString b.toNat) ++ "]"
  | .function f => "<fn " ++ f.name ++ ">"

end FrameConsole.Value
