import FrameConsole.Error
import FrameConsole.Variables

/-!
# Evaluation

The bytes of a template in a scope. Particles are evaluated from left to right, and the first one
that fails decides the error. What a variable holds or a function gives goes into the bytes as it
is: nothing of it is read as a template again.

## Main definitions

* `FrameConsole.Scope.call` — a call of a function with literal arguments.
* `FrameConsole.Particle.eval`, `FrameConsole.Template.eval`.
-/

namespace FrameConsole

/-- Calls the function under a name. -/
def Scope.call (scope : Scope) (name : String) (args : List Argument) : Except EvalError Output :=
  match scope.value? name with
  | none => .error (.unknownInstruction name)
  | some (.function f) =>
    match f.body scope.now args with
    | .ok output => .ok output
    | .error cause => .error (.function cause)
  | some _ => .error (.invalidDataType name [.function])

/-- The content of a variable. -/
def Scope.content (scope : Scope) (name : String) : Except EvalError Bytes :=
  match scope.value? name with
  | none => .error (.unknownVariable name)
  | some (.text value) => .ok (Utf8.encode value)
  | some (.binary value) => .ok value
  | some (.function _) => .error (.invalidDataType name [.string, .binary])

/-- The bytes of a particle. -/
def Particle.eval (scope : Scope) : Particle → Except EvalError Bytes
  | .text value => .ok (Utf8.encode value)
  | .byte value => .ok [value]
  | .codepoint value => .ok (Utf8.encodeChars [value])
  | .variable name => scope.content name
  | .call name args => (scope.call name args).map Output.bytes

/-- The bytes of a template: those of its particles one after another. -/
def Template.eval (scope : Scope) (t : Template) : Except EvalError Bytes :=
  (t.particles.mapM (Particle.eval scope)).map List.flatten

end FrameConsole
