import FrameConsole.Bindings
import FrameConsole.Console

/-!
# Registry of commands

The commands that lines can name. Registering a command binds all its names to it; a name that
another command had is taken over and keeps its place. Commands are counted even when all their
names have been taken over.

## Main definitions

* `FrameConsole.Registry` — commands under their names.
* `FrameConsole.Registry.register`, `FrameConsole.Registry.find?`.
-/

namespace FrameConsole

/-- Commands under their names. -/
structure Registry (α : Type) where
  /-- For each name the command that it calls, in the order in which names were first claimed. -/
  bindings : Bindings (Command α)
  /-- The number of commands registered. -/
  size : Nat

namespace Registry

variable {α : Type}

/-- No commands. -/
def empty : Registry α :=
  ⟨.empty, 0⟩

/-- Registers a command under all its names. -/
def register (r : Registry α) (command : Command α) : Registry α :=
  ⟨command.names.foldl (fun bindings name => bindings.insert name command) r.bindings, r.size + 1⟩

/-- The command that a name calls. -/
def find? (r : Registry α) (name : String) : Option (Command α) :=
  r.bindings.get? name

/-- The names in the order in which they were first claimed. -/
def names (r : Registry α) : List String :=
  r.bindings.names

/-- Whether no command has been registered. -/
def isEmpty (r : Registry α) : Bool :=
  r.size == 0

/-- The names as they are shown for inspection. -/
def inspect (r : Registry α) : String :=
  "[" ++ String.intercalate ", " (r.names.map Quoted.text) ++ "]"

end FrameConsole.Registry
