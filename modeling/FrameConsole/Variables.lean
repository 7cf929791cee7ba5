import FrameConsole.Bindings
import FrameConsole.Builtins
import Std.Data.HashMap

/-!
# Variables

The values that templates refer to, under their names. Variables also give out the identities of
functions: every function made gets a number that no function before it has got.

## Main definitions

* `FrameConsole.Variables` — ordered bindings of values.
* `FrameConsole.Variables.loadBuiltins` — makes and binds the built-in functions.
* `FrameConsole.Variables.take` — removes a name and answers with its value.
* `FrameConsole.Scope` — what a template is evaluated against: the time, and a value for a name.
-/

namespace FrameConsole

/-- Values under names, and the identity that the next function gets. -/
structure Variables where
  /-- The values in the order in which their names were first bound. -/
  bindings : Bindings Value
  /-- The least identity that no function has. -/
  nextIdentity : Nat

namespace Variables

/-- No variables. -/
def empty : Variables :=
  ⟨.empty, 0⟩

instance : Inhabited Variables := ⟨empty⟩

/-- The value under a name. -/
def get? (vars : Variables) (name : String) : Option Value :=
  vars.bindings.get? name

/-- Binds a value, in place of the value that the name has, or at the end. -/
def define (vars : Variables) (name : String) (value : Value) : Variables :=
  { vars with bindings := vars.bindings.insert name value }

/-- Makes a function with an identity of its own. -/
def makeFunction (vars : Variables) (name : String) (body : FunctionBody) :
    FunctionValue × Variables :=
  (⟨name, vars.nextIdentity, body⟩, { vars with nextIdentity := vars.nextIdentity + 1 })

/-- Binds a function under its own name. -/
def defineFunction (vars : Variables) (f : FunctionValue) : Variables :=
  vars.define f.name (.function f)

/-- Makes a function and binds it under its own name. -/
def defineNew (vars : Variables) (name : String) (body : FunctionBody) : Variables :=
  (vars.makeFunction name body).2.defineFunction (vars.makeFunction name body).1

/-- Makes the built-in functions and binds them under their names. -/
def loadBuiltins (vars : Variables) : Variables :=
  builtins.foldl (fun vars builtin => vars.defineNew builtin.1 builtin.2) vars

/-- The variables that a session starts with. -/
def initial : Variables :=
  empty.loadBuiltins

/-- Binds a name to the value of another one, if that is bound. -/
def copy (vars : Variables) (name source : String) : Variables :=
  match vars.get? source with
  | some value => vars.define name value
  | none => vars

/-- Removes a name. -/
def remove (vars : Variables) (name : String) : Variables :=
  { vars with bindings := vars.bindings.erase name }

/-- Removes a name and answers with the value that it had. -/
def take (vars : Variables) (name : String) : Option Value × Variables :=
  ((vars.bindings.take name).1, { vars with bindings := (vars.bindings.take name).2 })

/-- Taking a name is looking it up and removing it. -/
theorem take_eq (vars : Variables) (name : String) :
    vars.take name = (vars.get? name, vars.remove name) := by
  rw [take, Bindings.take_eq]
  rfl

/-- The names with their values as they are shown for inspection. -/
def inspect (vars : Variables) : String :=
  let shown := vars.bindings.entries.map fun entry =>
    Quoted.text entry.1 ++ ": " ++ entry.2.inspect
  "Variables \x7b bindings: \x7b" ++ String.intercalate ", " shown ++ "\x7d \x7d"

end Variables

/-! ### Scopes -/

/-- What a template is evaluated against. -/
structure Scope where
  /-- The time of the evaluation, in milliseconds since 1970. -/
  now : Nat
  /-- The value under a name. -/
  value? : String → Option Value

/-- The scope of variables at some time. -/
def Variables.scope (vars : Variables) (now : Nat) : Scope :=
  ⟨now, vars.get?⟩

/-- The scope of an unordered table of values at some time. -/
def Scope.ofHashMap (table : Std.HashMap String Value) (now : Nat) : Scope :=
  ⟨now, fun name => table[name]?⟩

/-- The unordered table of the same values. -/
def Variables.toHashMap (vars : Variables) : Std.HashMap String Value :=
  Std.HashMap.ofList vars.bindings.entries

/-- The unordered table has the same value under each name. -/
theorem Variables.getElem?_toHashMap (vars : Variables) (name : String) :
    vars.toHashMap[name]? = vars.get? name := by
  cases value : vars.get? name with
  | none =>
    have absent : name ∉ vars.bindings.names := fun mem => by
      have found := Bindings.isSome_get?_iff.2 mem
      rw [Variables.get?] at value
      simp [value] at found
    refine Std.HashMap.getElem?_ofList_of_contains_eq_false ?_
    simpa [Bindings.names] using absent
  | some v =>
    have distinct : vars.bindings.entries.Pairwise fun a b => (a.1 == b.1) = false := by
      have := List.pairwise_map.1 vars.bindings.distinct
      simpa using this
    exact Std.HashMap.getElem?_ofList_of_mem (by simp) distinct (Bindings.get?_eq_some_iff.1 value)

end FrameConsole
