import FrameConsole.Json
import FrameConsole.Template.Basic

/-!
# Templates as JSON trees

Every node of a template is an object with its kind under `type` and its content under the other
keys. Reading such a tree asks for the keys that a kind has and passes over all others; the kind of
the root is not looked at. Trees in a shorter form are read too, where a list stands for an object:
it holds the kind, which the root goes without, and then the values of exactly the keys that the
kind has.

The kind of an argument has two more forms. In an object it may be an object of its own, with the
kind as its only key and nothing under it; in a list it may be a number.

## Main definitions

* `FrameConsole.Template.toJson` — the tree of a template.
* `FrameConsole.Template.ofJson?` — the template of a tree, if it is the tree of one.
-/

namespace FrameConsole

/-! ### Writing -/

/-- The tree of an argument. -/
def Argument.toJson : Argument → Json
  | .integer value => .object [("type", .string "integer"), ("value", .integer value.toInt)]
  | .string value => .object [("type", .string "string"), ("value", .string value)]

/-- The content of a particle, by its keys. -/
def Particle.members : Particle → List (String × Json)
  | .text value => [("value", .string value)]
  | .byte value => [("value", .integer value.toNat)]
  | .codepoint value => [("value", .integer value.toNat)]
  | .variable name => [("name", .string name)]
  | .call name args => [("name", .string name), ("args", .array (args.map Argument.toJson))]

/-- The tree of a particle. -/
def Particle.toJson (p : Particle) : Json :=
  .object (("type", .string p.kind) :: p.members)

/-- The tree of a template. -/
def Template.toJson (t : Template) : Json :=
  .object
    [("type", .string "templateExpression"),
      ("particles", .array (t.particles.map Particle.toJson))]

/-! ### Reading -/

/-- The natural number of an integer that is below a bound. -/
def Json.natBelow? (bound : Nat) (json : Json) : Option Nat := do
  let value ← json.integer?
  if 0 ≤ value ∧ value < bound then some value.toNat else none

/-- The kind of a node and what holds its other values: an object has its kind under `type`, and a
list has it in front. -/
def Json.tagged? : Json → Option (Json × Json)
  | .array [] => none
  | .array (tag :: items) => some (tag, .array items)
  | json => (json.member? "type").map fun tag => (tag, json)

/-- The values of a node under some keys, in the order of the keys. A list has these values and no
others. -/
def Json.values? (keys : List String) : Json → Option (List Json)
  | .array items => if items.length = keys.length then some items else none
  | json => keys.mapM fun key => json.member? key

/-- Whether a tree says nothing: the value `null` and the empty object do. -/
def Json.isNothing : Json → Bool
  | .null => true
  | .object [] => true
  | _ => false

/-- The kinds of arguments. -/
inductive ArgumentKind where
  /-- A number. -/
  | integer
  /-- A text. -/
  | string
  deriving DecidableEq, Repr

namespace ArgumentKind

/-- The kind of a name. -/
def ofName? : String → Option ArgumentKind
  | "integer" => some .integer
  | "string" => some .string
  | _ => none

/-- The kind that an object has under `type`: its name, alone or as the only key of an object with
nothing under it. -/
def ofMember? : Json → Option ArgumentKind
  | .string name => ofName? name
  | .object [(name, content)] => if content.isNothing then ofName? name else none
  | _ => none

/-- The kind in front of a list: its name or its number. -/
def ofItem? : Json → Option ArgumentKind
  | .string name => ofName? name
  | .integer 0 => some .integer
  | .integer 1 => some .string
  | _ => none

/-- The kind of a node with some tag. -/
def ofTag? (node tag : Json) : Option ArgumentKind :=
  match node with
  | .array _ => ofItem? tag
  | _ => ofMember? tag

end ArgumentKind

/-- The argument of a tree. -/
def Argument.ofJson? (json : Json) : Option Argument := do
  let (tag, content) ← json.tagged?
  let [value] ← content.values? ["value"] | none
  match ← ArgumentKind.ofTag? json tag with
  | .integer =>
    let value ← value.integer?
    if Int64.minValue.toInt ≤ value ∧ value ≤ Int64.maxValue.toInt then
      some (.integer (Int64.ofInt value))
    else none
  | .string => return .string (← value.string?)

/-- The particle of a tree. -/
def Particle.ofJson? (json : Json) : Option Particle := do
  let (tag, content) ← json.tagged?
  match ← tag.string? with
  | "text" =>
    let [value] ← content.values? ["value"] | none
    return .text (← value.string?)
  | "byte" =>
    let [value] ← content.values? ["value"] | none
    return .byte (UInt8.ofNat (← value.natBelow? 256))
  | "codepoint" =>
    let [value] ← content.values? ["value"] | none
    let value ← value.natBelow? 0x110000
    if value.isValidChar then some (.codepoint (Char.ofNat value)) else none
  | "variable" =>
    let [name] ← content.values? ["name"] | none
    return .variable (← name.string?)
  | "function" =>
    let [name, args] ← content.values? ["name", "args"] | none
    return .call (← name.string?) (← (← args.array?).mapM Argument.ofJson?)
  | _ => none

/-- The template of a tree. -/
def Template.ofJson? (json : Json) : Option Template := do
  let [particles] ← json.values? ["particles"] | none
  return ⟨← (← particles.array?).mapM Particle.ofJson?⟩

end FrameConsole
