import FrameConsole.Template.Basic
import FrameConsole.Text.Hex

/-!
# Written templates

The source that spells a template in its plainest form: text with its backslashes and dollar signs
escaped, bytes and code points in hexadecimal, integers in decimal.

## Main definitions

* `FrameConsole.Template.render` — the written form of a template.
* `FrameConsole.Template.Canonical` — the templates that have a written form of their own: texts
  are not empty and not adjacent, names are names, and no integer is the least one, whose magnitude
  is out of reach.
-/

namespace FrameConsole

/-- The written form of a character of text. -/
def escapeText (c : Char) : List Char :=
  if c = '\\' ∨ c = '$' then ['\\', c] else [c]

/-- The written form of a character of a string argument. -/
def escapeString (c : Char) : List Char :=
  if c = '"' ∨ c = '\\' then ['\\', c] else [c]

/-- The written form of an argument. -/
def Argument.render : Argument → List Char
  | .integer value => (toString value.toInt).toList
  | .string value => ['"'] ++ value.toList.flatMap escapeString ++ ['"']

/-- The written form of the arguments of a call, with a comma and a space between them. -/
def renderArguments (args : List Argument) : List Char :=
  List.intercalate [',', ' '] (args.map Argument.render)

/-- The written form of a particle. -/
def Particle.render : Particle → List Char
  | .text value => value.toList.flatMap escapeText
  | .byte value => ['\\', 'x'] ++ Hex.encodeByte value
  | .codepoint value => ['\\', 'u', '{'] ++ Hex.lower value.toNat ++ ['}']
  | .variable name => ['$', '{'] ++ name.toList ++ ['}']
  | .call name args => ['$', '{'] ++ name.toList ++ ['('] ++ renderArguments args ++ [')', '}']

/-- The written form of a template. -/
def Template.render (t : Template) : String :=
  String.ofList (t.particles.flatMap Particle.render)

/-! ### Canonical templates -/

/-- A name: a letter of the ASCII alphabet or an underscore, then such characters and digits. -/
def IsName (name : String) : Prop :=
  ∃ c cs, name.toList = c :: cs ∧ (c.isAlpha ∨ c = '_') ∧ ∀ d ∈ cs, d.isAlphanum ∨ d = '_'

/-- An argument that an integer or string literal spells. -/
def Argument.Canonical : Argument → Prop
  | .integer value => value ≠ Int64.minValue
  | .string _ => True

/-- A particle that a source spells. -/
def Particle.Canonical : Particle → Prop
  | .text value => value ≠ ""
  | .byte _ => True
  | .codepoint _ => True
  | .variable name => IsName name
  | .call name args => IsName name ∧ ∀ a ∈ args, a.Canonical

/-- Whether a particle is text. -/
def Particle.isText : Particle → Bool
  | .text _ => true
  | _ => false

/-- A template that a source spells: each particle is one that a source spells, and of two
neighbours one is no text. -/
def Template.Canonical (t : Template) : Prop :=
  (∀ p ∈ t.particles, p.Canonical) ∧
    ∀ before p q after, t.particles = before ++ p :: q :: after → ¬(p.isText ∧ q.isText)

end FrameConsole
