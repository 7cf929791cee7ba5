/-!
# Templates

A template stands for a byte sequence with holes. It is a list of particles, each of which gives
some bytes once the names in force are known; the bytes of the template are those of its particles
one after another.

## Main definitions

* `FrameConsole.Argument` — a literal argument of a call.
* `FrameConsole.Particle` — text, a byte, a code point, a variable or a call.
* `FrameConsole.Template` — a list of particles.
-/

namespace FrameConsole

/-- A literal argument of a call. Arguments are handed to the function as they are written. -/
inductive Argument where
  /-- An integer of 64 bits. -/
  | integer (value : Int64)
  /-- A string. -/
  | string (value : String)
  deriving DecidableEq, Repr

/-- The smallest part of a template that gives bytes of its own. -/
inductive Particle where
  /-- Text, which gives its UTF-8 bytes. -/
  | text (value : String)
  /-- A single byte. -/
  | byte (value : UInt8)
  /-- A character given by its code point, which gives its UTF-8 bytes. -/
  | codepoint (value : Char)
  /-- The content of a variable. -/
  | variable (name : String)
  /-- What a function gives for some arguments. -/
  | call (name : String) (args : List Argument)
  deriving DecidableEq, Repr

/-- The word that names the kind of a particle. -/
def Particle.kind : Particle → String
  | .text _ => "text"
  | .byte _ => "byte"
  | .codepoint _ => "codepoint"
  | .variable _ => "variable"
  | .call _ _ => "function"

/-- A template: its particles in the order of their bytes. -/
structure Template where
  /-- The particles in the order of their bytes. -/
  particles : List Particle
  deriving DecidableEq, Repr

/-- A template without particles. -/
def Template.isEmpty (t : Template) : Bool :=
  t.particles.isEmpty

end FrameConsole
