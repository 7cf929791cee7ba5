import FrameConsole.Text.GraphemeExtend
import FrameConsole.Text.Hex
import FrameConsole.Text.Unprintable

/-!
# Quoted text

Text between quotes, written so that it fits on one line and shows what cannot be seen. The quote
in use and the backslash get a backslash before them, four control characters have a letter, and
every other unprintable character is written as its code point. So is every mark, which would be
lost on the character before it; only the two halfwidth sound marks of Katakana, which have a place
of their own, stay as they are.

## Main definitions

* `FrameConsole.Quoted.escape` — the written form of one character.
* `FrameConsole.Quoted.text`, `FrameConsole.Quoted.char` — a text in double quotes and a character
  in single quotes.
-/

namespace FrameConsole.Quoted

/-- The halfwidth sound marks of Katakana: the voiced and the semi-voiced one. -/
def isHalfwidthMark (c : Char) : Bool :=
  c = '\uFF9E' || c = '\uFF9F'

/-- The characters that are written as their code points. -/
def isHidden (c : Char) : Bool :=
  isUnprintable c || (isGraphemeExtend c && !isHalfwidthMark c)

/-- The written form of one character between quotes of the given kind. -/
def escape (quote c : Char) : List Char :=
  if c = quote ∨ c = '\\' then ['\\', c]
  else if c = '\x00' then ['\\', '0']
  else if c = '\t' then ['\\', 't']
  else if c = '\n' then ['\\', 'n']
  else if c = '\r' then ['\\', 'r']
  else if isHidden c then ['\\', 'u', '{'] ++ Hex.lower c.toNat ++ ['}']
  else [c]

/-- A text in double quotes. -/
def text (s : String) : String :=
  String.ofList (['"'] ++ s.toList.flatMap (escape '"') ++ ['"'])

/-- A character in single quotes. -/
def char (c : Char) : String :=
  String.ofList (['\''] ++ escape '\'' c ++ ['\''])

end FrameConsole.Quoted
