import FrameConsole.Text.Ranges

/-!
# Blank characters

The characters that separate words: those with the Unicode property `White_Space`. Blanks are
skipped inside a reference of a template, they decide whether a line is empty, and they end the
first word of a parameter.

## Main definitions

* `FrameConsole.isBlank` — the character class, from the table `FrameConsole.blankRanges`.
* `FrameConsole.skipBlanks` — a text without its leading blanks.
* `FrameConsole.firstWord?` — the first maximal run of characters that are not blank.
-/

namespace FrameConsole

/-- The code points with the property `White_Space`. -/
def blankRanges : Ranges :=
  [(0x09, 0x0D), (0x20, 0x20), (0x85, 0x85), (0xA0, 0xA0), (0x1680, 0x1680), (0x2000, 0x200A),
    (0x2028, 0x2029), (0x202F, 0x202F), (0x205F, 0x205F), (0x3000, 0x3000)]

/-- A character is blank when its code point lies in one of the `blankRanges`. -/
def isBlank (c : Char) : Bool :=
  blankRanges.covers c.toNat

/-- What is left of a text after its leading blanks. -/
def skipBlanks (cs : List Char) : List Char :=
  cs.dropWhile isBlank

/-- The first word of a text, if it has a character that is not blank. -/
def firstWord? (text : String) : Option String :=
  match skipBlanks text.toList with
  | [] => none
  | c :: cs => some (String.ofList ((c :: cs).takeWhile fun d => !isBlank d))

/-- A line is blank when all its characters are. -/
def isBlankLine (line : String) : Bool :=
  line.toList.all isBlank

/-- The ranges are in order. -/
example : blankRanges.ascend := by decide

/-- The property has 25 characters. -/
example : blankRanges.size = 25 := by decide

end FrameConsole
