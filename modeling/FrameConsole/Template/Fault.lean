import FrameConsole.Text.Hex

/-!
# Faults of a template's source

Why a text is not a template, and where in the text that shows.

## Main definitions

* `FrameConsole.Fault` — what is wrong, with its wording in `FrameConsole.Fault.message`.
* `FrameConsole.SyntaxError` — a fault and the byte offset at which it lies.
-/

namespace FrameConsole

/-- What is wrong with the source of a template. -/
inductive Fault where
  /-- The source ends after a backslash. -/
  | trailingBackslash
  /-- A backslash stands before a character that it cannot stand before. -/
  | unknownEscape (c : Char)
  /-- Fewer hexadecimal digits than the least number, at most `most` being taken. -/
  | hexDigitsExpected (least most : Nat)
  /-- The digits of a code point are not followed by a closing brace. -/
  | codePointNotClosed
  /-- A number is no Unicode scalar value. -/
  | notAScalar (value : Nat)
  /-- The source ends inside a reference. -/
  | referenceNotClosed
  /-- A reference does not start with a name. -/
  | nameExpected
  /-- The closing brace of a reference is missing. -/
  | closingBraceExpected
  /-- An argument is followed by neither a comma nor a closing parenthesis. -/
  | separatorExpected
  /-- An argument is neither an integer nor a string. -/
  | argumentExpected
  /-- An integer has no digits. -/
  | digitsExpected
  /-- The magnitude of an integer is too large. -/
  | integerOutOfRange
  /-- The source ends inside a string. -/
  | stringNotClosed
  /-- A backslash in a string stands before a character that it cannot stand before. -/
  | unknownStringEscape (c : Char)
  /-- A fault in the words of some other reader of templates. -/
  | custom (message : String)
  deriving DecidableEq, Repr

/-- The wording of a fault. -/
def Fault.message : Fault → String
  | .trailingBackslash => "trailing backslash"
  | .unknownEscape c => "unknown escape `\\" ++ String.singleton c ++ "`"
  | .hexDigitsExpected least most =>
    if least = most then "expected " ++ toString least ++ " hex digits"
    else "expected " ++ toString least ++ " to " ++ toString most ++ " hex digits"
  | .codePointNotClosed => "expected `\x7d` after code point"
  | .notAScalar value =>
    "U+" ++ String.ofList (Hex.upper value) ++ " is not a unicode scalar value"
  | .referenceNotClosed => "unterminated `$\x7b`"
  | .nameExpected => "expected a variable or function name"
  | .closingBraceExpected => "expected `\x7d`"
  | .separatorExpected => "expected `,` or `)`"
  | .argumentExpected => "expected an integer or string argument"
  | .digitsExpected => "expected digits"
  | .integerOutOfRange => "integer out of range"
  | .stringNotClosed => "unterminated string"
  | .unknownStringEscape c => "unknown escape `\\" ++ String.singleton c ++ "` in string"
  | .custom message => message

/-- A fault and its place, counted in UTF-8 bytes from the start of the source. -/
structure SyntaxError where
  /-- What is wrong. -/
  fault : Fault
  /-- The number of bytes before the place where it is wrong. -/
  offset : Nat
  deriving DecidableEq, Repr

/-- The wording of a syntax error. -/
def SyntaxError.message (e : SyntaxError) : String :=
  "syntax error at offset " ++ toString e.offset ++ ": " ++ e.fault.message

end FrameConsole
