/-!
# Digits and hexadecimal text

Digits of either letter case, the number that a run of digits denotes, and the two-digits-per-byte
form of a byte sequence. Reading that form refuses an odd number of digits before it looks at any
of them, and otherwise names the leftmost byte that is no digit.

## Main definitions

* `FrameConsole.Hex.digit?` — the value of a hexadecimal digit.
* `FrameConsole.Hex.valueIn` — the number that a run of digits denotes in a base.
* `FrameConsole.Hex.encode`, `FrameConsole.Hex.decode` — lower-case digits for bytes, and back.
-/

namespace FrameConsole.Hex

/-! ### Digits -/

/-- The value of a hexadecimal digit of either letter case. -/
def digit? (c : Char) : Option Nat :=
  if '0' ≤ c ∧ c ≤ '9' then some (c.toNat - '0'.toNat)
  else if 'a' ≤ c ∧ c ≤ 'f' then some (c.toNat - 'a'.toNat + 10)
  else if 'A' ≤ c ∧ c ≤ 'F' then some (c.toNat - 'A'.toNat + 10)
  else none

/-- Hexadecimal digits are the characters that have a value. -/
def isDigit (c : Char) : Bool :=
  (digit? c).isSome

/-- The number that a run of digits denotes in a base, the first digit being the highest. -/
def valueIn (base : Nat) (digits : List Char) : Nat :=
  digits.foldl (fun value c => value * base + (digit? c).getD 0) 0

/-- The lower-case digit of a value below sixteen. -/
def digitChar (value : Nat) : Char :=
  if value < 10 then Char.ofNat ('0'.toNat + value) else Char.ofNat ('a'.toNat + (value - 10))

/-- The fewest lower-case digits of a number. -/
def lower (n : Nat) : List Char :=
  Nat.toDigits 16 n

/-- The fewest upper-case digits of a number. -/
def upper (n : Nat) : List Char :=
  (lower n).map Char.toUpper

/-! ### Bytes -/

/-- Two lower-case digits for a byte, the high half first. -/
def encodeByte (b : UInt8) : List Char :=
  [digitChar (b.toNat / 16), digitChar (b.toNat % 16)]

/-- Two lower-case digits for each byte. -/
def encode (bytes : List UInt8) : List Char :=
  bytes.flatMap encodeByte

/-- Why a text is not the hexadecimal form of bytes. -/
inductive Fault where
  /-- The text has an odd number of bytes. -/
  | oddLength
  /-- A byte of the text, at this offset, is no digit. -/
  | notADigit (byte : UInt8) (offset : Nat)
  deriving DecidableEq, Repr

/-- The value of a byte that is the code of a digit; the offset only locates the fault. -/
def digitAt (offset : Nat) (b : UInt8) : Except Fault Nat :=
  match digit? (Char.ofNat b.toNat) with
  | some value => .ok value
  | none => .error (.notADigit b offset)

/-- Reads bytes two by two, `offset` being where the first of them stands in the whole text. -/
def decodePairs (offset : Nat) : List UInt8 → Except Fault (List UInt8)
  | high :: low :: rest => do
    let h ← digitAt offset high
    let l ← digitAt (offset + 1) low
    let bytes ← decodePairs (offset + 2) rest
    return UInt8.ofNat (h * 16 + l) :: bytes
  | _ => .ok []

/-- The bytes that a text of digits denotes. The text is given by its own bytes, since its length
and the offsets of its faults count those. -/
def decode (text : List UInt8) : Except Fault (List UInt8) :=
  if text.length % 2 = 0 then decodePairs 0 text else .error .oddLength

end FrameConsole.Hex
