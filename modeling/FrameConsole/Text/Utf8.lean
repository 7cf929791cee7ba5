/-!
# UTF-8

The bytes of a text, and the text of any byte sequence. A byte sequence is cut into segments: a
segment is either the well-formed sequence of one character or a maximal ill-formed subpart, that
is, the longest start of a well-formed sequence that is not continued as it should be, or a single
byte that starts none. Each ill-formed segment is shown as one replacement character.

## Main definitions

* `FrameConsole.Utf8.encode` — the bytes of a text.
* `FrameConsole.Utf8.segments` — the segments of a byte sequence.
* `FrameConsole.Utf8.decodeLossy` — the text that shows a byte sequence.
-/

namespace FrameConsole

/-- Byte sequences. -/
abbrev Bytes := List UInt8

namespace Utf8

/-! ### Encoding -/

/-- The bytes of a text given by its characters. -/
def encodeChars (cs : List Char) : Bytes :=
  cs.flatMap String.utf8EncodeChar

/-- The bytes of a text. -/
def encode (text : String) : Bytes :=
  encodeChars text.toList

/-- The number of bytes of a text given by its characters. -/
def length (cs : List Char) : Nat :=
  (encodeChars cs).length

/-! ### Segments -/

/-- A piece of a byte sequence. -/
inductive Segment where
  /-- The well-formed sequence of a character. -/
  | scalar (c : Char)
  /-- A maximal ill-formed subpart. -/
  | broken (bytes : Bytes)
  deriving DecidableEq, Repr

/-- The bytes that a segment covers. -/
def Segment.bytes : Segment → Bytes
  | .scalar c => String.utf8EncodeChar c
  | .broken bytes => bytes

/-- The character that shows a segment: U+FFFD for an ill-formed one. -/
def Segment.shown : Segment → Char
  | .scalar c => c
  | .broken _ => '\uFFFD'

/-- What a first byte announces: its own share of the code point, how many bytes follow, and
between which bounds the first of these lies. -/
structure Lead where
  /-- The bits of the code point that the first byte carries. -/
  bits : Nat
  /-- The number of bytes that follow. -/
  count : Nat
  /-- The least second byte. -/
  least : Nat
  /-- The greatest second byte. -/
  greatest : Nat

/-- The announcement of a first byte, for the bytes that can start a character. The bounds on the
second byte leave out overlong forms, surrogates and numbers above U+10FFFF. -/
def Lead.ofByte? (b : UInt8) : Option Lead :=
  let n := b.toNat
  if n < 0x80 then some ⟨n, 0, 0x80, 0xBF⟩
  else if n < 0xC2 then none
  else if n < 0xE0 then some ⟨n % 32, 1, 0x80, 0xBF⟩
  else if n = 0xE0 then some ⟨0, 2, 0xA0, 0xBF⟩
  else if n = 0xED then some ⟨13, 2, 0x80, 0x9F⟩
  else if n < 0xF0 then some ⟨n % 16, 2, 0x80, 0xBF⟩
  else if n = 0xF0 then some ⟨0, 3, 0x90, 0xBF⟩
  else if n < 0xF4 then some ⟨n % 8, 3, 0x80, 0xBF⟩
  else if n = 0xF4 then some ⟨4, 3, 0x80, 0x8F⟩
  else none

/-- Takes at most `count` continuation bytes, the first of them between the given bounds and the
others between `80` and `BF`; the second part is what is left. -/
def takeTail : (count least greatest : Nat) → Bytes → Bytes × Bytes
  | 0, _, _, bytes => ([], bytes)
  | _ + 1, _, _, [] => ([], [])
  | count + 1, least, greatest, b :: bytes =>
    if least ≤ b.toNat ∧ b.toNat ≤ greatest then
      let (tail, rest) := takeTail count 0x80 0xBF bytes
      (b :: tail, rest)
    else ([], b :: bytes)

/-- The code point of first-byte bits and continuation bytes, six bits from each of these. -/
def codePoint (bits : Nat) (tail : Bytes) : Nat :=
  tail.foldl (fun n b => n * 64 + b.toNat % 64) bits

/-- The first segment of a byte sequence that starts with `b`, and what follows the segment. -/
def firstSegment (b : UInt8) (bytes : Bytes) : Segment × Bytes :=
  match Lead.ofByte? b with
  | none => (.broken [b], bytes)
  | some lead =>
    let (tail, rest) := takeTail lead.count lead.least lead.greatest bytes
    if tail.length = lead.count then (.scalar (Char.ofNat (codePoint lead.bits tail)), rest)
    else (.broken (b :: tail), rest)

/-- The rest after some continuation bytes is no longer than the sequence they were taken from. -/
theorem length_takeTail_le (count least greatest : Nat) (bytes : Bytes) :
    (takeTail count least greatest bytes).2.length ≤ bytes.length := by
  induction count generalizing least greatest bytes with
  | zero => simp [takeTail]
  | succ count ih =>
    cases bytes with
    | nil => simp [takeTail]
    | cons b bytes =>
      simp only [takeTail]
      split
      · exact Nat.le_succ_of_le (ih _ _ _)
      · exact Nat.le_refl _

/-- What follows the first segment is no longer than what follows the first byte. -/
theorem length_firstSegment_le (b : UInt8) (bytes : Bytes) :
    (firstSegment b bytes).2.length ≤ bytes.length := by
  unfold firstSegment
  split
  · exact Nat.le_refl _
  · simp only
    split <;> exact length_takeTail_le _ _ _ _

/-- Cuts a byte sequence into segments and puts them after those `done`, which stand in reverse. -/
def segmentsOnto (done : List Segment) : Bytes → List Segment
  | [] => done.reverse
  | b :: bytes =>
    segmentsOnto ((firstSegment b bytes).1 :: done) (firstSegment b bytes).2
  termination_by bytes => bytes.length
  decreasing_by
    have := length_firstSegment_le b bytes
    simp only [List.length_cons]
    omega

/-- The segments of a byte sequence, in order. -/
def segments (bytes : Bytes) : List Segment :=
  segmentsOnto [] bytes

/-- The text that shows a byte sequence: a character for each well-formed segment, a replacement
character for each ill-formed one. -/
def decodeLossy (bytes : Bytes) : String :=
  String.ofList ((segments bytes).map Segment.shown)

end FrameConsole.Utf8
