import FrameConsole.Text.Utf8
import Mathlib.Tactic.Lemma
import Mathlib.Tactic.SplitIfs

/-!
# Well-formed bytes

The bytes of a text are cut into the sequences of its characters, so that the text that shows them is
the text itself. Well-formed are the byte sequences that the decoder of the standard library accepts;
what shows a byte sequence has the same bytes exactly if it is one of these.

## Main definitions

* `FrameConsole.Utf8.Continues` — the bytes that may stand behind a first one.
* `FrameConsole.Utf8.Announces` — a first byte against those that do.

## Main results

* `FrameConsole.Utf8.exists_firstSegment_utf8EncodeChar` — the bytes of a character are a segment.
* `FrameConsole.Utf8.decodeLossy_encode` — the text that shows the bytes of a text.
* `FrameConsole.Utf8.encode_decodeLossy_iff` — which byte sequences are shown by a text that has them.
-/

namespace FrameConsole.Utf8

/-! ## One character -/

/-- Continuation bytes, the first of them between two bounds. -/
def Continues : (least greatest : Nat) → Bytes → Prop
  | _, _, [] => True
  | least, greatest, b :: bytes =>
    (least ≤ b.toNat ∧ b.toNat ≤ greatest) ∧ Continues 0x80 0xBF bytes

/-- As many continuation bytes as are there are taken. -/
lemma takeTail_append {least greatest : Nat} {tail : Bytes} (h : Continues least greatest tail)
    (rest : Bytes) : takeTail tail.length least greatest (tail ++ rest) = (tail, rest) := by
  induction tail generalizing least greatest with
  | nil => rfl
  | cons b tail ih =>
    rw [List.length_cons, List.cons_append, takeTail, if_pos h.1, ih h.2]

/-- The first byte of a character announces how many bytes follow, which number they make, and what
the next one may be. -/
structure Announces (lead : Lead) (tail : Bytes) (number : Nat) : Prop where
  /-- All bytes follow. -/
  count : tail.length = lead.count
  /-- They continue the first byte. -/
  continues : Continues lead.least lead.greatest tail
  /-- They make the number. -/
  number : codePoint lead.bits tail = number

/-- A first byte with the bytes that it announces is a segment. -/
lemma firstSegment_of_announces {b : UInt8} {lead : Lead} {tail : Bytes} {c : Char}
    (first : Lead.ofByte? b = some lead) (announces : Announces lead tail c.toNat) (rest : Bytes) :
    firstSegment b (tail ++ rest) = (.scalar c, rest) := by
  simp only [firstSegment, first]
  rw [← announces.count, takeTail_append announces.continues, if_pos rfl, announces.number,
    Char.ofNat_toNat]

/-- A byte below `80` announces nothing. -/
lemma ofByte?_one {b : UInt8} (high : b.toNat < 0x80) :
    Lead.ofByte? b = some ⟨b.toNat, 0, 0x80, 0xBF⟩ := by
  simp only [Lead.ofByte?]
  rw [if_pos high]

/-- A byte between `C2` and `DF` announces another one. -/
lemma ofByte?_two {b : UInt8} (low : 0xC2 ≤ b.toNat) (high : b.toNat < 0xE0) :
    Lead.ofByte? b = some ⟨b.toNat % 32, 1, 0x80, 0xBF⟩ := by
  simp only [Lead.ofByte?]
  rw [if_neg (by omega), if_neg (by omega), if_pos high]

/-- A byte between `E0` and `EF` announces two, and the bounds on the next one leave out what two bytes
can make and the surrogates. -/
lemma ofByte?_three {b : UInt8} (low : 0xE0 ≤ b.toNat) (high : b.toNat < 0xF0) :
    Lead.ofByte? b = some ⟨b.toNat % 16, 2, if b.toNat = 0xE0 then 0xA0 else 0x80,
      if b.toNat = 0xED then 0x9F else 0xBF⟩ := by
  by_cases least : b.toNat = 0xE0
  · simp [Lead.ofByte?, least]
  by_cases greatest : b.toNat = 0xED
  · simp [Lead.ofByte?, greatest]
  simp only [Lead.ofByte?]
  rw [if_neg (by omega), if_neg (by omega), if_neg (by omega), if_neg least, if_neg greatest,
    if_pos high, if_neg least, if_neg greatest]

/-- A byte between `F0` and `F4` announces three, and the bounds on the next one leave out what three
bytes can make and the numbers of no character. -/
lemma ofByte?_four {b : UInt8} (low : 0xF0 ≤ b.toNat) (high : b.toNat ≤ 0xF4) :
    Lead.ofByte? b = some ⟨b.toNat % 8, 3, if b.toNat = 0xF0 then 0x90 else 0x80,
      if b.toNat = 0xF4 then 0x8F else 0xBF⟩ := by
  by_cases least : b.toNat = 0xF0
  · simp [Lead.ofByte?, least]
  by_cases greatest : b.toNat = 0xF4
  · simp [Lead.ofByte?, greatest]
  simp only [Lead.ofByte?]
  rw [if_neg (by omega), if_neg (by omega), if_neg (by omega), if_neg (by omega), if_neg (by omega),
    if_neg (by omega), if_neg least, if_pos (by omega), if_neg least, if_neg greatest]

/-- The first byte of a character announces the others.

**Proof sketch.** By the number of bytes. Where three or four bytes are needed, the bounds on the second
one are met: from below since fewer bytes do not make the number, from above since it is the number
of a character. -/
lemma exists_announces (c : Char) : ∃ b tail lead, String.utf8EncodeChar c = b :: tail ∧
    Lead.ofByte? b = some lead ∧ Announces lead tail c.toNat := by
  have range : c.toNat < 0xD800 ∨ 0xDFFF < c.toNat ∧ c.toNat < 0x110000 := c.valid
  have byte : ∀ n < 256, (UInt8.ofNat n).toNat = n := fun n h => UInt8.toNat_ofNat_of_lt' h
  have same : c.val.toNat = c.toNat := rfl
  rw [String.utf8EncodeChar, same]
  generalize c.toNat = v at range
  split_ifs with one two three
  · have first := byte v (by omega)
    refine ⟨_, _, _, rfl, ofByte?_one (by omega), rfl, trivial, ?_⟩
    rw [first]
    rfl
  · have first := byte (v / 64 % 0x20 + 0xC0) (by omega)
    have second := byte (v % 0x40 + 0x80) (by omega)
    refine ⟨_, _, _, rfl, ofByte?_two (by omega) (by omega), rfl, ⟨?_, trivial⟩, ?_⟩
    · simp only [second]
      omega
    · simp only [codePoint, List.foldl_cons, List.foldl_nil, first, second]
      omega
  · have first := byte (v / 4096 % 0x10 + 0xE0) (by omega)
    have second := byte (v / 64 % 0x40 + 0x80) (by omega)
    have third := byte (v % 0x40 + 0x80) (by omega)
    refine ⟨_, _, _, rfl, ofByte?_three (by omega) (by omega), rfl, ⟨?_, ?_, trivial⟩, ?_⟩
    · simp only [first, second]
      split_ifs <;> omega
    · simp only [third]
      omega
    · simp only [codePoint, List.foldl_cons, List.foldl_nil, first, second, third]
      omega
  · have first := byte (v / 262144 % 0x08 + 0xF0) (by omega)
    have second := byte (v / 4096 % 0x40 + 0x80) (by omega)
    have third := byte (v / 64 % 0x40 + 0x80) (by omega)
    have fourth := byte (v % 0x40 + 0x80) (by omega)
    refine ⟨_, _, _, rfl, ofByte?_four (by omega) (by omega), rfl, ⟨?_, ?_, ?_, trivial⟩, ?_⟩
    · simp only [first, second]
      split_ifs <;> omega
    · simp only [third]
      omega
    · simp only [fourth]
      omega
    · simp only [codePoint, List.foldl_cons, List.foldl_nil, first, second, third, fourth]
      omega

/-- The bytes of a character are a segment, whatever follows them. -/
lemma exists_firstSegment_utf8EncodeChar (c : Char) (rest : Bytes) :
    ∃ b bytes, String.utf8EncodeChar c ++ rest = b :: bytes ∧
      firstSegment b bytes = (.scalar c, rest) := by
  obtain ⟨b, tail, lead, bytes, first, announces⟩ := exists_announces c
  exact ⟨b, tail ++ rest, by rw [bytes]; rfl, firstSegment_of_announces first announces rest⟩

/-! ## Texts -/

/-- The bytes of characters are cut into those of each of them. -/
lemma segmentsOnto_encodeChars (done : List Segment) (cs : List Char) (rest : Bytes) :
    segmentsOnto done (encodeChars cs ++ rest) =
      segmentsOnto ((cs.map Segment.scalar).reverse ++ done) rest := by
  induction cs generalizing done with
  | nil => rfl
  | cons c cs ih =>
    obtain ⟨b, bytes, split, first⟩ := exists_firstSegment_utf8EncodeChar c (encodeChars cs ++ rest)
    have cut : segmentsOnto done (b :: bytes) =
        segmentsOnto (.scalar c :: done) (encodeChars cs ++ rest) := by
      rw [segmentsOnto, first]
    have whole : encodeChars (c :: cs) ++ rest = b :: bytes := by
      rw [← split, encodeChars, List.flatMap_cons, List.append_assoc]
      rfl
    rw [whole, cut, ih]
    simp

/-- The text that shows the bytes of a text is that text. -/
lemma decodeLossy_encode (text : String) : decodeLossy (encode text) = text := by
  have cut := segmentsOnto_encodeChars [] text.toList []
  rw [List.append_nil, List.append_nil] at cut
  rw [decodeLossy, segments, encode, cut, segmentsOnto, List.reverse_reverse, List.map_map]
  have shown : Segment.shown ∘ Segment.scalar = id := rfl
  rw [shown, List.map_id, String.ofList_toList]

/-- What shows a byte sequence has the same bytes exactly if the sequence is well-formed. -/
lemma encode_decodeLossy_iff {bytes : Bytes} :
    encode (decodeLossy bytes) = bytes ↔ bytes.toByteArray.validateUTF8 = true := by
  rw [ByteArray.validateUTF8_eq_true_iff]
  constructor
  · intro same
    exact .intro (decodeLossy bytes).toList (congrArg List.toByteArray same.symm)
  · rintro ⟨cs, same⟩
    have text : encode (String.ofList cs) = bytes := by
      rw [encode, String.toList_ofList, ← List.toByteArray_inj, same]
      rfl
    rw [← text, decodeLossy_encode]

end FrameConsole.Utf8
