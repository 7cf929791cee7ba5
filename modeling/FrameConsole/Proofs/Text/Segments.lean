import FrameConsole.Console
import FrameConsole.Proofs.Text.Utf8
import Mathlib.Data.List.Basic

/-!
# Segments of bytes

Any byte sequence can be cut into the sequences of characters and ill-formed subparts, said here without
reference to the function that cuts it. Where the sequence of a character stands, it is one segment.
Where none does, the segment is the maximal subpart: the longest piece that the sequence of some
character starts with, or a single byte if there is no such piece. There is exactly one way to cut, and
the payload of a command shows as one character for each segment.

## Main definitions

* `FrameConsole.Utf8.MaximalSubpart` — the piece that is cut off where no character stands.
* `FrameConsole.Utf8.Segmented` — a byte sequence and its segments.

## Main results

* `FrameConsole.Utf8.utf8EncodeChar_of_continues` — a first byte with all bytes that it announces is the
  sequence of a character.
* `FrameConsole.Utf8.startsWith_firstSegment`, `FrameConsole.Utf8.StartsWith.unique` — one segment is cut
  off, and it is the only one that can be.
* `FrameConsole.Utf8.segmented_iff` — the segments that are cut are those of the definition.
* `FrameConsole.Payload.toText_segmented` — payloads as texts.
-/

namespace FrameConsole

namespace Utf8

/-! ## Pieces -/

/-- A single byte, or some of the first bytes of a character. -/
def Subpart (part : Bytes) : Prop :=
  part.length = 1 ∨ ∃ c, part <+: String.utf8EncodeChar c

/-- The bytes `part ++ rest` do not start with the sequence of a character, and `part` is the longest
subpart at their front. -/
structure MaximalSubpart (part rest : Bytes) : Prop where
  /-- There are some bytes. -/
  nonempty : part ≠ []
  /-- No character stands here. -/
  unconvertible : ∀ c, ¬String.utf8EncodeChar c <+: part ++ rest
  /-- The piece is a subpart. -/
  subpart : Subpart part
  /-- No other subpart is longer. -/
  longest : ∀ part', part' <+: part ++ rest → Subpart part' → part'.length ≤ part.length

/-- A segment at the front of a byte sequence, and what follows it. -/
inductive StartsWith : Bytes → Segment → Bytes → Prop
  /-- A character. -/
  | scalar (c : Char) (rest : Bytes) : StartsWith (String.utf8EncodeChar c ++ rest) (.scalar c) rest
  /-- A maximal ill-formed subpart. -/
  | broken {part rest : Bytes} (maximal : MaximalSubpart part rest) :
      StartsWith (part ++ rest) (.broken part) rest

/-- A byte sequence is cut into segments. -/
inductive Segmented : Bytes → List Segment → Prop
  /-- No bytes. -/
  | nil : Segmented [] []
  /-- A segment and those behind it. -/
  | cons {bytes rest : Bytes} {segment : Segment} {segments : List Segment}
      (first : StartsWith bytes segment rest) (others : Segmented rest segments) :
      Segmented bytes (segment :: segments)

/-! ## First bytes -/

/-- A first byte belongs to one of four ranges, by the number of bytes that follow it. -/
lemma ofByte?_cases {b : UInt8} {lead : Lead} (first : Lead.ofByte? b = some lead) :
    (b.toNat < 0x80 ∧ lead = ⟨b.toNat, 0, 0x80, 0xBF⟩) ∨
      ((0xC2 ≤ b.toNat ∧ b.toNat < 0xE0) ∧ lead = ⟨b.toNat % 32, 1, 0x80, 0xBF⟩) ∨
      ((0xE0 ≤ b.toNat ∧ b.toNat < 0xF0) ∧
        lead = ⟨b.toNat % 16, 2, if b.toNat = 0xE0 then 0xA0 else 0x80,
          if b.toNat = 0xED then 0x9F else 0xBF⟩) ∨
      ((0xF0 ≤ b.toNat ∧ b.toNat ≤ 0xF4) ∧
        lead = ⟨b.toNat % 8, 3, if b.toNat = 0xF0 then 0x90 else 0x80,
          if b.toNat = 0xF4 then 0x8F else 0xBF⟩) := by
  by_cases one : b.toNat < 0x80
  · rw [ofByte?_one one] at first
    exact .inl ⟨one, (Option.some.inj first).symm⟩
  by_cases two : 0xC2 ≤ b.toNat ∧ b.toNat < 0xE0
  · rw [ofByte?_two two.1 two.2] at first
    exact .inr (.inl ⟨two, (Option.some.inj first).symm⟩)
  by_cases three : 0xE0 ≤ b.toNat ∧ b.toNat < 0xF0
  · rw [ofByte?_three three.1 three.2] at first
    exact .inr (.inr (.inl ⟨three, (Option.some.inj first).symm⟩))
  by_cases four : 0xF0 ≤ b.toNat ∧ b.toNat ≤ 0xF4
  · rw [ofByte?_four four.1 four.2] at first
    exact .inr (.inr (.inr ⟨four, (Option.some.inj first).symm⟩))
  · exfalso
    simp only [Lead.ofByte?] at first
    split_ifs at first <;> omega

/-- The bounds that a first byte sets to the next one leave some continuation bytes. -/
lemma bounds_of_ofByte? {b : UInt8} {lead : Lead} (first : Lead.ofByte? b = some lead) :
    lead.least ≤ lead.greatest ∧ lead.greatest ≤ 0xBF := by
  rcases ofByte?_cases first with ⟨-, rfl⟩ | ⟨-, rfl⟩ | ⟨-, rfl⟩ | ⟨-, rfl⟩
  · simp
  · simp
  · simp only
    split_ifs <;> omega
  · simp only
    split_ifs <;> omega

/-- A first byte with all bytes that it announces is the sequence of a character.

**Proof sketch.** By the number of bytes. The bounds on the second one keep the number out of the range
of fewer bytes, away from the surrogates, and below the end of the code points. So each byte is the
share of the number that is written into it. -/
lemma utf8EncodeChar_of_continues {b : UInt8} {lead : Lead} {tail : Bytes}
    (first : Lead.ofByte? b = some lead) (count : tail.length = lead.count)
    (continues : Continues lead.least lead.greatest tail) :
    String.utf8EncodeChar (Char.ofNat (codePoint lead.bits tail)) = b :: tail := by
  have share : ∀ (c : UInt8) (n : ℕ), n = c.toNat → UInt8.ofNat n = c := by
    rintro c n rfl
    exact UInt8.ofNat_toNat
  have scalar : ∀ n : ℕ, n < 0xD800 ∨ 0xDFFF < n ∧ n < 0x110000 → (Char.ofNat n).val.toNat = n := by
    intro n valid
    rw [Char.ofNat, dif_pos (show n.isValidChar from valid)]
    rfl
  rcases ofByte?_cases first with ⟨range, rfl⟩ | ⟨range, rfl⟩ | ⟨range, rfl⟩ | ⟨range, rfl⟩
  · obtain rfl := List.length_eq_zero_iff.1 count
    have number := scalar b.toNat (by omega)
    simp only [codePoint, List.foldl_nil, String.utf8EncodeChar, number]
    rw [if_pos (by omega), UInt8.ofNat_toNat]
  · obtain ⟨x, rfl⟩ := List.length_eq_one_iff.1 count
    obtain ⟨second, -⟩ := continues
    simp only at second
    simp only [codePoint, List.foldl_cons, List.foldl_nil]
    generalize hn : b.toNat % 32 * 64 + x.toNat % 64 = n
    have number := scalar n (by omega)
    simp only [String.utf8EncodeChar, number]
    rw [if_neg (by omega), if_pos (by omega), share b _ (by omega), share x _ (by omega)]
  · obtain ⟨x, y, rfl⟩ := List.length_eq_two.1 count
    obtain ⟨second, third, -⟩ := continues
    simp only at second
    simp only [codePoint, List.foldl_cons, List.foldl_nil]
    generalize hn : (b.toNat % 16 * 64 + x.toNat % 64) * 64 + y.toNat % 64 = n
    have above : 0x800 ≤ n := by
      split_ifs at second <;> omega
    have valid : n < 0xD800 ∨ 0xDFFF < n ∧ n < 0x10000 := by
      split_ifs at second <;> omega
    have number := scalar n (by omega)
    simp only [String.utf8EncodeChar, number]
    have within : 0x80 ≤ x.toNat ∧ x.toNat ≤ 0xBF := by
      split_ifs at second <;> omega
    rw [if_neg (by omega), if_neg (by omega), if_pos (by omega), share b _ (by omega),
      share x _ (by omega), share y _ (by omega)]
  · obtain ⟨x, y, z, rfl⟩ := List.length_eq_three.1 count
    obtain ⟨second, third, fourth, -⟩ := continues
    simp only at second
    simp only [codePoint, List.foldl_cons, List.foldl_nil]
    generalize hn : ((b.toNat % 8 * 64 + x.toNat % 64) * 64 + y.toNat % 64) * 64 + z.toNat % 64 = n
    have above : 0x10000 ≤ n ∧ n < 0x110000 := by
      split_ifs at second <;> omega
    have within : 0x80 ≤ x.toNat ∧ x.toNat ≤ 0xBF := by
      split_ifs at second <;> omega
    have number := scalar n (by omega)
    simp only [String.utf8EncodeChar, number]
    rw [if_neg (by omega), if_neg (by omega), if_neg (by omega), share b _ (by omega),
      share x _ (by omega), share y _ (by omega), share z _ (by omega)]

/-! ## First bytes of characters -/

/-- Where a character stands, the first byte announces some of the bytes behind it. -/
lemma announces_of_isPrefix {c : Char} {b : UInt8} {bytes : Bytes}
    (front : String.utf8EncodeChar c <+: b :: bytes) :
    ∃ lead tail, Lead.ofByte? b = some lead ∧ Announces lead tail c.toNat ∧ tail <+: bytes := by
  obtain ⟨b', tail, lead, bytes', first, announces⟩ := exists_announces c
  rw [bytes'] at front
  obtain ⟨rfl, behind⟩ := List.cons_prefix_cons.1 front
  exact ⟨lead, tail, first, announces, behind⟩

/-- The first of some continuation bytes continue too. -/
lemma Continues.of_prefix {least greatest : ℕ} {tail tail' : Bytes}
    (h : Continues least greatest tail) (front : tail' <+: tail) :
    Continues least greatest tail' := by
  induction tail' generalizing least greatest tail with
  | nil => trivial
  | cons b tail' ih =>
    obtain ⟨rest, rfl⟩ := front
    exact ⟨h.1, ih h.2 (List.prefix_append tail' rest)⟩

/-- Continuation bytes can be made as many as asked for.

**Proof sketch.** Induction on the bytes that are there. If there are none, the least second byte and
then bytes `80` are added. -/
lemma Continues.exists_append {least greatest count : ℕ} {tail : Bytes} (order : least ≤ greatest)
    (byte : greatest ≤ 0xBF) (h : Continues least greatest tail) (few : tail.length ≤ count) :
    ∃ more, (tail ++ more).length = count ∧ Continues least greatest (tail ++ more) := by
  induction tail generalizing least greatest count with
  | nil =>
    have pad : ∀ n, Continues 0x80 0xBF (List.replicate n 0x80) := by
      intro n
      induction n with
      | zero => trivial
      | succ n ih => exact ⟨by decide, ih⟩
    cases count with
    | zero => exact ⟨[], rfl, trivial⟩
    | succ count =>
      have small : least < 256 := by omega
      have second : (UInt8.ofNat least).toNat = least := UInt8.toNat_ofNat_of_lt' small
      refine ⟨UInt8.ofNat least :: List.replicate count 0x80, by simp, ?_, pad count⟩
      omega
  | cons b tail ih =>
    obtain ⟨count, rfl⟩ : ∃ n, count = n + 1 := ⟨count - 1, by simp at few; omega⟩
    obtain ⟨more, length, continues⟩ := ih (by omega) (by omega) h.2 (by simpa using few)
    exact ⟨more, by simpa using length, h.1, continues⟩

/-- Bytes are the first ones of some character exactly if the first of them announces the others. -/
lemma isPrefix_utf8EncodeChar_iff {b : UInt8} {tail : Bytes} :
    (∃ c, b :: tail <+: String.utf8EncodeChar c) ↔
      ∃ lead, Lead.ofByte? b = some lead ∧ tail.length ≤ lead.count ∧
        Continues lead.least lead.greatest tail := by
  constructor
  · rintro ⟨c, rest, whole⟩
    obtain ⟨b', tail', lead, bytes, first, announces⟩ := exists_announces c
    obtain ⟨rfl, rfl⟩ := List.cons.inj (bytes.symm.trans whole.symm)
    have front : tail <+: tail ++ rest := List.prefix_append tail rest
    refine ⟨lead, first, ?_, announces.continues.of_prefix front⟩
    rw [← announces.count]
    exact front.length_le
  · rintro ⟨lead, first, few, continues⟩
    obtain ⟨order, byte⟩ := bounds_of_ofByte? first
    obtain ⟨more, count, whole⟩ := continues.exists_append order byte few
    refine ⟨Char.ofNat (codePoint lead.bits (tail ++ more)), more, ?_⟩
    rw [utf8EncodeChar_of_continues first count whole]
    rfl

/-! ## Cutting a segment off -/

/-- The continuation bytes that are taken are those at the front, and no more could be taken.

**Proof sketch.** Induction on the number of bytes that may be taken. -/
lemma takeTail_spec (count least greatest : ℕ) (bytes : Bytes) :
    let taken := takeTail count least greatest bytes
    taken.1 ++ taken.2 = bytes ∧ Continues least greatest taken.1 ∧ taken.1.length ≤ count ∧
      ∀ tail, tail <+: bytes → Continues least greatest tail → tail.length ≤ count →
        tail.length ≤ taken.1.length := by
  induction count generalizing least greatest bytes with
  | zero => exact ⟨rfl, trivial, Nat.le_refl 0, fun _ _ _ few => few⟩
  | succ count ih =>
    cases bytes with
    | nil =>
      refine ⟨rfl, trivial, by simp [takeTail], fun tail front _ _ => ?_⟩
      simp [List.prefix_nil.1 front]
    | cons b bytes =>
      by_cases within : least ≤ b.toNat ∧ b.toNat ≤ greatest
      · obtain ⟨whole, continues, few, longest⟩ := ih 0x80 0xBF bytes
        simp only [takeTail, if_pos within]
        refine ⟨congrArg (b :: ·) whole, ⟨within, continues⟩, by simpa using few, ?_⟩
        intro tail front follows few'
        cases tail with
        | nil => simp
        | cons b' tail =>
          have front' := (List.cons_prefix_cons.1 front).2
          simpa using longest tail front' follows.2 (by simpa using few')
      · simp only [takeTail, if_neg within]
        refine ⟨rfl, trivial, by simp, fun tail front follows _ => ?_⟩
        cases tail with
        | nil => simp
        | cons b' tail =>
          obtain rfl := (List.cons_prefix_cons.1 front).1
          exact absurd follows.1 within

/-- A byte that no character starts with is a piece of its own. -/
lemma maximalSubpart_singleton {b : UInt8} (first : Lead.ofByte? b = none) (bytes : Bytes) :
    MaximalSubpart [b] bytes := by
  have none : ∀ {tail : Bytes} {c : Char}, ¬b :: tail <+: String.utf8EncodeChar c := by
    intro tail c front
    obtain ⟨lead, announced, -⟩ := isPrefix_utf8EncodeChar_iff.1 ⟨c, front⟩
    cases first.symm.trans announced
  refine ⟨by simp, fun c front => ?_, .inl rfl, ?_⟩
  · obtain ⟨lead, -, announced, -⟩ := announces_of_isPrefix front
    cases first.symm.trans announced
  · rintro part front (single | ⟨c, starts⟩)
    · exact Nat.le_of_eq single
    · cases part with
      | nil => simp
      | cons b' part =>
        obtain rfl := (List.cons_prefix_cons.1 front).1
        exact absurd starts none

/-- A first byte with fewer bytes than it announces is a piece, if no more bytes continue it. -/
lemma maximalSubpart_cons {b : UInt8} {lead : Lead} {tail rest : Bytes}
    (first : Lead.ofByte? b = some lead) (continues : Continues lead.least lead.greatest tail)
    (few : tail.length < lead.count)
    (longest : ∀ tail', tail' <+: tail ++ rest → Continues lead.least lead.greatest tail' →
      tail'.length ≤ lead.count → tail'.length ≤ tail.length) :
    MaximalSubpart (b :: tail) rest := by
  refine ⟨by simp, fun c front => ?_, .inr ?_, ?_⟩
  · obtain ⟨lead', tail', first', announces, behind⟩ := announces_of_isPrefix front
    obtain rfl := Option.some.inj (first.symm.trans first')
    have count := announces.count
    have enough := longest tail' behind announces.continues (by omega)
    omega
  · exact isPrefix_utf8EncodeChar_iff.2 ⟨lead, first, Nat.le_of_lt few, continues⟩
  · rintro part front (single | ⟨c, starts⟩)
    · simp [single]
    · cases part with
      | nil => simp
      | cons b' part =>
        obtain ⟨rfl, front'⟩ := List.cons_prefix_cons.1 front
        obtain ⟨lead', first', few', continues'⟩ := isPrefix_utf8EncodeChar_iff.1 ⟨c, starts⟩
        obtain rfl := Option.some.inj (first.symm.trans first')
        simpa using longest part front' continues' few'

/-- The first segment that is cut off stands at the front.

**Proof sketch.** If the first byte announces nothing, no character starts with it. Otherwise as many of
the announced bytes are taken as are there. All of them make a character; fewer make a piece that no
other byte continues. -/
lemma startsWith_firstSegment (b : UInt8) (bytes : Bytes) :
    StartsWith (b :: bytes) (firstSegment b bytes).1 (firstSegment b bytes).2 := by
  unfold firstSegment
  cases first : Lead.ofByte? b with
  | none => exact .broken (maximalSubpart_singleton first bytes)
  | some lead =>
    obtain ⟨whole, continues, few, longest⟩ :=
      takeTail_spec lead.count lead.least lead.greatest bytes
    simp only
    generalize takeTail lead.count lead.least lead.greatest bytes = taken at whole continues few longest
    obtain ⟨tail, rest⟩ := taken
    simp only at whole continues few longest ⊢
    obtain rfl := whole
    split_ifs with full
    · have scalar := utf8EncodeChar_of_continues first full continues
      have starts := StartsWith.scalar (Char.ofNat (codePoint lead.bits tail)) rest
      rwa [scalar] at starts
    · exact .broken (maximalSubpart_cons first continues (by omega) longest)

/-- Only one segment can stand at the front of a byte sequence.

**Proof sketch.** A character excludes an ill-formed subpart there. Two characters are both what is cut
off, and of two maximal subparts none is longer. -/
lemma StartsWith.unique {bytes rest rest' : Bytes} {segment segment' : Segment}
    (h : StartsWith bytes segment rest) (h' : StartsWith bytes segment' rest') :
    segment = segment' ∧ rest = rest' := by
  cases h with
  | scalar c =>
    generalize whole : String.utf8EncodeChar c ++ rest = bytes at h'
    cases h' with
    | scalar c' =>
      obtain ⟨b, tail, split, first⟩ := exists_firstSegment_utf8EncodeChar c rest
      obtain ⟨b', tail', split', first'⟩ := exists_firstSegment_utf8EncodeChar c' rest'
      obtain ⟨rfl, rfl⟩ := List.cons.inj ((split.symm.trans whole).trans split')
      exact Prod.mk.inj (first.symm.trans first')
    | broken maximal => exact absurd ⟨rest, whole⟩ (maximal.unconvertible c)
  | @broken part _ maximal =>
    generalize whole : part ++ rest = bytes at h'
    cases h' with
    | scalar c => exact absurd ⟨rest', whole.symm⟩ (maximal.unconvertible c)
    | @broken part' _ maximal' =>
      have shorter := maximal'.longest part ⟨rest, whole⟩ maximal.subpart
      have longer := maximal.longest part' ⟨rest', whole.symm⟩ maximal'.subpart
      obtain ⟨rfl, rfl⟩ := List.append_inj whole (by omega)
      exact ⟨rfl, rfl⟩

/-- A byte sequence with a segment at its front is not empty, and that segment is what is cut off. -/
lemma StartsWith.exists_firstSegment {bytes rest : Bytes} {segment : Segment}
    (h : StartsWith bytes segment rest) :
    ∃ b tail, bytes = b :: tail ∧ firstSegment b tail = (segment, rest) := by
  have nonempty : bytes ≠ [] := by
    cases h with
    | scalar c =>
      obtain ⟨b, tail, lead, bytes', -⟩ := exists_announces c
      simp [bytes']
    | broken maximal => simp [maximal.nonempty]
  obtain ⟨b, tail, rfl⟩ := List.exists_cons_of_ne_nil nonempty
  obtain ⟨same, same'⟩ := (startsWith_firstSegment b tail).unique h
  exact ⟨b, tail, rfl, Prod.ext same same'⟩

/-! ## Cutting all segments -/

/-- The segments of a byte sequence are cut behind those that are done.

**Proof sketch.** Induction on the segments. The first of them is what is cut off first. -/
lemma Segmented.segmentsOnto_eq {bytes : Bytes} {segments : List Segment}
    (h : Segmented bytes segments) (done : List Segment) :
    segmentsOnto done bytes = done.reverse ++ segments := by
  induction h generalizing done with
  | nil => rw [segmentsOnto, List.append_nil]
  | cons first _ ih =>
    obtain ⟨b, tail, rfl, cut⟩ := first.exists_firstSegment
    rw [segmentsOnto, cut, ih]
    simp

/-- Every byte sequence has segments.

**Proof sketch.** Induction along the cutting. -/
lemma exists_segmented (bytes : Bytes) : ∃ segments, Segmented bytes segments := by
  fun_induction segmentsOnto [] bytes with
  | case1 => exact ⟨[], .nil⟩
  | case2 _ b bytes ih =>
    obtain ⟨segments, others⟩ := ih
    exact ⟨_, .cons (startsWith_firstSegment b bytes) others⟩

/-- The segments that are cut are those of the definition. -/
lemma segmented_iff {bytes : Bytes} {segments' : List Segment} :
    Segmented bytes segments' ↔ segments bytes = segments' := by
  have cut : ∀ {segments'}, Segmented bytes segments' → segments bytes = segments' :=
    fun h => h.segmentsOnto_eq []
  constructor
  · exact cut
  · rintro rfl
    obtain ⟨segments', h⟩ := exists_segmented bytes
    rwa [cut h]

/-- Characters in front of other bytes are segments of their own. -/
lemma Segmented.encodeChars_append {bytes : Bytes} {segments : List Segment}
    (h : Segmented bytes segments) (cs : List Char) :
    Segmented (encodeChars cs ++ bytes) (cs.map Segment.scalar ++ segments) := by
  induction cs with
  | nil => exact h
  | cons c cs ih =>
    have whole : encodeChars (c :: cs) ++ bytes =
        String.utf8EncodeChar c ++ (encodeChars cs ++ bytes) := by
      simp [encodeChars]
    rw [whole]
    exact .cons (.scalar c _) ih

/-- A text in front of other bytes shows as it is. -/
lemma decodeLossy_encode_append (text : String) (bytes : Bytes) :
    decodeLossy (encode text ++ bytes) = text ++ decodeLossy bytes := by
  have cut : Segmented bytes (segments bytes) := segmented_iff.2 rfl
  have shown : Segment.shown ∘ Segment.scalar = id := rfl
  rw [decodeLossy, encode, segmented_iff.1 (cut.encodeChars_append text.toList), List.map_append,
    List.map_map, shown, List.map_id, String.ofList_append, String.ofList_toList, decodeLossy]

/-- Well-formed are the bytes of texts. -/
lemma validateUTF8_iff {bytes : Bytes} :
    bytes.toByteArray.validateUTF8 = true ↔ ∃ text, encode text = bytes := by
  rw [← encode_decodeLossy_iff]
  constructor
  · intro same
    exact ⟨_, same⟩
  · rintro ⟨text, rfl⟩
    rw [decodeLossy_encode]

end Utf8

/-! ## Payloads -/

open Utf8

/-- **Payloads as texts**: bytes can be cut into the sequences of characters and maximal ill-formed
subparts in exactly one way, and the text has the character of each of the first and one replacement
character for each of the second. So the bytes of the text are those of the payload exactly if these are
well-formed, the bytes of the text show as the text itself, and well-formed bytes in front of others show
as their own text in front. A text and its bytes are the same payload, as a text and as bytes. -/
theorem Payload.toText_segmented (bytes : Bytes) :
    (∃! segments, Segmented bytes segments) ∧
      (∀ segments, Segmented bytes segments →
        (Payload.binary bytes).toText = String.ofList (segments.map Segment.shown)) ∧
      (encode (Payload.binary bytes).toText = bytes ↔ bytes.toByteArray.validateUTF8 = true) ∧
      (Payload.binary (encode (Payload.binary bytes).toText)).toText =
        (Payload.binary bytes).toText ∧
      (∀ front : Bytes, front.toByteArray.validateUTF8 = true →
        (Payload.binary (front ++ bytes)).toText =
          (Payload.binary front).toText ++ (Payload.binary bytes).toText) ∧
      ∀ text : String, (Payload.text text).toText = (Payload.binary (encode text)).toText ∧
        (Payload.text text).toBytes = (Payload.binary (encode text)).toBytes := by
  refine ⟨⟨segments bytes, segmented_iff.2 rfl, fun _ h => (segmented_iff.1 h).symm⟩, ?_,
    encode_decodeLossy_iff, decodeLossy_encode _, ?_, fun text => ⟨?_, rfl⟩⟩
  · intro segments' h
    show decodeLossy bytes = _
    rw [decodeLossy, segmented_iff.1 h]
  · intro front wellFormed
    obtain ⟨text, rfl⟩ := validateUTF8_iff.1 wellFormed
    show decodeLossy (encode text ++ bytes) = decodeLossy (encode text) ++ decodeLossy bytes
    rw [decodeLossy_encode_append, decodeLossy_encode]
  · exact (decodeLossy_encode text).symm

/-- An overlong form, a number behind the last code point and a letter that cuts a character short, of
which the bytes `E2 82` alone are one piece, with a well-formed letter in front. -/
theorem Payload.toText_segmented_cut_short :
    let bytes : Bytes := [0xE0, 0x9F, 0xF4, 0x90, 0xE2, 0x82, 0x41]
    Segmented bytes [.broken [0xE0], .broken [0x9F], .broken [0xF4], .broken [0x90],
        .broken [0xE2, 0x82], .scalar 'A'] ∧
      (Payload.binary bytes).toText = "\uFFFD\uFFFD\uFFFD\uFFFD\uFFFDA" ∧
      encode (Payload.binary bytes).toText ≠ bytes ∧
      (Payload.binary ([0xC3, 0xA9] ++ bytes)).toText = "é\uFFFD\uFFFD\uFFFD\uFFFD\uFFFDA" := by
  intro bytes
  have cut : Segmented bytes [.broken [0xE0], .broken [0x9F], .broken [0xF4], .broken [0x90],
      .broken [0xE2, 0x82], .scalar 'A'] :=
    .cons (startsWith_firstSegment 0xE0 _) <| .cons (startsWith_firstSegment 0x9F _) <|
      .cons (startsWith_firstSegment 0xF4 _) <| .cons (startsWith_firstSegment 0x90 _) <|
        .cons (startsWith_firstSegment 0xE2 _) <| .cons (startsWith_firstSegment 0x41 _) .nil
  have front : ([0xC3, 0xA9] : Bytes).toByteArray.validateUTF8 = true :=
    validateUTF8_iff.2 ⟨"é", by decide⟩
  obtain ⟨-, shown, same, -, behind, -⟩ := Payload.toText_segmented bytes
  have text : (Payload.binary bytes).toText = "\uFFFD\uFFFD\uFFFD\uFFFD\uFFFDA" := shown _ cut
  refine ⟨cut, text, fun h => absurd (same.1 h) (by decide), ?_⟩
  rw [behind _ front, text]
  have letter : (Payload.binary [0xC3, 0xA9]).toText = "é" := decodeLossy_encode "é"
  rw [letter]
  decide

end FrameConsole
