import FrameConsole.Proofs.Text.Numeral
import FrameConsole.Proofs.Text.Utf8

/-!
# Bytes in hexadecimal

The form of a byte sequence with two digits for each byte, said without reference to the functions that
write and read it. Digits are written in lower case and read in either case: exactly the texts of an even
number of digits are read, and the bytes that are read are written as the same digits in lower case.

## Main definitions

* `FrameConsole.IsLowerHexDigit` — a lower-case digit and the value it has.
* `FrameConsole.HexPairs` — a text of lower-case digits and the bytes it stands for.
* `FrameConsole.DigitPairs` — a text of digits of either case and the bytes it stands for.

## Main results

* `FrameConsole.hexPairs_encode` — bytes are written in lower-case digits.
* `FrameConsole.decode_eq_ok_iff` — what is read are the bytes that the digits stand for.
* `FrameConsole.exists_digitPairs_iff` — which texts stand for bytes.
* `FrameConsole.DigitPairs.encode_eq` — bytes that have been read are written in lower case.
-/

namespace FrameConsole

/-- The lower-case hexadecimal digit `c` has the value `n`. -/
def IsLowerHexDigit (c : Char) (n : ℕ) : Prop :=
  ['0', '1', '2', '3', '4', '5', '6', '7', '8', '9', 'a', 'b', 'c', 'd', 'e', 'f'][n]? = some c

instance (c : Char) (n : ℕ) : Decidable (IsLowerHexDigit c n) :=
  inferInstanceAs (Decidable (_ = _))

/-- Two lower-case digits for each byte, the high half of the byte first. -/
inductive HexPairs : List Char → Bytes → Prop
  /-- No bytes. -/
  | nil : HexPairs [] []
  /-- A byte and those behind it. -/
  | cons {high low : Char} {b : UInt8} {digits : List Char} {bytes : Bytes}
      (first : IsLowerHexDigit high (b.toNat / 16)) (second : IsLowerHexDigit low (b.toNat % 16))
      (rest : HexPairs digits bytes) : HexPairs (high :: low :: digits) (b :: bytes)

/-- Two digits of either letter case for each byte, the high half of the byte first. -/
inductive DigitPairs : List Char → Bytes → Prop
  /-- No bytes. -/
  | nil : DigitPairs [] []
  /-- A byte and those behind it. -/
  | cons {high low : Char} {b : UInt8} {digits : List Char} {bytes : Bytes}
      (first : IsHexDigit high (b.toNat / 16)) (second : IsHexDigit low (b.toNat % 16))
      (rest : DigitPairs digits bytes) : DigitPairs (high :: low :: digits) (b :: bytes)

/-- Two digits stand for the byte that has their values as its halves. -/
lemma DigitPairs.of_values {high low : Char} {h l : ℕ} {digits : List Char} {bytes : Bytes}
    (first : IsHexDigit high h) (second : IsHexDigit low l) (rest : DigitPairs digits bytes) :
    DigitPairs (high :: low :: digits) (UInt8.ofNat (h * 16 + l) :: bytes) := by
  have highRange := first.lt
  have lowRange := second.lt
  have value : (UInt8.ofNat (h * 16 + l)).toNat = h * 16 + l :=
    UInt8.toNat_ofNat_of_lt' (by show h * 16 + l < 256; omega)
  refine .cons ?_ ?_ rest
  · rwa [value, show (h * 16 + l) / 16 = h by omega]
  · rwa [value, show (h * 16 + l) % 16 = l by omega]

/-- Lower-case digits are digits. -/
lemma HexPairs.digitPairs {digits : List Char} {bytes : Bytes} (h : HexPairs digits bytes) :
    DigitPairs digits bytes := by
  induction h with
  | nil => exact .nil
  | cons first second _ ih => exact .cons (.inl first) (.inl second) ih

/-! ## Writing -/

/-- The digit that is written for a value below sixteen has that value. -/
lemma isLowerHexDigit_digitChar : ∀ n < 16, IsLowerHexDigit (Hex.digitChar n) n := by
  decide

/-- Bytes are written with two lower-case digits each. -/
lemma hexPairs_encode (bytes : Bytes) : HexPairs (Hex.encode bytes) bytes := by
  induction bytes with
  | nil => exact .nil
  | cons b bytes ih =>
    have range := b.toNat_lt
    exact .cons (isLowerHexDigit_digitChar _ (by omega)) (isLowerHexDigit_digitChar _ (by omega)) ih

/-- The digit that is written for the value of a digit is that digit in lower case. -/
lemma IsHexDigit.digitChar_eq {c : Char} {n : ℕ} (h : IsHexDigit c n) :
    Hex.digitChar n = c.toLower := by
  have hn : n < 16 := h.lt
  rcases h with h | h <;> interval_cases n <;> obtain rfl := Option.some.inj h <;> decide

/-- The bytes that digits stand for are written as the same digits in lower case. -/
lemma DigitPairs.encode_eq {digits : List Char} {bytes : Bytes} (h : DigitPairs digits bytes) :
    Hex.encode bytes = digits.map Char.toLower := by
  induction h with
  | nil => rfl
  | @cons high low b digits bytes first second _ ih =>
    show Hex.encodeByte b ++ Hex.encode bytes = _
    rw [Hex.encodeByte, first.digitChar_eq, second.digitChar_eq, ih]
    rfl

/-! ## Reading -/

/-- A digit is one byte of text. -/
lemma IsHexDigit.utf8EncodeChar_eq {c : Char} {n : ℕ} (h : IsHexDigit c n) :
    String.utf8EncodeChar c = [UInt8.ofNat c.toNat] := by
  have hn : n < 16 := h.lt
  rcases h with h | h <;> interval_cases n <;> obtain rfl := Option.some.inj h <;> rfl

/-- The byte of a digit is read as the value of the digit. -/
lemma IsHexDigit.digitAt_eq {c : Char} {n : ℕ} (h : IsHexDigit c n) (offset : ℕ) :
    Hex.digitAt offset (UInt8.ofNat c.toNat) = .ok n := by
  have hn : n < 16 := h.lt
  rcases h with h | h <;> interval_cases n <;> obtain rfl := Option.some.inj h <;> rfl

/-- A digit comes to the bytes as its one byte. -/
lemma IsHexDigit.encodeChars_cons {c : Char} {n : ℕ} (h : IsHexDigit c n) (cs : List Char) :
    Utf8.encodeChars (c :: cs) = UInt8.ofNat c.toNat :: Utf8.encodeChars cs := by
  simp [Utf8.encodeChars, h.utf8EncodeChar_eq]

/-- Digits in pairs are read as bytes, wherever they stand.

**Proof sketch.** Induction on the bytes. Each digit is one byte of the text, and the two halves make
up the byte that they were taken from. -/
lemma DigitPairs.decodePairs_eq {digits : List Char} {bytes : Bytes} (h : DigitPairs digits bytes)
    (offset : ℕ) : Hex.decodePairs offset (Utf8.encodeChars digits) = .ok bytes := by
  induction h generalizing offset with
  | nil => rfl
  | @cons high low b digits bytes first second _ ih =>
    have whole : UInt8.ofNat (b.toNat / 16 * 16 + b.toNat % 16) = b := by
      rw [Nat.div_add_mod', UInt8.ofNat_toNat]
    rw [first.encodeChars_cons, second.encodeChars_cons]
    simp only [Hex.decodePairs, first.digitAt_eq, second.digitAt_eq, ih, bind, Except.bind, pure,
      Except.pure, whole]

/-- Digits in pairs are two bytes of text for each byte. -/
lemma DigitPairs.length_eq {digits : List Char} {bytes : Bytes} (h : DigitPairs digits bytes) :
    (Utf8.encodeChars digits).length = 2 * bytes.length := by
  induction h with
  | nil => rfl
  | cons first second _ ih =>
    rw [first.encodeChars_cons, second.encodeChars_cons]
    simp only [List.length_cons, ih]
    omega

/-- A text of digits in pairs is read as the bytes that it stands for. -/
lemma DigitPairs.decode_eq {digits : List Char} {bytes : Bytes} (h : DigitPairs digits bytes) :
    Hex.decode (Utf8.encodeChars digits) = .ok bytes := by
  have even : (Utf8.encodeChars digits).length % 2 = 0 := by
    rw [h.length_eq]
    omega
  rw [Hex.decode, if_pos even]
  exact h.decodePairs_eq 0

/-- A byte that is read as a value is the byte of a digit with that value. -/
lemma exists_digit_of_digitAt {offset n : ℕ} {b : UInt8} (h : Hex.digitAt offset b = .ok n) :
    ∃ c, IsHexDigit c n ∧ UInt8.ofNat c.toNat = b := by
  unfold Hex.digitAt at h
  split at h
  · rename_i value
    cases h
    have range := b.toNat_lt
    have valid : b.toNat.isValidChar := .inl (by omega)
    have same : (Char.ofNat b.toNat).toNat = b.toNat := by
      rw [Char.ofNat, dif_pos valid]
      rfl
    exact ⟨_, (isHexDigit_iff _ _).2 value, by rw [same, UInt8.ofNat_toNat]⟩
  · cases h

/-- Bytes of text that are read in pairs are those of digits in pairs.

**Proof sketch.** Induction along the reading, which takes the bytes of two digits at a time. -/
lemma exists_digitPairs_of_decodePairs {offset : ℕ} {text bytes : Bytes}
    (even : text.length % 2 = 0) (h : Hex.decodePairs offset text = .ok bytes) :
    ∃ digits, text = Utf8.encodeChars digits ∧ DigitPairs digits bytes := by
  fun_induction Hex.decodePairs offset text generalizing bytes with
  | case1 offset high low rest ih =>
    simp only [bind, Except.bind, pure, Except.pure] at h
    split at h
    · cases h
    · rename_i hi readHigh
      split at h
      · cases h
      · rename_i lo readLow
        split at h
        · cases h
        · rename_i behind read
          cases h
          simp only [List.length_cons] at even
          obtain ⟨digits, rfl, pairs⟩ := ih (by omega) read
          obtain ⟨c, first, rfl⟩ := exists_digit_of_digitAt readHigh
          obtain ⟨d, second, rfl⟩ := exists_digit_of_digitAt readLow
          exact ⟨c :: d :: digits, by rw [first.encodeChars_cons, second.encodeChars_cons],
            .of_values first second pairs⟩
  | case2 text _ other =>
    cases h
    match text, even with
    | [], _ => exact ⟨[], rfl, .nil⟩
    | high :: low :: rest, _ => exact absurd rfl (other high low rest)

/-- What is read off a text are the bytes that its digits stand for. -/
lemma decode_eq_ok_iff {text : String} {bytes : Bytes} :
    Hex.decode (Utf8.encode text) = .ok bytes ↔ DigitPairs text.toList bytes := by
  refine ⟨fun h => ?_, DigitPairs.decode_eq⟩
  unfold Hex.decode at h
  split_ifs at h with even
  obtain ⟨digits, same, pairs⟩ := exists_digitPairs_of_decodePairs even h
  have shown : text = String.ofList digits := by
    rw [← Utf8.decodeLossy_encode text, same, ← Utf8.decodeLossy_encode (.ofList digits), Utf8.encode,
      String.toList_ofList]
  rwa [shown, String.toList_ofList]

/-! ## Texts of digits -/

/-- An even number of hexadecimal digits of either letter case. -/
def IsHexText (text : String) : Prop :=
  text.toList.length % 2 = 0 ∧ ∀ c ∈ text.toList, ∃ n, IsHexDigit c n

/-- An even number of digits stand for bytes.

**Proof sketch.** Recursion over the digits, two at a time. -/
lemma exists_digitPairs_of_even : ∀ {digits : List Char}, digits.length % 2 = 0 →
    (∀ c ∈ digits, ∃ n, IsHexDigit c n) → ∃ bytes, DigitPairs digits bytes
  | [], _, _ => ⟨[], .nil⟩
  | [_], even, _ => absurd even (by simp)
  | high :: low :: digits, even, all => by
    simp only [List.forall_mem_cons] at all
    obtain ⟨⟨h, first⟩, ⟨l, second⟩, all⟩ := all
    obtain ⟨bytes, pairs⟩ :=
      exists_digitPairs_of_even (by simp only [List.length_cons] at even; omega) all
    exact ⟨_, .of_values first second pairs⟩

/-- Exactly the texts of an even number of digits stand for bytes. -/
lemma exists_digitPairs_iff {text : String} :
    (∃ bytes, DigitPairs text.toList bytes) ↔ IsHexText text := by
  refine ⟨?_, fun ⟨even, all⟩ => exists_digitPairs_of_even even all⟩
  rintro ⟨bytes, h⟩
  unfold IsHexText
  generalize text.toList = digits at h
  induction h with
  | nil => simp
  | cons first second _ ih =>
    obtain ⟨even, all⟩ := ih
    simp only [List.length_cons, List.forall_mem_cons]
    exact ⟨by omega, ⟨_, first⟩, ⟨_, second⟩, all⟩

end FrameConsole
