import FrameConsole.Proofs.Template.Grammar
import Mathlib.Data.List.TakeWhile

/-!
# Reading literals

The readers of digits, integers, strings and arguments against the grammar. For each of them one
lemma says that a word of the grammar is read off the front of any text that does not go on with
the word, and one that whatever is read is a word of the grammar.

## Main results

* `FrameConsole.readHex_append`, `FrameConsole.readHex_sound` — bounded runs of digits.
* `FrameConsole.readInteger_append`, `FrameConsole.readInteger_sound` — integers.
* `FrameConsole.readString_append`, `FrameConsole.readString_sound` — strings.
* `FrameConsole.readArgument_append`, `FrameConsole.readArgument_sound` — arguments.
-/

namespace FrameConsole

open Grammar

/-! ## Runs of characters -/

/-- A text does not start with a character of the class `p`. -/
def StopsAt (p : Char → Bool) (rest : List Char) : Prop :=
  ∀ c, rest.head? = some c → p c = false

/-- A run of the class `p` is the longest one at the front of a text that stops it. -/
lemma takeWhile_run {p : Char → Bool} {run rest : List Char} (all : ∀ c ∈ run, p c = true)
    (stop : StopsAt p rest) : (run ++ rest).takeWhile p = run := by
  rw [List.takeWhile_append_of_pos all]
  cases rest with
  | nil => simp
  | cons c rest => simp [stop c rfl]

/-- What follows a run of the class `p` is left when the class is dropped from the front. -/
lemma dropWhile_run {p : Char → Bool} {run rest : List Char} (all : ∀ c ∈ run, p c = true)
    (stop : StopsAt p rest) : (run ++ rest).dropWhile p = rest := by
  rw [List.dropWhile_append_of_pos all]
  cases rest with
  | nil => simp
  | cons c rest => simp [stop c rfl]

/-- Blanks at the front of a text are skipped. -/
lemma skipBlanks_append {blanks rest : List Char} (h : Blanks blanks)
    (stop : StopsAt isBlank rest) : skipBlanks (blanks ++ rest) = rest :=
  dropWhile_run h stop

/-- What is skipped is a run of blanks. -/
lemma skipBlanks_sound (cs : List Char) : ∃ blanks, Blanks blanks ∧ cs = blanks ++ skipBlanks cs :=
  ⟨cs.takeWhile isBlank, fun _ => List.mem_takeWhile_imp, List.takeWhile_append_dropWhile.symm⟩

/-! ## Classes of characters -/

/-- Blanks lie outside of the visible characters of the ASCII alphabet. -/
lemma toNat_of_isBlank {c : Char} (h : isBlank c = true) : c.toNat ≤ 0x20 ∨ 0x85 ≤ c.toNat := by
  simp only [isBlank, blankRanges, Ranges.covers, Bool.and_eq_true, Bool.or_eq_true,
    decide_eq_true_eq] at h
  omega

/-- Hexadecimal digits lie between `0` and `f`. -/
lemma toNat_of_isHexDigit {c : Char} (h : Hex.isDigit c = true) :
    48 ≤ c.toNat ∧ c.toNat ≤ 102 := by
  simp only [Hex.isDigit, Hex.digit?] at h
  split_ifs at h with digit small capital
  · have h₁ : 48 ≤ c.toNat := digit.1
    have h₂ : c.toNat ≤ 57 := digit.2
    omega
  · have h₁ : 97 ≤ c.toNat := small.1
    have h₂ : c.toNat ≤ 102 := small.2
    omega
  · have h₁ : 65 ≤ c.toNat := capital.1
    have h₂ : c.toNat ≤ 70 := capital.2
    omega
  · simp at h

/-- Decimal digits are hexadecimal ones. -/
lemma isHexDigit_of_isDigit {c : Char} (h : c.isDigit = true) : Hex.isDigit c = true := by
  have bounds : 48 ≤ c.val ∧ c.val ≤ 57 := by simpa [Char.isDigit] using h
  have range : '0' ≤ c ∧ c ≤ '9' := bounds
  simp [Hex.isDigit, Hex.digit?, range]

/-- What follows an argument, as far as its reader looks: a blank, a comma, a closing parenthesis
or nothing. -/
def Separated (rest : List Char) : Prop :=
  ∀ c, rest.head? = some c → isBlank c = true ∨ c = ',' ∨ c = ')'

/-- What separates arguments is no hexadecimal digit and no marker of such digits. -/
lemma Separated.ne {rest : List Char} (h : Separated rest) {c : Char} (hc : rest.head? = some c) :
    Hex.isDigit c = false ∧ c ≠ 'x' ∧ c ≠ 'X' := by
  have hex := @toNat_of_isHexDigit c
  rw [← Bool.not_eq_true]
  rcases h c hc with blank | rfl | rfl
  · have far := toNat_of_isBlank blank
    refine ⟨fun digit => ?_, ?_, ?_⟩
    · have := hex digit
      omega
    · rintro rfl
      simp at far
    · rintro rfl
      simp at far
  · decide
  · decide

/-- What separates arguments stops a run of hexadecimal digits. -/
lemma Separated.stopsAt_hex {rest : List Char} (h : Separated rest) : StopsAt Hex.isDigit rest :=
  fun _ hc => (h.ne hc).1

/-- What separates arguments stops a run of decimal digits. -/
lemma Separated.stopsAt_decimal {rest : List Char} (h : Separated rest) :
    StopsAt Char.isDigit rest := by
  intro c hc
  rw [← Bool.not_eq_true]
  intro digit
  simpa [isHexDigit_of_isDigit digit] using (h.ne hc).1

/-! ## Bounded runs of digits -/

/-- Digits whose number lies between the bounds are read if there are as many as possible or no
other digit follows. -/
lemma readHex_append {least most : ℕ} {digits : List Char} {n : ℕ} (rest : List Char)
    (spelled : Numeral IsHexDigit 16 digits n) (enough : least ≤ digits.length)
    (few : digits.length ≤ most) (stop : digits.length = most ∨ StopsAt Hex.isDigit rest) :
    readHex least most (digits ++ rest) = .ok (n, rest) := by
  obtain ⟨all, value⟩ := numeral_hex_iff.1 spelled
  have taken : ((digits ++ rest).take most).takeWhile Hex.isDigit = digits := by
    rw [List.take_append, List.take_of_length_le few]
    refine takeWhile_run all fun c hc => ?_
    rcases stop with full | stop
    · simp [full] at hc
    · have hpos : most - digits.length ≠ 0 := by
        rintro zero
        simp [zero] at hc
      exact stop c (by simpa [List.head?_take, hpos] using hc)
  simp only [readHex, taken]
  rw [if_neg (by omega), value, List.drop_left]

/-- Digits that are read spell their number, and there are as many as asked for. -/
lemma readHex_sound {least most : ℕ} {cs rest : List Char} {n : ℕ}
    (h : readHex least most cs = .ok (n, rest)) :
    ∃ digits, cs = digits ++ rest ∧ Numeral IsHexDigit 16 digits n ∧ least ≤ digits.length ∧
      digits.length ≤ most := by
  simp only [readHex] at h
  split at h
  · cases h
  · rename_i enough
    set digits := (cs.take most).takeWhile Hex.isDigit with hdigits
    cases h
    have front : digits <+: cs := (List.takeWhile_prefix _).trans (List.take_prefix most cs)
    refine ⟨digits, (List.prefix_iff_eq_append.1 front).symm, ?_, by omega, ?_⟩
    · exact numeral_hex_iff.2 ⟨fun _ => List.mem_takeWhile_imp, rfl⟩
    · calc digits.length ≤ (cs.take most).length := (List.takeWhile_prefix _).length_le
        _ ≤ most := by simp

/-! ## Integers -/

/-- The integer of a sign and a magnitude. -/
def signed (negative : Bool) (n : ℕ) : ℤ :=
  if negative then -n else n

/-- Digits whose magnitude is in range are read up to where they stop. -/
lemma readMagnitude_append (start : List Char) (negative : Bool) {base : ℕ} {test : Char → Bool}
    {digits rest : List Char} (nonempty : digits ≠ []) (all : ∀ c ∈ digits, test c = true)
    (range : Hex.valueIn base digits ≤ 2 ^ 63 - 1) (stop : StopsAt test rest) :
    readMagnitude start negative base test (digits ++ rest) =
      .ok (Int64.ofInt (signed negative (Hex.valueIn base digits)), rest) := by
  have bound : Hex.valueIn base digits < magnitudeBound := by
    simp only [magnitudeBound]
    omega
  simp only [readMagnitude, takeWhile_run all stop, dropWhile_run all stop]
  rw [if_neg (by simpa using nonempty), if_pos bound, signed]

/-- Digits that are read are some, and their magnitude is in range. -/
lemma readMagnitude_sound {start : List Char} {negative : Bool} {base : ℕ} {test : Char → Bool}
    {cs rest : List Char} {value : Int64}
    (h : readMagnitude start negative base test cs = .ok (value, rest)) :
    ∃ digits, cs = digits ++ rest ∧ digits ≠ [] ∧ (∀ c ∈ digits, test c = true) ∧
      Hex.valueIn base digits ≤ 2 ^ 63 - 1 ∧
      value.toInt = signed negative (Hex.valueIn base digits) := by
  simp only [readMagnitude] at h
  split at h
  · cases h
  · rename_i nonempty
    split at h
    · rename_i bound
      cases h
      have range : Hex.valueIn base (cs.takeWhile test) ≤ 2 ^ 63 - 1 := by
        simp only [magnitudeBound] at bound
        omega
      refine ⟨cs.takeWhile test, List.takeWhile_append_dropWhile.symm, by simpa using nonempty,
        fun _ => List.mem_takeWhile_imp, range, ?_⟩
      rw [← signed]
      apply Int64.toInt_ofInt_of_le <;> cases negative <;> simp [signed] <;> omega
    · cases h

/-- Digits with no marker of hexadecimal digits in front are read as decimal ones. -/
lemma readUnsigned_decimal {start cs : List Char} {negative : Bool}
    (unmarked : ∀ c, (cs.drop 1).head? = some c → c ≠ 'x' ∧ c ≠ 'X') :
    readUnsigned start negative cs = readMagnitude start negative 10 Char.isDigit cs := by
  unfold readUnsigned
  split
  · exact absurd rfl (unmarked 'x' rfl).1
  · exact absurd rfl (unmarked 'X' rfl).2
  · rfl

/-- No letter `x` stands behind the first decimal digit of a run, unless it follows a single one. -/
lemma unmarked_of_decimal {digits rest : List Char} (nonempty : digits ≠ [])
    (all : ∀ c ∈ digits, c.isDigit = true)
    (single : digits.length = 1 → ∀ c, rest.head? = some c → c ≠ 'x' ∧ c ≠ 'X') :
    ∀ c, ((digits ++ rest).drop 1).head? = some c → c ≠ 'x' ∧ c ≠ 'X' := by
  intro c hc
  match digits, nonempty with
  | [_], _ => exact single rfl c hc
  | _ :: d :: digits, _ =>
    obtain rfl : d = c := Option.some.inj hc
    have digit : d.isDigit = true := all d (by simp)
    constructor
    · rintro rfl
      simp at digit
    · rintro rfl
      simp at digit

/-- A magnitude that is in range is read. -/
lemma readUnsigned_append {start word rest : List Char} {negative : Bool} {n : ℕ}
    (h : Magnitude word n) (range : n ≤ 2 ^ 63 - 1) (sep : Separated rest) :
    readUnsigned start negative (word ++ rest) = .ok (Int64.ofInt (signed negative n), rest) := by
  cases h with
  | decimal nonempty spelled =>
    obtain ⟨all, rfl⟩ := numeral_decimal_iff.1 spelled
    rw [readUnsigned_decimal (unmarked_of_decimal nonempty all fun _ c hc => (sep.ne hc).2)]
    exact readMagnitude_append start negative nonempty all range sep.stopsAt_decimal
  | hex marker nonempty spelled =>
    obtain ⟨all, rfl⟩ := numeral_hex_iff.1 spelled
    have read := readMagnitude_append start negative nonempty all range
      sep.stopsAt_hex
    rcases marker with rfl | rfl <;> exact read

/-- What is read behind a sign is a magnitude in range. -/
lemma readUnsigned_sound {start cs rest : List Char} {negative : Bool} {value : Int64}
    (h : readUnsigned start negative cs = .ok (value, rest)) :
    ∃ word n, cs = word ++ rest ∧ Magnitude word n ∧ n ≤ 2 ^ 63 - 1 ∧
      value.toInt = signed negative n := by
  unfold readUnsigned at h
  split at h
  · obtain ⟨digits, rfl, nonempty, all, range, hvalue⟩ := readMagnitude_sound h
    exact ⟨_, _, rfl, .hex (.inl rfl) nonempty (numeral_hex_iff.2 ⟨all, rfl⟩), range, hvalue⟩
  · obtain ⟨digits, rfl, nonempty, all, range, hvalue⟩ := readMagnitude_sound h
    exact ⟨_, _, rfl, .hex (.inr rfl) nonempty (numeral_hex_iff.2 ⟨all, rfl⟩), range, hvalue⟩
  · obtain ⟨digits, rfl, nonempty, all, range, hvalue⟩ := readMagnitude_sound h
    exact ⟨_, _, rfl, .decimal nonempty (numeral_decimal_iff.2 ⟨all, rfl⟩), range, hvalue⟩

/-- A magnitude starts with a decimal digit. -/
lemma Grammar.Magnitude.head {word : List Char} {n : ℕ} (h : Magnitude word n) :
    ∃ c cs, word = c :: cs ∧ c.isDigit = true := by
  cases h with
  | decimal nonempty spelled =>
    obtain ⟨c, cs, rfl⟩ := List.exists_cons_of_ne_nil nonempty
    exact ⟨c, cs, rfl, (numeral_decimal_iff.1 spelled).1 c (by simp)⟩
  | hex => exact ⟨'0', _, rfl, rfl⟩

/-- An integer whose magnitude is in range is read. -/
lemma readInteger_append {word rest : List Char} {value : Int64} (h : Integer word value.toInt)
    (range : value.toInt.natAbs ≤ 2 ^ 63 - 1) (sep : Separated rest) :
    readInteger (word ++ rest) = .ok (value, rest) := by
  rw [← Int64.ofInt_toInt value]
  generalize value.toInt = i at h range
  cases h with
  | plain magnitude =>
    obtain ⟨c, cs, rfl, digit⟩ := magnitude.head
    have unsigned : c ≠ '-' := by
      rintro rfl
      simp at digit
    rw [List.cons_append, readInteger]
    · exact readUnsigned_append magnitude range sep
    · simpa using unsigned
  | minus magnitude =>
    exact readUnsigned_append magnitude (by omega) sep

/-- What is read as an integer is one, and its magnitude is in range. -/
lemma readInteger_sound {cs rest : List Char} {value : Int64}
    (h : readInteger cs = .ok (value, rest)) :
    ∃ word, cs = word ++ rest ∧ Integer word value.toInt ∧
      value.toInt.natAbs ≤ 2 ^ 63 - 1 := by
  unfold readInteger at h
  split at h
  · obtain ⟨word, n, rfl, magnitude, range, hvalue⟩ := readUnsigned_sound h
    refine ⟨'-' :: word, rfl, ?_, ?_⟩
    · rw [hvalue]
      exact .minus magnitude
    · rw [hvalue, signed]
      simp only [if_true]
      omega
  · obtain ⟨word, n, rfl, magnitude, range, hvalue⟩ := readUnsigned_sound h
    refine ⟨word, rfl, ?_, ?_⟩
    · rw [hvalue]
      exact .plain magnitude
    · rw [hvalue]
      simpa [signed] using range

/-! ## Strings -/

/-- The body of a string is read up to the closing quote, behind the characters `done`. -/
lemma readString_append (start done rest : List Char) {word value : List Char}
    (h : StringBody word value) :
    readString start done (word ++ '"' :: rest) =
      .ok (String.ofList (done.reverse ++ value), rest) := by
  induction h generalizing done with
  | nil =>
    rw [List.nil_append, readString.eq_def]
    simp
  | plain quote backslash _ ih =>
    rw [List.cons_append, readString.eq_def]
    simp only [if_neg quote, if_neg backslash]
    rw [ih]
    simp
  | escaped special _ ih =>
    rw [List.cons_append, List.cons_append, readString.eq_def]
    simp only [if_pos special, if_true, Char.reduceEq, if_false]
    rw [ih]
    simp

/-- What is read as a string is the body of one and its closing quote. -/
lemma readString_sound {start done cs rest : List Char} {value : String}
    (h : readString start done cs = .ok (value, rest)) :
    ∃ word body, cs = word ++ '"' :: rest ∧ StringBody word body ∧
      value = String.ofList (done.reverse ++ body) := by
  fun_induction readString start done cs with
  | case1 => cases h
  | case2 =>
    cases h
    exact ⟨[], [], rfl, .nil, by simp⟩
  | case3 => cases h
  | case4 done d _ special _ ih =>
    obtain ⟨word, body, rfl, hbody, rfl⟩ := ih h
    exact ⟨'\\' :: d :: word, d :: body, rfl, .escaped special hbody, by simp⟩
  | case5 => cases h
  | case6 done c _ quote backslash ih =>
    obtain ⟨word, body, rfl, hbody, rfl⟩ := ih h
    exact ⟨c :: word, c :: body, rfl, .plain quote backslash hbody, by simp⟩

/-! ## Arguments -/

/-- An integer starts with a minus sign or a decimal digit. -/
lemma Grammar.Integer.head {word : List Char} {i : ℤ} (h : Integer word i) :
    ∃ c cs, word = c :: cs ∧ (c = '-' ∨ c.isDigit = true) := by
  cases h with
  | plain magnitude =>
    obtain ⟨c, cs, hword, digit⟩ := magnitude.head
    exact ⟨c, cs, hword, .inr digit⟩
  | minus => exact ⟨'-', _, rfl, .inl rfl⟩

/-- Decimal digits lie between `0` and `9`. -/
lemma toNat_of_isDigit {c : Char} (h : c.isDigit = true) : 48 ≤ c.toNat ∧ c.toNat ≤ 57 := by
  have bounds : 48 ≤ c.val ∧ c.val ≤ 57 := by simpa [Char.isDigit] using h
  exact bounds

/-- An integer does not start with a blank or with what closes a row of arguments. -/
lemma Grammar.Integer.visible {word : List Char} {i : ℤ} (h : Integer word i) :
    ∃ c cs, word = c :: cs ∧ isBlank c = false ∧ c ≠ ')' := by
  obtain ⟨c, cs, hword, hc⟩ := h.head
  refine ⟨c, cs, hword, ?_⟩
  rcases hc with rfl | digit
  · decide
  · have near := toNat_of_isDigit digit
    constructor
    · rw [← Bool.not_eq_true]
      intro blank
      have far := toNat_of_isBlank blank
      omega
    · rintro rfl
      simp at near

/-- An argument does not start with a blank or with what closes a row of arguments. -/
lemma Grammar.Literal.head {word : List Char} {a : Argument} (h : Literal word a) :
    ∃ c cs, word = c :: cs ∧ isBlank c = false ∧ c ≠ ')' := by
  cases h with
  | integer spelled => exact spelled.visible
  | string => exact ⟨'"', _, rfl, by decide, by decide⟩

/-- An argument is read up to where it is separated from what follows. -/
lemma readArgument_append (start : List Char) {word rest : List Char} {a : Argument}
    (h : Literal word a) (sep : Separated rest) :
    readArgument start (word ++ rest) = .ok (a, rest) := by
  cases h with
  | integer spelled range =>
    have read := readInteger_append spelled range sep
    obtain ⟨c, cs, rfl, hc⟩ := spelled.head
    have unquoted : c ≠ '"' := by
      rintro rfl
      simp at hc
    simp only [List.cons_append, readArgument, if_neg unquoted, if_pos hc]
    rw [List.cons_append] at read
    rw [read]
  | @string body _ spelled =>
    have read := readString_append ('"' :: (body ++ '"' :: rest)) [] rest spelled
    simp only [List.cons_append, List.append_assoc, List.nil_append, readArgument, if_true, read,
      List.reverse_nil]

/-- What is read as an argument is one. -/
lemma readArgument_sound {start cs rest : List Char} {a : Argument}
    (h : readArgument start cs = .ok (a, rest)) : ∃ word, cs = word ++ rest ∧ Literal word a := by
  unfold readArgument at h
  split at h
  · cases h
  · split at h
    · rename_i quote
      split at h
      · rename_i read
        cases h
        obtain ⟨word, body, rfl, hbody, rfl⟩ := readString_sound read
        subst quote
        exact ⟨'"' :: word ++ ['"'], by simp, .string hbody⟩
      · cases h
    · split at h
      · split at h
        · rename_i read
          cases h
          obtain ⟨word, hword, spelled, range⟩ := readInteger_sound read
          exact ⟨word, hword, .integer spelled range⟩
        · cases h
      · cases h

end FrameConsole
