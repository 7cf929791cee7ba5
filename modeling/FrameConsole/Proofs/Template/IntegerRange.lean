import FrameConsole.Proofs.Template.Concatenation

/-!
# The range of integer literals

An integer may stand wherever an argument of a call may. It is read for what it spells if its magnitude
is below the 63rd power of two, however many zeros stand in front, and refused at its first character
otherwise. That is the range of 64-bit integers but for the least one, whose magnitude is the bound.

## Main definitions

* `FrameConsole.Grammar.ArgumentsAhead`, `FrameConsole.Grammar.ArgumentsBehind` — the other arguments
  around one argument of a call.
* `FrameConsole.Grammar.OpenCall`, `FrameConsole.Grammar.ClosedCall` — the source around an argument.
* `FrameConsole.Grammar.Whole` — an integer that what follows it does not go on with.

## Main results

* `FrameConsole.readInteger_outOfRange` — integers of larger magnitude are refused.
* `FrameConsole.Separated.whole` — what separates arguments makes no integer longer.
* `FrameConsole.Grammar.ArgumentsAhead.argumentList` — the arguments of a call around one of them.
* `FrameConsole.readReference_ahead` — a refused argument refuses its reference, behind other arguments.
* `FrameConsole.Template.parse_integer_argument` — which integers are read.
* `FrameConsole.Template.parse_integer_least` — the least integer of 64 bits is not.
-/

namespace FrameConsole

namespace Grammar

/-! ## The source around an argument -/

/-- What may stand between the opening parenthesis of a call and one of its arguments: blanks, and other
arguments with a comma behind each. -/
inductive ArgumentsAhead : List Char → List Argument → Prop
  /-- No other arguments. -/
  | nil {blanks : List Char} (before : Blanks blanks) : ArgumentsAhead blanks []
  /-- An argument, its comma, and what stands behind that. -/
  | cons {blanks word blanks' ahead : List Char} {a : Argument} {args : List Argument}
      (before : Blanks blanks) (literal : Literal word a) (after : Blanks blanks')
      (rest : ArgumentsAhead ahead args) :
      ArgumentsAhead (blanks ++ word ++ (blanks' ++ ',' :: ahead)) (a :: args)

/-- What may stand between an argument of a call and the closing parenthesis: blanks, and other arguments
behind a comma. -/
inductive ArgumentsBehind : List Char → List Argument → Prop
  /-- No other arguments. -/
  | nil {blanks : List Char} (after : Blanks blanks) : ArgumentsBehind blanks []
  /-- A comma and a row of arguments. -/
  | row {blanks blanks' row : List Char} {args : List Argument} (after : Blanks blanks)
      (before : Blanks blanks') (rest : ArgumentRow row args) :
      ArgumentsBehind (blanks ++ ',' :: blanks' ++ row) args

/-- A source that goes up to where an argument may start: a template with the particles `ps`, and a call
that has its name and the arguments `args`. -/
inductive OpenCall : String → List Particle → String → List Argument → Prop
  /-- A template, the opening of a reference, a name, a parenthesis and some arguments. -/
  | intro {source before name : String} {ps : List Particle} {blanks₁ blanks₂ ahead : List Char}
      {args : List Argument} (parsed : Template.parse before = .ok ⟨ps⟩) (left : Blanks blanks₁)
      (named : IsName name) (right : Blanks blanks₂) (arguments : ArgumentsAhead ahead args)
      (whole : source.toList =
        before.toList ++ '$' :: '{' :: (blanks₁ ++ (name.toList ++ (blanks₂ ++ '(' :: ahead)))) :
      OpenCall source ps name args

/-- A source that goes on behind an argument: it ends the call with the arguments `args`, and a template
with the particles `qs` follows. -/
inductive ClosedCall : String → List Argument → List Particle → Prop
  /-- Some arguments, a parenthesis, a brace and a template. -/
  | intro {source after : String} {qs : List Particle} {behind blanks : List Char}
      {args : List Argument} (arguments : ArgumentsBehind behind args) (closing : Blanks blanks)
      (parsed : Template.parse after = .ok ⟨qs⟩)
      (whole : source.toList = behind ++ ')' :: (blanks ++ '}' :: after.toList)) :
      ClosedCall source args qs

/-- No longer integer starts with `word` where `rest` follows it. -/
def Whole (word rest : List Char) : Prop :=
  ∀ c, rest.head? = some c → ∀ i, ¬Integer (word ++ [c]) i

end Grammar

open Grammar

/-! ## Integers out of range -/

/-- Digits whose magnitude is out of range are refused at the start of their integer. -/
lemma readMagnitude_outOfRange (start : List Char) (negative : Bool) {base : ℕ} {test : Char → Bool}
    {digits rest : List Char} (nonempty : digits ≠ []) (all : ∀ c ∈ digits, test c = true)
    (large : 2 ^ 63 ≤ Hex.valueIn base digits) (stop : StopsAt test rest) :
    readMagnitude start negative base test (digits ++ rest) = refuse .integerOutOfRange start := by
  have bound : ¬Hex.valueIn base digits < magnitudeBound := by
    simp only [magnitudeBound]
    omega
  simp only [readMagnitude, takeWhile_run all stop]
  rw [if_neg (by simpa using nonempty), if_neg bound]

/-- A magnitude out of range is refused at the start of its integer, whatever follows it but another
digit.

**Proof sketch.** A digit behind the magnitude would make a longer one. A single digit is in range, so
no letter behind it can be taken for the marker of hexadecimal digits. -/
lemma readUnsigned_outOfRange {start word rest : List Char} {negative : Bool} {n : ℕ}
    (h : Magnitude word n) (large : 2 ^ 63 ≤ n)
    (whole : ∀ c, rest.head? = some c → ∀ m, ¬Magnitude (word ++ [c]) m) :
    readUnsigned start negative (word ++ rest) = refuse .integerOutOfRange start := by
  cases h with
  | decimal nonempty spelled =>
    have small := spelled.lt_pow fun c d digit =>
      show d < 10 by simpa using (List.getElem?_eq_some_iff.1 digit).1
    have several : word.length ≠ 1 := by
      intro single
      rw [single] at small
      omega
    have stop : StopsAt Char.isDigit rest := by
      intro c hc
      rw [← Bool.not_eq_true]
      intro digit
      have last := (isDecimalDigit_iff c _).2 ⟨digit, rfl⟩
      exact whole c hc _ (.decimal (by simp) (.snoc spelled last))
    obtain ⟨all, rfl⟩ := numeral_decimal_iff.1 spelled
    rw [readUnsigned_decimal (unmarked_of_decimal nonempty all fun single => absurd single several)]
    exact readMagnitude_outOfRange start negative nonempty all large stop
  | @hex x digits _ marker nonempty spelled =>
    have stop : StopsAt Hex.isDigit rest := by
      intro c hc
      rw [← Bool.not_eq_true]
      intro digit
      obtain ⟨d, hd⟩ := Option.isSome_iff_exists.1 digit
      exact whole c hc _ (.hex marker (by simp) (.snoc spelled ((isHexDigit_iff c d).2 hd)))
    obtain ⟨all, rfl⟩ := numeral_hex_iff.1 spelled
    have refused := readMagnitude_outOfRange start negative nonempty all large stop
    rcases marker with rfl | rfl <;> exact refused

/-- An integer whose magnitude is out of range is refused at its first character. -/
lemma readInteger_outOfRange {word rest : List Char} {i : ℤ} (h : Integer word i)
    (large : 2 ^ 63 ≤ i.natAbs) (whole : Whole word rest) :
    readInteger (word ++ rest) = refuse .integerOutOfRange (word ++ rest) := by
  cases h with
  | plain magnitude =>
    have longest : ∀ c, rest.head? = some c → ∀ m, ¬Magnitude (word ++ [c]) m :=
      fun c hc m longer => whole c hc m (.plain longer)
    obtain ⟨c, cs, rfl, digit⟩ := magnitude.head
    have unsigned : c ≠ '-' := by
      rintro rfl
      simp at digit
    rw [List.cons_append, readInteger]
    · exact readUnsigned_outOfRange magnitude large longest
    · simpa using unsigned
  | minus magnitude =>
    exact readUnsigned_outOfRange magnitude (by omega) fun c hc m longer =>
      whole c hc _ (.minus longer)

/-- An integer argument whose magnitude is out of range is refused at its first character. -/
lemma readArgument_outOfRange (start : List Char) {word rest : List Char} {i : ℤ}
    (h : Integer word i) (large : 2 ^ 63 ≤ i.natAbs) (whole : Whole word rest) :
    readArgument start (word ++ rest) = refuse .integerOutOfRange (word ++ rest) := by
  have refused := readInteger_outOfRange h large whole
  obtain ⟨c, cs, rfl, hc⟩ := h.head
  have unquoted : c ≠ '"' := by
    rintro rfl
    simp at hc
  simp only [List.cons_append, readArgument, if_neg unquoted, if_pos hc]
  rw [List.cons_append] at refused
  rw [refused]
  rfl

/-- A magnitude ends with a digit. -/
lemma Grammar.Magnitude.last {word : List Char} {n : ℕ} (h : Magnitude word n) :
    ∃ init c, word = init ++ [c] ∧ Hex.isDigit c = true := by
  cases h with
  | decimal nonempty spelled =>
    cases spelled with
    | nil => exact absurd rfl nonempty
    | snoc init last => exact ⟨_, _, rfl, isHexDigit_of_isDigit ((isDecimalDigit_iff _ _).1 last).1⟩
  | @hex x _ _ _ nonempty spelled =>
    cases spelled with
    | nil => exact absurd rfl nonempty
    | @snoc digits _ c d init last =>
      exact ⟨'0' :: x :: digits, c, rfl, by simp [Hex.isDigit, (isHexDigit_iff c d).1 last]⟩

/-- An integer ends with a digit. -/
lemma Grammar.Integer.last {word : List Char} {i : ℤ} (h : Integer word i) :
    ∃ init c, word = init ++ [c] ∧ Hex.isDigit c = true := by
  cases h with
  | plain magnitude => exact magnitude.last
  | minus magnitude =>
    obtain ⟨init, c, rfl, digit⟩ := magnitude.last
    exact ⟨'-' :: init, c, rfl, digit⟩

/-- What separates arguments makes no integer longer. -/
lemma Separated.whole {word rest : List Char} (h : Separated rest) : Whole word rest := by
  intro c hc i longer
  obtain ⟨init, c', same, digit⟩ := longer.last
  obtain rfl : c = c' := by simpa using (List.append_inj' same rfl).2
  rw [(h.ne hc).1] at digit
  cases digit

/-! ## Behind other arguments -/

/-- Blanks in front of arguments, or of what follows them, are skipped. -/
lemma Grammar.ArgumentsAhead.skipBlanks {ahead cs : List Char} {args : List Argument}
    (h : ArgumentsAhead ahead args) (visible : StopsAt isBlank cs) (unclosed : cs.head? ≠ some ')') :
    ∃ ahead', skipBlanks (ahead ++ cs) = ahead' ++ cs ∧ ArgumentsAhead ahead' args ∧
      (ahead' ++ cs).head? ≠ some ')' := by
  cases h with
  | nil before => exact ⟨[], skipBlanks_append before visible, .nil Blanks.nil, unclosed⟩
  | @cons blanks word blanks' ahead a args before literal after rest =>
    refine ⟨word ++ (blanks' ++ ',' :: ahead), ?_, .cons Blanks.nil literal after rest, ?_⟩
    · simpa using skipBlanks_literal before literal (blanks' ++ ',' :: (ahead ++ cs))
    · obtain ⟨c, tail, rfl, -, opened⟩ := literal.head
      simpa using opened

/-- A refused argument refuses its row, whatever arguments stand before it.

**Proof sketch.** Induction on the arguments before it, each of which is read with its comma. -/
lemma readArgumentsOnto_ahead {start ahead cs : List Char} {args done : List Argument} {r : Refusal}
    (h : ArgumentsAhead ahead args) (visible : StopsAt isBlank cs)
    (refused : readArgument start cs = .error r) :
    readArgumentsOnto start done (ahead ++ cs) = .error r := by
  induction h generalizing done with
  | nil before =>
    refine readArgumentsOnto_of_refused ?_
    rw [skipBlanks_append before visible, refused]
  | @cons blanks word blanks' ahead a args before literal after rest ih =>
    have comma := readArgumentsOnto_comma start (ahead ++ cs) done before literal after
    rw [ih] at comma
    simpa using comma

/-- A refused argument refuses its reference. -/
lemma readReference_ahead {start blanks₁ blanks₂ ahead cs : List Char} {name : String}
    {args : List Argument} {r : Refusal} (left : Blanks blanks₁) (named : IsName name)
    (right : Blanks blanks₂) (h : ArgumentsAhead ahead args) (visible : StopsAt isBlank cs)
    (unclosed : cs.head? ≠ some ')') (refused : readArgument start cs = .error r) :
    readReference start (blanks₁ ++ (name.toList ++ (blanks₂ ++ '(' :: (ahead ++ cs)))) =
      .error r := by
  obtain ⟨read, skip⟩ := readName?_between (ahead ++ cs) left named right
    (by decide : isNamePart '(' = false) (by decide)
  obtain ⟨ahead', skip', h', unclosed'⟩ := h.skipBlanks visible unclosed
  have row : readArguments start (ahead ++ cs) = .error r := by
    rw [readArguments, skip']
    split
    · rename_i closed
      rw [closed] at unclosed'
      exact absurd rfl unclosed'
    · exact readArgumentsOnto_ahead h' visible refused
  simp only [readReference, read, skip, row]

/-- The arguments of a call are those before an argument, that argument, and those behind it. -/
lemma Grammar.ArgumentsAhead.argumentList {ahead word behind : List Char} {args args' : List Argument}
    {a : Argument} (h : ArgumentsAhead ahead args) (literal : Literal word a)
    (h' : ArgumentsBehind behind args') :
    ArgumentList (ahead ++ word ++ behind) (args ++ a :: args') := by
  suffices rows : ∃ blanks row, ahead ++ word ++ behind = blanks ++ row ∧ Blanks blanks ∧
      ArgumentRow row (args ++ a :: args') by
    obtain ⟨blanks, row, whole, before, hrow⟩ := rows
    exact whole ▸ .row before hrow
  induction h with
  | @nil blanks before =>
    refine ⟨blanks, word ++ behind, List.append_assoc .., before, ?_⟩
    cases h' with
    | nil after => exact .last literal after
    | row after before' rest =>
      simpa using ArgumentRow.more literal after before' rest
  | @cons blanks word' blanks' ahead a' args before literal' after rest ih =>
    obtain ⟨blanks'', row, whole, before', hrow⟩ := ih
    refine ⟨blanks, word' ++ blanks' ++ ',' :: blanks'' ++ row, ?_, before,
      .more literal' after before' hrow⟩
    simp [← whole]

/-! ## Templates -/

/-- A reference ends with its brace. -/
lemma Grammar.Reference.closed {word : List Char} {p : Particle} (h : Reference word p) :
    ∃ inner, word = inner ++ ['}'] := by
  cases h <;> exact ⟨_, rfl⟩

/-- A reference between two templates is one of their particles. -/
lemma Template.parse_reference_between {source before after : String} {ps qs : List Particle}
    {word : List Char} {p : Particle} (parsed : Template.parse before = .ok ⟨ps⟩)
    (referred : Reference word p) (parsed' : Template.parse after = .ok ⟨qs⟩)
    (whole : source.toList = before.toList ++ '$' :: '{' :: (word ++ after.toList)) :
    Template.parse source = .ok ⟨ps ++ p :: qs⟩ := by
  obtain rfl : source = before ++ (.ofList ('$' :: '{' :: word) ++ after) := by
    rw [← String.toList_inj, whole]
    simp
  have plain : p.isText = false := referred.canonical.2
  have elements := Elements.reference referred .nil
  rw [List.append_nil, ← String.toList_ofList (l := '$' :: '{' :: word)] at elements
  have alone := Template.parse_of_elements elements (.particle .nil)
  have closed : (String.ofList ('$' :: '{' :: word)).toList.getLast? ≠ some '$' := by
    obtain ⟨inner, rfl⟩ := referred.closed
    rw [String.toList_ofList, ← List.cons_append, ← List.cons_append, List.getLast?_concat]
    decide
  have tail := Template.parse_append_of_ok alone (fun h => not_endsInDollar closed h.1) parsed'
  have joined := Template.parse_append_of_ok parsed (by simp) tail
  rwa [Particle.join_cons_of_plain plain, Particle.join_cons_right_of_plain plain] at joined

/-- An element that is refused behind a template refuses the source at the same place. -/
lemma Template.parse_refused_behind {source before : String} {t : Template} {c : Char}
    {inner rest : List Char} {fault : Fault} (parsed : Template.parse before = .ok t)
    (seam : c ≠ '{') (refused : readElement c (inner ++ rest) = .error ⟨fault, rest⟩)
    (whole : source.toList = before.toList ++ c :: inner ++ rest) :
    Template.parse source = .error ⟨fault, Utf8.length (before.toList ++ c :: inner)⟩ := by
  obtain rfl : source = before ++ .ofList (c :: inner ++ rest) := by
    rw [← String.toList_inj, whole]
    simp
  have alone : Template.parse (.ofList (c :: inner ++ rest)) =
      .error ⟨fault, Utf8.length (c :: inner)⟩ := by
    refine Template.parse_eq_error_iff.2 ⟨⟨fault, rest⟩, ?_, ?_⟩
    · rw [String.toList_ofList]
      exact readElementsOnto_of_refused refused
    · rw [Refusal.toSyntaxError, String.toList_ofList, Utf8.length_append, Nat.add_sub_cancel]
  have apart : ¬(EndsInDollar before.toList ∧
      (String.ofList (c :: inner ++ rest)).toList.head? = some '{') := by
    simp [seam]
  rw [Template.parse_append_of_error parsed apart alone, Utf8.length_append, Utf8.length_toList]

/-- An integer of smaller magnitude than the bound is read as an argument.

**Proof sketch.** The arguments around it and the integer itself make a list, so the call is one of the
grammar. -/
lemma Template.parse_integer_inRange {ahead name word behind : String} {ps qs : List Particle}
    {args args' : List Argument} {value : Int64} (opened : OpenCall ahead ps name args)
    (spelled : Integer word.toList value.toInt) (range : value.toInt.natAbs < 2 ^ 63)
    (closed : ClosedCall behind args' qs) :
    Template.parse (ahead ++ word ++ behind) =
      .ok ⟨ps ++ .call name (args ++ .integer value :: args') :: qs⟩ := by
  obtain ⟨parsed, left, named, right, arguments, source⟩ := opened
  obtain ⟨arguments', closing, parsed', source'⟩ := closed
  have literal : Literal word.toList (.integer value) := .integer spelled (by omega)
  have list := arguments.argumentList literal arguments'
  refine Template.parse_reference_between parsed (.call left named right list closing) parsed' ?_
  simp [source, source']

/-- An integer of larger magnitude is refused at its first character.

**Proof sketch.** The arguments before it are read, and it is refused wherever it stands. So the
reference is refused, and with it the source behind the template in front. -/
lemma Template.parse_integer_outOfRange {ahead name word behind : String} {ps : List Particle}
    {args : List Argument} {i : ℤ} (opened : OpenCall ahead ps name args)
    (spelled : Integer word.toList i) (large : 2 ^ 63 ≤ i.natAbs)
    (whole : Whole word.toList behind.toList) :
    Template.parse (ahead ++ word ++ behind) = .error ⟨.integerOutOfRange, ahead.utf8ByteSize⟩ := by
  obtain @⟨before, _, _, blanks₁, blanks₂, inner, _, parsed, left, named, right, arguments,
    source⟩ := opened
  obtain ⟨c, cs, hword, seen, other⟩ := spelled.visible
  have visible : StopsAt isBlank (word.toList ++ behind.toList) := hword ▸ stopsAt_cons seen _
  have unclosed : (word.toList ++ behind.toList).head? ≠ some ')' := by simpa [hword] using other
  have refused : readElement '$' ('{' :: (blanks₁ ++ (name.toList ++ (blanks₂ ++ '(' :: inner))) ++
      (word.toList ++ behind.toList)) = refuse .integerOutOfRange (word.toList ++ behind.toList) := by
    have argument := fun start => readArgument_outOfRange start spelled large whole
    rw [List.cons_append, readElement_reference]
    simpa [refuse] using readReference_ahead left named right arguments visible unclosed (argument _)
  have seam : '$' ≠ '{' := by decide
  rw [← Utf8.length_toList, source]
  exact Template.parse_refused_behind parsed seam refused (by simp [source])

/-- **The range of integers**: wherever an argument may stand, an integer between the 63rd power of two
and its negative, both excluded, is read as what it spells, in base ten or sixteen and with any number of
zeros in front. Any other integer, the negative of that power among them, is refused at its first
character, whatever follows that does not make it longer. -/
theorem Template.parse_integer_argument {ahead name word : String} {ps : List Particle}
    {args : List Argument} {i : ℤ} (opened : OpenCall ahead ps name args)
    (spelled : Integer word.toList i) :
    (-2 ^ 63 < i → i < 2 ^ 63 → ∃ value : Int64, value.toInt = i ∧
        ∀ behind args' qs, ClosedCall behind args' qs →
          Template.parse (ahead ++ word ++ behind) =
            .ok ⟨ps ++ .call name (args ++ .integer value :: args') :: qs⟩) ∧
      (i ≤ -2 ^ 63 ∨ 2 ^ 63 ≤ i → ∀ behind : String, Whole word.toList behind.toList →
        Template.parse (ahead ++ word ++ behind) =
          .error ⟨.integerOutOfRange, ahead.utf8ByteSize⟩) := by
  constructor
  · intro least greatest
    have same : (Int64.ofInt i).toInt = i := Int64.toInt_ofInt_of_le (by omega) (by omega)
    refine ⟨Int64.ofInt i, same, fun behind args' qs closed => ?_⟩
    have small : (Int64.ofInt i).toInt.natAbs < 2 ^ 63 := by omega
    exact Template.parse_integer_inRange opened (same.symm ▸ spelled) small closed
  · intro outside behind whole
    exact Template.parse_integer_outOfRange opened spelled (by omega) whole

/-- Behind one argument and a comma, the least integer but one is read in base sixteen with zeros in
front, and an integer that is one too large is refused nine bytes into the source. -/
theorem Template.parse_integer_argument_padded :
    OpenCall "é$\x7bf(1, " [.text "é"] "f" [.integer 1] ∧ ClosedCall " )\x7d" [] [] ∧
      Integer "-0X007fffFFFFffffFFFF".toList (-9223372036854775807) ∧
      Template.parse ("é$\x7bf(1, " ++ "-0X007fffFFFFffffFFFF" ++ " )\x7d") =
        .ok ⟨[.text "é", .call "f" [.integer 1, .integer (-9223372036854775807)]]⟩ ∧
      Integer "009223372036854775808".toList 9223372036854775808 ∧
      Whole "009223372036854775808".toList "".toList ∧
      Template.parse ("é$\x7bf(1, " ++ "009223372036854775808" ++ "") =
        .error ⟨.integerOutOfRange, 9⟩ := by
  have text : Template.parse "é" = .ok ⟨[.text "é"]⟩ := by cbv
  have nothing : Template.parse "" = .ok ⟨[]⟩ := by cbv
  have named : IsName "f" := ⟨'f', [], rfl, .inl (by decide), by simp⟩
  have one : Literal ['1'] (.integer 1) :=
    .integer (.plain (.decimal (by simp) (numeral_decimal_iff.2 ⟨List.all_eq_true.1 rfl, rfl⟩)))
      (by decide)
  have opened : OpenCall "é$\x7bf(1, " [.text "é"] "f" [.integer 1] :=
    .intro text Blanks.nil named Blanks.nil (.cons Blanks.nil one Blanks.nil (.nil Blanks.space))
      (by simp)
  have closed : ClosedCall " )\x7d" [] [] :=
    .intro (.nil Blanks.space) Blanks.nil nothing (by simp)
  have negative : Integer "-0X007fffFFFFffffFFFF".toList (-9223372036854775807) :=
    .minus (.hex (.inr rfl) (by simp) (numeral_hex_iff.2 ⟨List.all_eq_true.1 rfl, rfl⟩))
  have positive : Integer "009223372036854775808".toList 9223372036854775808 :=
    .plain (.decimal (by simp) (numeral_decimal_iff.2 ⟨List.all_eq_true.1 rfl, rfl⟩))
  have whole : Whole "009223372036854775808".toList "".toList := by simp [Whole]
  obtain ⟨value, same, read⟩ :=
    (Template.parse_integer_argument opened negative).1 (by omega) (by omega)
  obtain rfl : value = -9223372036854775807 :=
    Int64.toInt_inj.1 same
  exact ⟨opened, closed, negative, read _ _ _ closed, positive, whole,
    (Template.parse_integer_argument opened positive).2 (by omega) _ whole⟩

/-- **The least integer is refused**, although it is an integer of 64 bits. -/
theorem Template.parse_integer_least :
    OpenCall "$\x7bf(" [] "f" [] ∧ ClosedCall ")\x7d" [] [] ∧
      Integer "-9223372036854775808".toList Int64.minValue.toInt ∧
      Template.parse ("$\x7bf(" ++ "-9223372036854775808" ++ ")\x7d") =
        .error ⟨.integerOutOfRange, 4⟩ := by
  have nothing : Template.parse "" = .ok ⟨[]⟩ := by cbv
  have named : IsName "f" := ⟨'f', [], rfl, .inl (by decide), by simp⟩
  have opened : OpenCall "$\x7bf(" [] "f" [] :=
    .intro nothing Blanks.nil named Blanks.nil (.nil Blanks.nil) (by simp)
  have closed : ClosedCall ")\x7d" [] [] :=
    .intro (.nil Blanks.nil) Blanks.nil nothing (by simp)
  have least : Integer "-9223372036854775808".toList (-9223372036854775808) :=
    .minus (.decimal (by simp) (numeral_decimal_iff.2 ⟨List.all_eq_true.1 rfl, rfl⟩))
  have separated : Separated ")\x7d".toList := separated_append ['\x7d'] Blanks.nil (.inr rfl)
  exact ⟨opened, closed, least,
    Template.parse_integer_outOfRange opened least (by omega) separated.whole⟩

end FrameConsole
