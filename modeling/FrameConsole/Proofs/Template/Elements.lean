import FrameConsole.Proofs.Template.Literals

/-!
# Reading elements

The readers of references, escapes and whole sources against the grammar. Escapes and references
say themselves where they end, so that whatever follows them leaves their reading as it is.

## Main results

* `FrameConsole.readReference_append`, `FrameConsole.readReference_sound` — references.
* `FrameConsole.readEscape_append`, `FrameConsole.readEscape_sound` — escapes.
* `FrameConsole.readElementsOnto_append` — behind a sequence of elements reading goes on with what
  follows, unless a `$` at the seam meets a brace.
* `FrameConsole.readElements_eq_ok_iff` — the elements that are read are those of the grammar.
-/

namespace FrameConsole

open Grammar

/-! ## Argument lists -/

/-- A text that starts with a blank, a comma or a closing parenthesis separates arguments. -/
lemma separated_append {blanks : List Char} {c : Char} (rest : List Char) (h : Blanks blanks)
    (hc : c = ',' ∨ c = ')') : Separated (blanks ++ c :: rest) := by
  intro d hd
  cases blanks with
  | nil =>
    obtain rfl : c = d := Option.some.inj hd
    exact .inr hc
  | cons b blanks =>
    obtain rfl : b = d := Option.some.inj hd
    exact .inl (h b (by simp))

/-- A character that is not blank stops blanks. -/
lemma stopsAt_cons {p : Char → Bool} {c : Char} (h : p c = false) (rest : List Char) :
    StopsAt p (c :: rest) := by
  rintro d hd
  obtain rfl : c = d := Option.some.inj hd
  exact h

/-- A row of arguments does not start with a blank or a closing parenthesis. -/
lemma Grammar.ArgumentRow.head {row : List Char} {args : List Argument}
    (h : ArgumentRow row args) : ∃ c cs, row = c :: cs ∧ isBlank c = false ∧ c ≠ ')' := by
  cases h with
  | last literal =>
    obtain ⟨c, cs, rfl, hc⟩ := literal.head
    exact ⟨c, _, rfl, hc⟩
  | more literal =>
    obtain ⟨c, cs, rfl, hc⟩ := literal.head
    exact ⟨c, _, rfl, hc⟩

/-- One turn of reading a row of arguments, where an argument and something behind it are found. -/
lemma readArgumentsOnto_of_read {start cs rest after : List Char} {done : List Argument}
    {a : Argument} {c : Char} (read : readArgument start (skipBlanks cs) = .ok (a, rest))
    (sep : skipBlanks rest = c :: after) :
    readArgumentsOnto start done cs =
      if c = ',' then readArgumentsOnto start (a :: done) after
      else if c = ')' then .ok ((a :: done).reverse, after)
      else refuse .separatorExpected (c :: after) := by
  rw [readArgumentsOnto.eq_def]
  split
  · rename_i refused
    rw [read] at refused
    cases refused
  · rename_i read'
    rw [read] at read'
    cases read'
    split
    · rename_i empty
      rw [sep] at empty
      cases empty
    · rename_i sep'
      rw [sep] at sep'
      cases sep'
      rfl

/-- A row of arguments is refused where its first argument is. -/
lemma readArgumentsOnto_of_refused {start cs : List Char} {done : List Argument} {r : Refusal}
    (refused : readArgument start (skipBlanks cs) = .error r) :
    readArgumentsOnto start done cs = .error r := by
  rw [readArgumentsOnto.eq_def]
  split
  · rename_i refused'
    rw [refused] at refused'
    cases refused'
    rfl
  · rename_i read
    rw [refused] at read
    cases read

/-- Blanks are skipped before an argument. -/
lemma skipBlanks_literal {blanks word : List Char} {a : Argument} (before : Blanks blanks)
    (literal : Literal word a) (rest : List Char) :
    skipBlanks (blanks ++ word ++ rest) = word ++ rest := by
  obtain ⟨c, cs, rfl, visible, -⟩ := literal.head
  rw [List.append_assoc]
  exact skipBlanks_append before (stopsAt_cons visible _)

/-- Behind an argument and its comma the other arguments are read. -/
lemma readArgumentsOnto_comma (start rest : List Char) (done : List Argument)
    {blanks word blanks' : List Char} {a : Argument} (before : Blanks blanks)
    (literal : Literal word a) (after : Blanks blanks') :
    readArgumentsOnto start done (blanks ++ word ++ (blanks' ++ ',' :: rest)) =
      readArgumentsOnto start (a :: done) rest := by
  have read := readArgument_append start literal (separated_append rest after (.inl rfl))
  rw [readArgumentsOnto_of_read (skipBlanks_literal before literal _ ▸ read)
    (skipBlanks_append after (stopsAt_cons (by decide) _)), if_pos rfl]

/-- A row of arguments is read up to its closing parenthesis, behind the arguments `done`.

**Proof sketch.** Induction on the row. The blanks before each argument are skipped first, and the
blanks after it, then the comma or the parenthesis is met, which separates it. -/
lemma readArgumentsOnto_append (start rest : List Char) (done : List Argument)
    {blanks row : List Char} {args : List Argument} (before : Blanks blanks)
    (h : ArgumentRow row args) :
    readArgumentsOnto start done (blanks ++ row ++ ')' :: rest) =
      .ok (done.reverse ++ args, rest) := by
  induction h generalizing done blanks with
  | @last word blanks' a literal after =>
    have closing : StopsAt isBlank (')' :: rest) := stopsAt_cons (by decide) rest
    have read := readArgument_append start literal (separated_append rest after (.inr rfl))
    rw [← skipBlanks_literal before literal] at read
    rw [← List.append_assoc, List.append_assoc,
      readArgumentsOnto_of_read read (skipBlanks_append after closing)]
    simp
  | @more word blanks₁ blanks₂ row a args literal after before' _ ih =>
    have comma := readArgumentsOnto_comma start (blanks₂ ++ row ++ ')' :: rest) done before literal
      after
    rw [ih (a :: done) before'] at comma
    simpa using comma

/-- What is read as a row of arguments is one, with blanks before it and its closing parenthesis
behind it.

**Proof sketch.** Induction along the reading. Each turn takes blanks, an argument, blanks and a
comma or a parenthesis, and these are the parts of the derivation. -/
lemma readArgumentsOnto_sound {start cs rest : List Char} {done args : List Argument}
    (h : readArgumentsOnto start done cs = .ok (args, rest)) :
    ∃ blanks row args', cs = blanks ++ row ++ ')' :: rest ∧ Blanks blanks ∧
      ArgumentRow row args' ∧ args = done.reverse ++ args' := by
  fun_induction readArgumentsOnto start done cs with
  | case1 => cases h
  | case2 => cases h
  | case3 done cs a rest' hArg after hSep ih =>
    obtain ⟨blanks₂, row, args', rfl, before', hrow, rfl⟩ := ih h
    obtain ⟨blanks, before, hcs⟩ := skipBlanks_sound cs
    obtain ⟨word, hword, literal⟩ := readArgument_sound hArg
    obtain ⟨blanks₁, after₁, hrest⟩ := skipBlanks_sound rest'
    refine ⟨blanks, word ++ blanks₁ ++ ',' :: blanks₂ ++ row, a :: args', ?_, before,
      .more literal after₁ before' hrow, by simp⟩
    rw [hcs, hword, hrest, hSep]
    simp
  | case4 done cs a rest' hArg after hSep =>
    cases h
    obtain ⟨blanks, before, hcs⟩ := skipBlanks_sound cs
    obtain ⟨word, hword, literal⟩ := readArgument_sound hArg
    obtain ⟨blanks₁, after₁, hrest⟩ := skipBlanks_sound rest'
    refine ⟨blanks, word ++ blanks₁, [a], ?_, before, .last literal after₁, by simp⟩
    rw [hcs, hword, hrest, hSep]
    simp
  | case5 => cases h

/-- What stands between the parentheses of a call is read. -/
lemma readArguments_append {start inner rest : List Char} {args : List Argument}
    (h : ArgumentList inner args) :
    readArguments start (inner ++ ')' :: rest) = .ok (args, rest) := by
  cases h with
  | empty inside =>
    rw [readArguments, skipBlanks_append inside (stopsAt_cons (by decide) rest)]
    rfl
  | @row blanks row _ before hrow =>
    obtain ⟨c, cs, rfl, hc, closing⟩ := hrow.head
    have skip : skipBlanks (blanks ++ (c :: cs) ++ ')' :: rest) = c :: cs ++ ')' :: rest := by
      rw [List.append_assoc]
      exact skipBlanks_append before (stopsAt_cons hc _)
    have read := readArgumentsOnto_append start rest [] Blanks.nil hrow
    rw [readArguments, skip]
    split
    · rename_i starts
      exact absurd (List.cons.inj starts).1 closing
    · simpa using read

/-- What is read between the parentheses of a call are arguments, and the parenthesis follows. -/
lemma readArguments_sound {start cs rest : List Char} {args : List Argument}
    (h : readArguments start cs = .ok (args, rest)) :
    ∃ inner, cs = inner ++ ')' :: rest ∧ ArgumentList inner args := by
  obtain ⟨blanks, before, hcs⟩ := skipBlanks_sound cs
  unfold readArguments at h
  split at h
  · rename_i skip
    cases h
    exact ⟨blanks, by rw [hcs, skip], .empty before⟩
  · obtain ⟨blanks', row, args', hskip, before', hrow, rfl⟩ := readArgumentsOnto_sound h
    refine ⟨blanks ++ blanks' ++ row, by rw [hcs, hskip]; simp, .row (fun c mem => ?_) hrow⟩
    rcases List.mem_append.1 mem with mem | mem
    · exact before c mem
    · exact before' c mem

/-! ## Names -/

/-- The characters of names are visible ones of the ASCII alphabet. -/
lemma toNat_of_isNamePart {c : Char} (h : isNamePart c = true) :
    48 ≤ c.toNat ∧ c.toNat ≤ 122 := by
  simp only [isNamePart, Char.isAlphanum] at h
  delta Char.isAlpha Char.isUpper Char.isLower Char.isDigit at h
  simp only [Bool.or_eq_true, Bool.and_eq_true, decide_eq_true_eq, beq_iff_eq] at h
  have bounds : (65 ≤ c.toNat ∧ c.toNat ≤ 90 ∨ 97 ≤ c.toNat ∧ c.toNat ≤ 122) ∨
      48 ≤ c.toNat ∧ c.toNat ≤ 57 ∨ c = '_' := by
    rcases h with (letter | digit) | rfl
    · exact .inl letter
    · exact .inr (.inl digit)
    · exact .inr (.inr rfl)
  rcases bounds with _ | _ | rfl
  · omega
  · omega
  · decide

/-- The first character of a name may stand in it elsewhere too. -/
lemma isNamePart_of_isNameStart {c : Char} (h : isNameStart c = true) : isNamePart c = true := by
  simp only [isNameStart, isNamePart, Char.isAlphanum, Bool.or_eq_true] at h ⊢
  rcases h with letter | underscore
  · exact .inl (.inl letter)
  · exact .inr underscore

/-- Names are the texts whose first character may start one and whose others may go on with it. -/
lemma isName_iff (name : String) :
    IsName name ↔ ∃ c cs, name.toList = c :: cs ∧ isNameStart c = true ∧
      ∀ d ∈ c :: cs, isNamePart d = true := by
  simp only [IsName, isNameStart, isNamePart, Bool.or_eq_true, beq_iff_eq]
  constructor
  · rintro ⟨c, cs, hname, start, parts⟩
    refine ⟨c, cs, hname, start, fun d mem => ?_⟩
    rcases List.mem_cons.1 mem with rfl | mem
    · rcases start with letter | underscore
      · exact .inl (by simp [Char.isAlphanum, letter])
      · exact .inr underscore
    · exact parts d mem
  · rintro ⟨c, cs, hname, start, parts⟩
    exact ⟨c, cs, hname, start, fun d mem => parts d (List.mem_cons_of_mem c mem)⟩

/-- A name is read as far as it goes. -/
lemma readName?_append {name : String} {rest : List Char} (h : IsName name)
    (stop : StopsAt isNamePart rest) :
    readName? (name.toList ++ rest) = some (name, rest) := by
  obtain ⟨c, cs, hname, start, parts⟩ := (isName_iff name).1 h
  have run := takeWhile_run parts stop
  have left := dropWhile_run parts stop
  rw [List.cons_append] at run left
  rw [hname, List.cons_append, readName?, if_pos start, run, left, ← hname, String.ofList_toList]

/-- What is read as a name is one. -/
lemma readName?_sound {cs rest : List Char} {name : String}
    (h : readName? cs = some (name, rest)) : cs = name.toList ++ rest ∧ IsName name := by
  unfold readName? at h
  split at h
  · cases h
  · rename_i c cs
    split at h
    · rename_i start
      cases h
      refine ⟨by simp, (isName_iff _).2 ⟨c, cs.takeWhile isNamePart, ?_, start, ?_⟩⟩
      · simp [isNamePart_of_isNameStart start]
      · intro d mem
        rcases List.mem_cons.1 mem with rfl | mem
        · exact isNamePart_of_isNameStart start
        · exact List.mem_takeWhile_imp mem
    · cases h

/-! ## References -/

/-- Blanks, and what may follow them in a reference, end a name. -/
lemma stopsAt_isNamePart {blanks rest : List Char} {c : Char} (h : Blanks blanks)
    (hc : isNamePart c = false) : StopsAt isNamePart (blanks ++ c :: rest) := by
  intro d hd
  cases blanks with
  | nil => exact stopsAt_cons hc rest d hd
  | cons b blanks =>
    obtain rfl : b = d := Option.some.inj hd
    rw [← Bool.not_eq_true]
    intro part
    have far := toNat_of_isBlank (h b (by simp))
    have near := toNat_of_isNamePart part
    omega

/-- A name between blanks is read, where something follows that is no part of it. -/
lemma readName?_between {blanks₁ blanks₂ : List Char} {name : String} {c : Char}
    (rest : List Char) (before : Blanks blanks₁) (named : IsName name) (after : Blanks blanks₂)
    (hc : isNamePart c = false) (visible : isBlank c = false) :
    readName? (skipBlanks (blanks₁ ++ (name.toList ++ (blanks₂ ++ c :: rest)))) =
        some (name, blanks₂ ++ c :: rest) ∧
      skipBlanks (blanks₂ ++ c :: rest) = c :: rest := by
  refine ⟨?_, skipBlanks_append after (stopsAt_cons visible rest)⟩
  have start : StopsAt isBlank (name.toList ++ (blanks₂ ++ c :: rest)) := by
    obtain ⟨d, ds, hname, hd, -⟩ := (isName_iff name).1 named
    rw [hname]
    refine stopsAt_cons ?_ _
    rw [← Bool.not_eq_true]
    intro blank
    have far := toNat_of_isBlank blank
    have near := toNat_of_isNamePart (isNamePart_of_isNameStart hd)
    omega
  rw [skipBlanks_append before start, readName?_append named (stopsAt_isNamePart after hc)]

/-- A reference is read from behind its opening brace. -/
lemma readReference_append {start word rest : List Char} {p : Particle} (h : Reference word p) :
    readReference start (word ++ rest) = .ok (.particle p, rest) := by
  cases h with
  | bare before named after =>
    obtain ⟨read, skip⟩ := readName?_between rest before named after
      (by decide : isNamePart '}' = false) (by decide)
    simp only [List.append_assoc, List.singleton_append, readReference, read, skip]
    simp [closeReference]
  | @call blanks₁ blanks₂ inner blanks₃ name args before named after hargs closing =>
    obtain ⟨read, skip⟩ := readName?_between (inner ++ ')' :: (blanks₃ ++ '}' :: rest))
      before named after (by decide : isNamePart '(' = false) (by decide)
    have close := skipBlanks_append closing (stopsAt_cons (c := '}') (by decide) rest)
    simp only [List.append_assoc, List.cons_append, List.nil_append, readReference, read, skip,
      readArguments_append hargs, close]
    simp [closeReference]

/-- What closes a reference is a brace. -/
lemma closeReference_sound {start cs rest : List Char} {p : Particle} {e : Element}
    (h : closeReference start p cs = .ok (e, rest)) : cs = '}' :: rest ∧ e = .particle p := by
  unfold closeReference at h
  split at h
  · cases h
  · split at h
    · rename_i brace
      cases h
      exact ⟨by rw [brace], rfl⟩
    · cases h

/-- What is read as a reference is one. -/
lemma readReference_sound {start cs rest : List Char} {e : Element}
    (h : readReference start cs = .ok (e, rest)) :
    ∃ word p, cs = word ++ rest ∧ Reference word p ∧ e = .particle p := by
  unfold readReference at h
  split at h
  · split at h <;> cases h
  · rename_i name after hName
    obtain ⟨blanks₁, before, hcs⟩ := skipBlanks_sound cs
    obtain ⟨hskip, named⟩ := readName?_sound hName
    obtain ⟨blanks₂, between, hafter⟩ := skipBlanks_sound after
    split at h
    · rename_i args hOpen
      split at h
      · rename_i args' rest' hArgs
        obtain ⟨inner, rfl, list⟩ := readArguments_sound hArgs
        obtain ⟨blanks₃, closing, hrest⟩ := skipBlanks_sound rest'
        obtain ⟨hbrace, rfl⟩ := closeReference_sound h
        refine ⟨_, _, ?_, .call before named between list closing, rfl⟩
        rw [hcs, hskip, hafter, hOpen, hrest, hbrace]
        simp
      · cases h
    · obtain ⟨hbrace, rfl⟩ := closeReference_sound h
      refine ⟨_, _, ?_, .bare before named between, rfl⟩
      rw [hcs, hskip, hafter, hbrace]
      simp

/-! ## Escapes -/

/-- The characters that stand for a character behind a backslash. -/
lemma plainEscape?_sound {c d : Char} (h : plainEscape? c = some d) : Escape [c] (.char d) := by
  unfold plainEscape? at h
  split_ifs at h with same lineFeed carriageReturn tab null
  · rcases same with rfl | rfl
    · cases h
      exact .backslash
    · cases h
      exact .dollar
  · cases h
    rw [lineFeed]
    exact .lineFeed
  · cases h
    rw [carriageReturn]
    exact .carriageReturn
  · cases h
    rw [tab]
    exact .tab
  · cases h
    rw [null]
    exact .null

/-- The number of a character is a scalar value, which gives that character back. -/
lemma scalar_of_char (c : Char) : c.toNat.isValidChar ∧ Char.ofNat c.toNat = c :=
  ⟨c.valid, Char.ofNat_toNat c⟩

/-- Behind `u`, four digits are no digits between braces. -/
lemma readCodePoint_four {digits : List Char} {n : ℕ} (rest : List Char) (four : digits.length = 4)
    (spelled : Numeral IsHexDigit 16 digits n) :
    readCodePoint (digits ++ rest) = .ok (n, rest) := by
  have read := readHex_append rest spelled four.ge four.le (.inl four)
  obtain ⟨c, cs, rfl⟩ := List.exists_cons_of_length_pos (by omega : 0 < digits.length)
  have digit := toNat_of_isHexDigit ((numeral_hex_iff.1 spelled).1 c (by simp))
  rw [List.cons_append] at read ⊢
  rw [readCodePoint]
  · exact read
  · rintro ds starts
    obtain rfl := (List.cons.inj starts).1
    simp at digit

/-- Behind `u`, digits between braces are read. -/
lemma readCodePoint_braces {digits : List Char} {n : ℕ} (rest : List Char)
    (nonempty : 1 ≤ digits.length) (six : digits.length ≤ 6)
    (spelled : Numeral IsHexDigit 16 digits n) :
    readCodePoint ('{' :: digits ++ '}' :: rest) = .ok (n, rest) := by
  have read := readHex_append ('}' :: rest) spelled nonempty six
    (.inr (stopsAt_cons (by decide) rest))
  rw [List.cons_append, readCodePoint]
  simp only [read]

/-- What is escaped is read from behind its backslash. -/
lemma readEscape_append {start word rest : List Char} {e : Element} (h : Escape word e) :
    readEscape start (word ++ rest) = .ok (e, rest) := by
  cases h with
  | backslash => rfl
  | dollar => rfl
  | lineFeed => rfl
  | carriageReturn => rfl
  | tab => rfl
  | null => rfl
  | @byte digits b two spelled =>
    have read := readHex_append rest spelled two.ge two.le (.inl two)
    rw [List.cons_append, readEscape]
    simp [plainEscape?, read]
  | @four digits c four spelled =>
    have read := readCodePoint_four rest four spelled
    rw [List.cons_append, readEscape]
    simp [plainEscape?, read, scalar_of_char]
  | @braces digits c nonempty six spelled =>
    have read := readCodePoint_braces rest nonempty six spelled
    rw [List.append_assoc, List.cons_append, readEscape]
    simp only [List.cons_append] at read ⊢
    simp [plainEscape?, read, scalar_of_char]

/-- The number behind `u` is spelled by four digits, or by one to six between braces. -/
lemma readCodePoint_sound {cs rest : List Char} {n : ℕ}
    (h : readCodePoint cs = .ok (n, rest)) :
    ∃ digits, Numeral IsHexDigit 16 digits n ∧
      (cs = digits ++ rest ∧ digits.length = 4 ∨
        cs = '{' :: digits ++ '}' :: rest ∧ 1 ≤ digits.length ∧ digits.length ≤ 6) := by
  unfold readCodePoint at h
  split at h
  · split at h
    · rename_i read
      cases h
      obtain ⟨digits, rfl, spelled, nonempty, six⟩ := readHex_sound read
      exact ⟨digits, spelled, .inr ⟨rfl, nonempty, six⟩⟩
    · cases h
    · cases h
  · obtain ⟨digits, rfl, spelled, least, most⟩ := readHex_sound h
    exact ⟨digits, spelled, .inl ⟨rfl, by omega⟩⟩

/-- What is read behind a backslash may stand there. -/
lemma readEscape_sound {start cs rest : List Char} {e : Element}
    (h : readEscape start cs = .ok (e, rest)) : ∃ word, cs = word ++ rest ∧ Escape word e := by
  unfold readEscape at h
  split at h
  · cases h
  · rename_i c cs
    split at h
    · rename_i plain
      cases h
      exact ⟨[c], rfl, plainEscape?_sound plain⟩
    · split_ifs at h with byte codePoint
      · split at h
        · rename_i value _ read
          cases h
          obtain ⟨digits, rfl, spelled, least, most⟩ := readHex_sound read
          have two : digits.length = 2 := by omega
          have small : value < 256 := by
            simpa [two] using spelled.lt_pow fun _ _ digit => digit.lt
          subst byte
          refine ⟨'x' :: digits, rfl, .byte two ?_⟩
          rwa [UInt8.toNat_ofNat_of_lt' small]
        · cases h
      · split at h
        · rename_i value _ read
          split at h
          · rename_i scalar
            cases h
            have same : (Char.ofNat value).toNat = value := by
              rw [Char.ofNat, dif_pos scalar]
              rfl
            subst codePoint
            obtain ⟨digits, spelled, ⟨rfl, four⟩ | ⟨rfl, nonempty, six⟩⟩ :=
              readCodePoint_sound read
            · exact ⟨'u' :: digits, rfl, .four four (same.symm ▸ spelled)⟩
            · exact ⟨'u' :: '{' :: digits ++ ['}'], by simp,
                .braces nonempty six (same.symm ▸ spelled)⟩
          · cases h
        · cases h
      · cases h

/-! ## Sources -/

/-- More elements in front leave the last one as it is. -/
lemma Grammar.EndsInDollar.of_suffix (front : List Char) {rest : List Char}
    (grow : ∀ before es, rest = before ++ ['$'] → Elements before es →
      ∃ es', Elements (front ++ before) es')
    (h : EndsInDollar rest) : EndsInDollar (front ++ rest) := by
  obtain ⟨before, es, rfl, elements⟩ := h
  obtain ⟨es', elements'⟩ := grow before es rfl elements
  exact ⟨front ++ before, es', by simp, elements'⟩

/-- A source whose last character is no `$` does not end in one. -/
lemma not_endsInDollar {source : List Char} (last : source.getLast? ≠ some '$') :
    ¬EndsInDollar source := by
  rintro ⟨before, es, rfl, -⟩
  simp at last

/-- A backslash starts an escape. -/
lemma readElement_backslash (cs : List Char) :
    readElement '\\' cs = readEscape ('\\' :: cs) cs := by
  unfold readElement
  rw [if_pos rfl]

/-- A `$` before an opening brace starts a reference. -/
lemma readElement_reference (cs : List Char) :
    readElement '$' ('{' :: cs) = readReference ('$' :: '{' :: cs) cs := by
  unfold readElement
  rw [if_neg (by decide), if_pos rfl]
  rfl

/-- All other characters stand for themselves. -/
lemma readElement_literal {c : Char} {cs : List Char} (backslash : c ≠ '\\')
    (dollar : c = '$' → cs.head? ≠ some '{') : readElement c cs = .ok (.char c, cs) := by
  unfold readElement
  rw [if_neg backslash]
  split
  · rename_i hc
    split
    · exact absurd rfl (dollar hc)
    · rfl
  · rfl

/-- One turn of reading elements. -/
lemma readElementsOnto_of_read {c : Char} {cs rest : List Char} {done : List Element} {e : Element}
    (read : readElement c cs = .ok (e, rest)) :
    readElementsOnto done (c :: cs) = readElementsOnto (e :: done) rest := by
  rw [readElementsOnto.eq_def]
  simp only
  split
  · rename_i refused
    rw [read] at refused
    cases refused
  · rename_i read'
    rw [read] at read'
    cases read'
    rfl

/-- Reading elements ends where one is refused. -/
lemma readElementsOnto_of_refused {c : Char} {cs : List Char} {done : List Element} {r : Refusal}
    (refused : readElement c cs = .error r) : readElementsOnto done (c :: cs) = .error r := by
  rw [readElementsOnto.eq_def]
  simp only
  split
  · rename_i refused'
    rw [refused] at refused'
    cases refused'
    rfl
  · rename_i read
    rw [refused] at read
    cases read

/-- Behind a sequence of elements reading goes on with what follows, unless the sequence ends in a
`$` and what follows starts with a brace.

**Proof sketch.** Induction on the sequence. Escapes and references are read whatever follows them.
A `$` that stands for itself is followed by another character of the sequence, which is no brace, or
it is the end of the sequence. -/
lemma readElementsOnto_append {source : List Char} {es : List Element} (h : Elements source es)
    (rest : List Char) (seam : ¬(EndsInDollar source ∧ rest.head? = some '{'))
    (done : List Element) :
    readElementsOnto done (source ++ rest) = readElementsOnto (es.reverse ++ done) rest := by
  induction h generalizing done with
  | nil => simp
  | @literal c cs es backslash dollar elements ih =>
    have read : readElement c (cs ++ rest) = .ok (.char c, cs ++ rest) := by
      refine readElement_literal backslash fun hc brace => ?_
      cases cs with
      | nil => exact seam ⟨⟨[], [], by rw [hc]; rfl, .nil⟩, brace⟩
      | cons d cs => exact dollar hc brace
    have seam' : ¬(EndsInDollar cs ∧ rest.head? = some '{') := by
      rintro ⟨ends, brace⟩
      refine seam ⟨ends.of_suffix [c] fun before es' hcs elements' => ?_, brace⟩
      refine ⟨.char c :: es', .literal backslash (fun hc hbefore => dollar hc ?_) elements'⟩
      replace hbefore : before.head? = some '{' := hbefore
      rw [hcs, List.head?_append, hbefore, Option.some_or]
    rw [List.cons_append, readElementsOnto_of_read read, ih seam']
    simp
  | @escape word cs e es escaped elements ih =>
    have read : readElement '\\' (word ++ (cs ++ rest)) = .ok (e, cs ++ rest) := by
      rw [readElement_backslash, readEscape_append escaped]
    have seam' : ¬(EndsInDollar cs ∧ rest.head? = some '{') := by
      rintro ⟨ends, brace⟩
      exact seam ⟨ends.of_suffix _ fun before es' _ elements' =>
        ⟨e :: es', .escape escaped elements'⟩, brace⟩
    rw [List.append_assoc, List.cons_append, readElementsOnto_of_read read, ih seam']
    simp
  | @reference word cs p es referred elements ih =>
    have read : readElement '$' ('{' :: (word ++ (cs ++ rest))) =
        .ok (.particle p, cs ++ rest) := by
      rw [readElement_reference, readReference_append referred]
    have seam' : ¬(EndsInDollar cs ∧ rest.head? = some '{') := by
      rintro ⟨ends, brace⟩
      exact seam ⟨ends.of_suffix _ fun before es' _ elements' =>
        ⟨.particle p :: es', .reference referred elements'⟩, brace⟩
    rw [List.append_assoc, List.cons_append, List.cons_append, readElementsOnto_of_read read,
      ih seam']
    simp

/-- What is read as an element is one: with any elements at the front of what is left it makes a longer
sequence of elements. -/
lemma readElement_sound {c : Char} {cs rest : List Char} {e : Element}
    (h : readElement c cs = .ok (e, rest)) :
    ∃ word, c :: cs = word ++ rest ∧ ∀ front es, front <+: rest → Elements front es →
      Elements (word ++ front) (e :: es) := by
  unfold readElement at h
  split_ifs at h with backslash dollar
  · obtain ⟨word, rfl, escaped⟩ := readEscape_sound h
    subst backslash
    exact ⟨'\\' :: word, rfl, fun front es _ elements => .escape escaped elements⟩
  · subst dollar
    split at h
    · obtain ⟨word, p, rfl, referred, rfl⟩ := readReference_sound h
      exact ⟨'$' :: '{' :: word, rfl, fun front es _ elements => .reference referred elements⟩
    · rename_i closed
      cases h
      refine ⟨['$'], rfl, fun front es before elements =>
        .literal (by decide) (fun _ brace => ?_) elements⟩
      obtain ⟨tail, rfl⟩ := List.head?_eq_some_iff.1 brace
      obtain ⟨behind, starts⟩ := before
      exact closed (tail ++ behind) starts.symm
  · cases h
    exact ⟨[c], rfl, fun front es _ elements =>
      .literal backslash (fun hc => absurd hc dollar) elements⟩

/-- What is read is a sequence of elements, behind the elements `done`.

**Proof sketch.** Induction along the reading. Each turn reads one element in front of the others. -/
lemma readElementsOnto_sound {cs : List Char} {done es : List Element}
    (h : readElementsOnto done cs = .ok es) :
    ∃ es', Elements cs es' ∧ es = done.reverse ++ es' := by
  fun_induction readElementsOnto done cs with
  | case1 =>
    cases h
    exact ⟨[], .nil, by simp⟩
  | case2 => cases h
  | case3 done c cs e rest read ih =>
    obtain ⟨es', elements, rfl⟩ := ih h
    obtain ⟨word, same, longer⟩ := readElement_sound read
    exact ⟨e :: es', same ▸ longer rest es' (List.prefix_refl rest) elements, by simp⟩

/-- The elements that are read are those of the grammar. -/
lemma readElements_eq_ok_iff {cs : List Char} {es : List Element} :
    readElements cs = .ok es ↔ Elements cs es := by
  constructor
  · intro h
    obtain ⟨es', elements, rfl⟩ := readElementsOnto_sound h
    simpa using elements
  · intro h
    have read := readElementsOnto_append h [] (by simp) []
    rw [List.append_nil, List.append_nil] at read
    rw [readElements, read]
    simp [readElementsOnto]

end FrameConsole
