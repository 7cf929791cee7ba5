import FrameConsole.Proofs.Cursor.Steps
import FrameConsole.Proofs.Template.FaultPlace

/-!
# A cursor is always safe

What a cursor reads is what the reader of texts says, part by part of the grammar: escapes, strings,
integers, arguments, references, elements. So no source makes it crash, and none keeps it going for ever.

## Main definitions

* `FrameConsole.Scan.DigitsOf` — characters that are digits of a base, of one byte each.

## Main results

* `FrameConsole.Scan.reads_escape`, `FrameConsole.Scan.reads_argument`,
  `FrameConsole.Scan.reads_reference`, `FrameConsole.Scan.reads_element` — the parts of a source.
* `FrameConsole.Scan.loops_stringTurn`, `FrameConsole.Scan.loops_argumentTurn`,
  `FrameConsole.Scan.loops_elementTurn` — the loops, by induction along the reader of texts.
* `FrameConsole.Template.exists_scan_eq` — reading with a cursor and parsing have the same results.
* `FrameConsole.Template.scan_safe` — a cursor is always safe.
-/

namespace FrameConsole

namespace Scan

variable {source : String} {bound : ℕ}

/-! ## Blanks -/

/-- All blanks are passed. -/
lemma reads_passBlanks (enough : source.length < bound) (cs : List Char) :
    Reads source bound passBlanks cs (.ok ((), skipBlanks cs)) := by
  refine Loops.reads ?_ enough
  induction cs with
  | nil => exact .over ((reads_peek []).bind (reads_pure _ _))
  | cons c cs ih =>
    by_cases blank : isBlank c = true
    · have taken : Reads source bound (blankTurn ()) (c :: cs) (.ok (.again (), cs)) := by
        refine (reads_peek (c :: cs)).bind ?_
        show Reads source bound (if isBlank c = true then _ else _) _ _
        rw [if_pos blank]
        exact (reads_next_cons c cs).bind (reads_pure _ _)
      rw [skipBlanks, List.dropWhile_cons_of_pos blank]
      exact .again taken (Nat.lt_succ_self _) ih
    · rw [skipBlanks, List.dropWhile_cons_of_neg blank]
      refine .over ((reads_peek (c :: cs)).bind ?_)
      show Reads source bound (if isBlank c = true then _ else _) _ _
      rw [if_neg blank]
      exact reads_pure _ _

/-! ## Digits -/

/-- The characters that pass a test are digits of a base, and take one byte each. -/
def DigitsOf (base : ℕ) (test : Char → Bool) : Prop :=
  ∀ c, test c = true → c.utf8Size = 1 ∧ ∃ d < base, Hex.digit? c = some d

/-- Sixteen characters, six of them in either case, are digits of the base sixteen. -/
lemma digitsOf_hex : DigitsOf 16 Hex.isDigit := by
  intro c h
  obtain ⟨d, value⟩ := Option.isSome_iff_exists.1 h
  refine ⟨?_, d, ((isHexDigit_iff c d).2 value).lt, value⟩
  have ascii : c.toNat ≤ 127 := (toNat_of_isHexDigit h).2.trans (by decide)
  exact Char.utf8Size_eq_one_iff.2 ascii

/-- Ten characters are digits of the base ten. -/
lemma digitsOf_decimal : DigitsOf 10 Char.isDigit := by
  intro c h
  obtain ⟨ascii, d, -, value⟩ := digitsOf_hex c (isHexDigit_of_isDigit h)
  refine ⟨ascii, d, ?_, value⟩
  have decimal := (isDecimalDigit_iff c d).2 ⟨h, by rw [value, Option.getD_some]⟩
  simpa using (List.getElem?_eq_some_iff.1 decimal).1

variable {base limit : ℕ} {test : Char → Bool} {ds : List Char}

/-- Digits take as many bytes as there are of them. -/
lemma DigitsOf.length_eq (h : DigitsOf base test) (all : ∀ c ∈ ds, test c = true) :
    Utf8.length ds = ds.length := by
  induction ds with
  | nil => rfl
  | cons c ds ih =>
    obtain ⟨first, others⟩ := List.forall_mem_cons.1 all
    rw [Utf8.length_cons, (h c first).1, ih others, List.length_cons, Nat.add_comm]

/-- Some digits of a base denote a number, which is found if it is below the limit. -/
lemma DigitsOf.numberBelow?_eq (h : DigitsOf base test) (all : ∀ c ∈ ds, test c = true)
    (some : ds ≠ []) :
    numberBelow? base limit ds =
      if Hex.valueIn base ds < limit then .some (Hex.valueIn base ds) else none := by
  have digits : ds.all (fun c => (Hex.digit? c).any (· < base)) = true := by
    refine List.all_eq_true.2 fun c mem => ?_
    obtain ⟨-, d, small, value⟩ := h c (all c mem)
    simpa [value] using small
  simp only [numberBelow?, digits, some, ne_eq, not_false_eq_true, true_and]

/-- A cursor moves over the first characters of what is ahead of it. -/
lemma reads_advance_front {front cs : List Char} (h : front <+: cs) :
    Reads source bound (advance (Utf8.length front)) cs (.ok ((), cs.drop front.length)) := by
  obtain ⟨rest, rfl⟩ := h
  rw [List.drop_left]
  exact reads_advance front rest

/-- As many hexadecimal digits are read as are asked for, and their number is found. -/
lemma reads_hexDigits {least most : ℕ} (positive : 0 < least) (few : most ≤ 8) (cs : List Char) :
    Reads source bound (hexDigits least most) cs (readHex least most cs) := by
  refine (reads_position cs).bind ((reads_rest cs).bind ?_)
  simp only [readHex]
  have front : (cs.take most).takeWhile Hex.isDigit <+: cs :=
    (List.takeWhile_prefix _).trans (List.take_prefix most cs)
  have all : ∀ c ∈ (cs.take most).takeWhile Hex.isDigit, Hex.isDigit c = true :=
    fun c => List.mem_takeWhile_imp
  have count : ((cs.take most).takeWhile Hex.isDigit).length ≤ most :=
    (List.takeWhile_prefix _).length_le.trans (List.length_take_le most cs)
  generalize (cs.take most).takeWhile Hex.isDigit = ds at front all count
  have size : Utf8.length ds = ds.length := digitsOf_hex.length_eq all
  by_cases missing : ds.length < least
  · rw [if_pos missing, if_pos (size ▸ missing)]
    exact reads_refuse cs cs trivial
  · have some : ds ≠ [] := by
      rintro rfl
      exact missing positive
    -- No more than eight digits make a number of 32 bits, so this number is found.
    have small : Hex.valueIn 16 ds < 0x100000000 := by
      calc Hex.valueIn 16 ds < 16 ^ ds.length :=
            (numeral_hex_iff.2 ⟨all, rfl⟩).lt_pow fun c d h => h.lt
        _ ≤ 16 ^ 8 := Nat.pow_le_pow_right (by decide) (count.trans few)
    rw [if_neg missing, if_neg (size ▸ missing)]
    refine (reads_advance_front front).bind ?_
    rw [digitsOf_hex.numberBelow?_eq all some, if_pos small]
    exact reads_pure _ _

/-! ## Escapes -/

/-- A text that does not go on behind a character does not start with it. -/
lemma head?_ne {c : Char} {cs : List Char} (h : ∀ rest, cs ≠ c :: rest) : cs.head? ≠ some c := by
  intro start
  obtain ⟨rest, rfl⟩ := List.head?_eq_some_iff.1 start
  exact h rest rfl

/-- The number of a code point. -/
lemma reads_codePoint (cs : List Char) :
    Reads source bound codePoint cs (readCodePoint cs) := by
  unfold readCodePoint
  split
  · rename_i digits
    refine (reads_accept_cons '{' digits).bind ?_
    rw [if_pos rfl]
    refine (reads_hexDigits (by decide) (by decide) digits).bind_cases (fun value rest read => ?_)
      fun r refused => by rw [refused]
    rw [read]
    split
    · rename_i value rest closed
      cases closed
      refine (reads_accept_cons '}' rest).bind ?_
      rw [if_pos rfl]
      exact reads_pure _ _
    · rename_i value rest unclosed same
      cases same
      have missing : rest.head? ≠ some '}' := head?_ne fun tail closed => unclosed tail closed
      refine (reads_accept_other missing).bind ?_
      rw [if_neg (by decide)]
      exact (reads_position rest).bind (reads_refuse rest rest trivial)
    · rename_i same
      cases same
  · rename_i other
    have unmarked : cs.head? ≠ some '{' := head?_ne fun digits same => other digits same
    refine (reads_accept_other unmarked).bind ?_
    rw [if_neg (by decide)]
    exact reads_hexDigits (by decide) (by decide) cs

/-- The two digits of a byte make a number that is one. -/
lemma reads_narrow {cs rest : List Char} {value : ℕ} (read : readHex 2 2 cs = .ok (value, rest)) :
    Reads source bound (narrow value) rest (.ok (UInt8.ofNat value, rest)) := by
  obtain ⟨ds, -, spelled, -, few⟩ := readHex_sound read
  have small : value < 256 := by
    calc value < 16 ^ ds.length := spelled.lt_pow fun c d h => h.lt
      _ ≤ 16 ^ 2 := Nat.pow_le_pow_right (by decide) few
  rw [narrow, if_pos small]
  exact reads_pure _ _

/-- What follows a backslash. -/
lemma reads_escape (start cs : List Char) :
    Reads source bound (escape (offset source start)) cs (readEscape start cs) := by
  cases cs with
  | nil => exact reads_next_nil.bind (reads_refuse start [] trivial)
  | cons c rest =>
    refine (reads_next_cons c rest).bind ?_
    simp only [readEscape]
    cases plain : plainEscape? c with
    | some d => exact reads_pure _ _
    | none =>
      simp only
      split_ifs with byte codePoint
      · refine (reads_hexDigits (by decide) (by decide) rest).bind_cases (fun value behind read => ?_)
          fun r refused => by rw [refused]
        rw [read]
        exact (reads_narrow read).bind (reads_pure _ _)
      · refine (reads_codePoint rest).bind_cases (fun value behind read => ?_)
          fun r refused => by rw [refused]
        rw [read]
        dsimp only
        split_ifs with scalar
        · exact reads_pure _ _
        · exact reads_refuse start behind trivial
      · exact reads_refuse start rest trivial

/-! ## Strings -/

/-- A position less no more than itself. -/
lemma reads_minus {position less : ℕ} (enough : less ≤ position) (cs : List Char) :
    Reads source bound (minus position less) cs (.ok (position - less, cs)) := by
  rw [minus, if_pos enough]
  exact reads_pure _ _

/-- A bad escape in a string is refused at its backslash, which lies behind the start of the source. -/
lemma reads_refuse_escape {α : Type} {fault : Fault} (d : Char) (rest : List Char)
    (inside : '\\' :: d :: rest <:+ source.toList) (own : fault.IsOwn) :
    Reads source bound
      (do refuse fault (← minus (← minus (← position) d.utf8Size) 1) : Scan α) rest
      (.error ⟨fault, '\\' :: d :: rest⟩) := by
  -- The cursor has passed the backslash and `d`, so neither subtraction goes below zero.
  have behind := offset_cons ((List.suffix_cons '\\' _).trans inside)
  have start : offset source (d :: rest) = offset source ('\\' :: d :: rest) + 1 := offset_cons inside
  refine (reads_position rest).bind ((reads_minus (by omega) rest).bind
    ((reads_minus (by omega) rest).bind ?_))
  have place : offset source rest - d.utf8Size - 1 = offset source ('\\' :: d :: rest) := by omega
  rw [place]
  exact reads_refuse _ rest own

/-- The characters of a string, up to its closing quote.

**Proof sketch.** Induction along the reader of texts: each character, or escape, is a turn. -/
lemma loops_stringTurn (start done cs : List Char) :
    Loops source bound .characters (stringTurn (offset source start)) done cs
      (readString start done cs) := by
  fun_induction readString start done cs with
  | case1 done => exact .refused (reads_next_nil.bind (reads_refuse start [] trivial))
  | case2 done rest =>
    refine .last ((reads_next_cons '"' rest).bind ?_) (Nat.lt_succ_self _)
    dsimp only
    rw [if_pos rfl]
    exact reads_pure _ _
  | case3 done plain =>
    refine .refused ((reads_next_cons '\\' []).bind ?_)
    dsimp only
    rw [if_neg plain, if_pos rfl]
    exact reads_next_nil.bind (reads_refuse start [] trivial)
  | case4 done d rest escape plain ih =>
    have taken : Reads source bound (stringTurn (offset source start) done) ('\\' :: d :: rest)
        (.ok (.again (d :: done), rest)) := by
      refine (reads_next_cons '\\' (d :: rest)).bind ?_
      dsimp only
      rw [if_neg plain, if_pos rfl]
      refine (reads_next_cons d rest).bind ?_
      dsimp only
      rw [if_pos escape]
      exact reads_pure _ _
    have shorter : rest.length < ('\\' :: d :: rest).length := by
      simp only [List.length_cons]
      omega
    exact .again taken shorter ih
  | case5 done d rest escape plain =>
    refine .refused (.of_suffix fun inside => (reads_next_cons '\\' (d :: rest)).bind ?_)
    dsimp only
    rw [if_neg plain, if_pos rfl]
    refine (reads_next_cons d rest).bind ?_
    dsimp only
    rw [if_neg escape]
    exact reads_refuse_escape d rest inside trivial
  | case6 done c rest plain literal ih =>
    refine .again ((reads_next_cons c rest).bind ?_) (Nat.lt_succ_self _) ih
    dsimp only
    rw [if_neg plain, if_neg literal]
    exact reads_pure _ _

/-- A string, from its opening quote on. -/
lemma reads_string (enough : source.length < bound) (rest : List Char) :
    Reads source bound string ('"' :: rest) (readString ('"' :: rest) [] rest) :=
  (reads_position _).bind ((reads_next_cons '"' rest).bind ((loops_stringTurn _ [] rest).reads enough))

/-! ## Integers -/

/-- A cursor moves over a run of characters. -/
lemma reads_advance_run (test : Char → Bool) (cs : List Char) :
    Reads source bound (advance (Utf8.length (cs.takeWhile test))) cs
      (.ok ((), cs.dropWhile test)) := by
  have moved : Reads source bound (advance (Utf8.length (cs.takeWhile test)))
      (cs.takeWhile test ++ cs.dropWhile test) (.ok ((), cs.dropWhile test)) := reads_advance _ _
  rwa [List.takeWhile_append_dropWhile] at moved

/-- A magnitude has a negative. -/
lemma reads_negate {magnitude : ℕ} (small : magnitude < magnitudeBound) (cs : List Char) :
    Reads source bound (negate (Int64.ofNat magnitude)) cs
      (.ok (Int64.ofInt (-magnitude), cs)) := by
  have least : Int64.ofNat magnitude ≠ Int64.minValue := by
    intro same
    have values := congrArg Int64.toInt same
    rw [Int64.toInt_ofNat_of_lt small, Int64.toInt_minValue] at values
    omega
  rw [negate, if_neg least, Int64.ofInt_neg, Int64.ofInt_eq_ofNat]
  exact reads_pure _ _

/-- The digits of an integer, whose magnitude has a negative. -/
lemma reads_signed (digitsOf : DigitsOf base test) (start cs : List Char) (negative : Bool) :
    Reads source bound (signed (offset source start) negative base (cs.takeWhile test)) cs
      (readMagnitude start negative base test cs) := by
  simp only [signed, readMagnitude]
  have all : ∀ c ∈ cs.takeWhile test, test c = true := fun c => List.mem_takeWhile_imp
  by_cases none : (cs.takeWhile test).isEmpty = true
  · rw [if_pos none, if_pos none]
    exact (reads_position cs).bind (reads_refuse cs cs trivial)
  · have some : cs.takeWhile test ≠ [] := fun empty => none (by rw [empty, List.isEmpty_nil])
    rw [if_neg none, if_neg none]
    refine (reads_advance_run test cs).bind ?_
    rw [digitsOf.numberBelow?_eq all some]
    by_cases small : Hex.valueIn base (cs.takeWhile test) < magnitudeBound
    · rw [if_pos small, if_pos small]
      cases negative with
      | true => exact reads_negate small _
      | false =>
        rw [if_neg Bool.false_ne_true, Int64.ofInt_eq_ofNat]
        exact reads_pure _ _
    · rw [if_neg small, if_neg small]
      exact reads_refuse start _ trivial

/-- A mark of the base sixteen is passed. -/
lemma reads_numeral_marked {mark : Char} (h : mark = 'x' ∨ mark = 'X') (digits : List Char) :
    Reads source bound numeral ('0' :: mark :: digits)
      (.ok ((16, digits.takeWhile Hex.isDigit), digits)) := by
  have size : Utf8.length ['0', mark] = 2 := by
    rcases h with rfl | rfl <;> rfl
  have moved : Reads source bound (advance 2) (['0', mark] ++ digits) (.ok ((), digits)) :=
    size ▸ reads_advance ['0', mark] digits
  refine (reads_rest _).bind ?_
  rw [if_pos (by rcases h with rfl | rfl <;> simp)]
  exact moved.bind ((reads_rest digits).bind (reads_pure _ _))

/-- Without a mark the base is ten. -/
lemma reads_numeral_plain {cs : List Char} (lower : ∀ digits, cs ≠ '0' :: 'x' :: digits)
    (upper : ∀ digits, cs ≠ '0' :: 'X' :: digits) :
    Reads source bound numeral cs (.ok ((10, cs.takeWhile Char.isDigit), cs)) := by
  refine (reads_rest cs).bind ?_
  have unmarked : ¬(['0', 'x'].isPrefixOf cs ∨ ['0', 'X'].isPrefixOf cs) := by
    simp only [List.isPrefixOf_iff_prefix]
    rintro (⟨digits, rfl⟩ | ⟨digits, rfl⟩)
    · exact lower digits rfl
    · exact upper digits rfl
  rw [if_neg unmarked]
  exact reads_pure _ _

/-- What follows the sign of an integer. -/
lemma reads_unsigned (start cs : List Char) (negative : Bool) :
    Reads source bound
      (do
        let found ← numeral
        signed (offset source start) negative found.1 found.2)
      cs (readUnsigned start negative cs) := by
  unfold readUnsigned
  split
  · rename_i digits
    exact (reads_numeral_marked (.inl rfl) digits).bind
      (reads_signed digitsOf_hex start digits negative)
  · rename_i digits
    exact (reads_numeral_marked (.inr rfl) digits).bind
      (reads_signed digitsOf_hex start digits negative)
  · rename_i lower upper
    exact (reads_numeral_plain lower upper).bind (reads_signed digitsOf_decimal start cs negative)

/-- An integer, from its sign on. -/
lemma reads_integer (cs : List Char) : Reads source bound integer cs (readInteger cs) := by
  refine (reads_position cs).bind ?_
  unfold readInteger
  split
  · rename_i rest
    exact (reads_accept_cons '-' rest).bind (reads_unsigned _ rest true)
  · rename_i unsigned
    exact (reads_accept_other (head?_ne unsigned)).bind (reads_unsigned cs cs false)

/-! ## Arguments -/

/-- An argument of a call. -/
lemma reads_argument (enough : source.length < bound) (start cs : List Char) :
    Reads source bound (argument (offset source start)) cs (readArgument start cs) := by
  cases cs with
  | nil => exact (reads_peek []).bind (reads_refuse start [] trivial)
  | cons c rest =>
    refine (reads_peek (c :: rest)).bind ?_
    simp only [readArgument, List.head?_cons]
    split_ifs with quote digit
    · obtain rfl := quote
      refine (reads_string enough rest).bind_cases (fun value behind read => ?_)
        fun r refused => by rw [refused]
      rw [read]
      exact reads_pure _ _
    · refine (reads_integer (c :: rest)).bind_cases (fun value behind read => ?_)
        fun r refused => by rw [refused]
      rw [read]
      exact reads_pure _ _
    · exact (reads_position _).bind (reads_refuse (c :: rest) _ trivial)

/-- An argument, between blanks. -/
lemma reads_argument_between (enough : source.length < bound) {α : Type} (start cs : List Char)
    {k : Argument → Scan α} {a : Argument} {rest : List Char} {reading : Reading α}
    (read : readArgument start (skipBlanks cs) = .ok (a, rest))
    (behind : Reads source bound (k a) (skipBlanks rest) reading) :
    Reads source bound
      (do
        passBlanks
        let a ← argument (offset source start)
        passBlanks
        k a)
      cs reading := by
  have argument := reads_argument enough start (skipBlanks cs)
  rw [read] at argument
  exact (reads_passBlanks enough cs).bind (argument.bind ((reads_passBlanks enough rest).bind behind))

/-- Less is ahead behind an argument and the character that follows it. -/
lemma length_lt_of_readArgument {start cs rest after : List Char} {a : Argument} {c : Char}
    (read : readArgument start (skipBlanks cs) = .ok (a, rest))
    (behind : skipBlanks rest = c :: after) : after.length < cs.length := by
  have taken := ((readArgument_suffix read).trans (skipBlanks_suffix cs)).length_le
  have blanks := (skipBlanks_suffix rest).length_le
  rw [behind, List.length_cons] at blanks
  omega

/-- The arguments of a call, up to its closing parenthesis.

**Proof sketch.** Induction along the reader of texts: each argument, with the comma behind it, is a
turn. -/
lemma loops_argumentTurn (enough : source.length < bound) (start : List Char) (done : List Argument)
    (cs : List Char) :
    Loops source bound .arguments (argumentTurn (offset source start)) done cs
      (readArgumentsOnto start done cs) := by
  fun_induction readArgumentsOnto start done cs with
  | case1 done cs r refused =>
    have argument := reads_argument enough start (skipBlanks cs)
    rw [refused] at argument
    exact .refused ((reads_passBlanks enough cs).bind argument.bind_refused)
  | case2 done cs a rest read ended =>
    refine .refused (reads_argument_between enough start cs read ?_)
    rw [ended]
    exact (reads_accept_other (by simp)).bind ((reads_accept_other (by simp)).bind
      ((reads_peek []).bind (reads_refuse start [] trivial)))
  | case3 done cs a rest read after comma ih =>
    refine .again (reads_argument_between enough start cs read ?_)
      (length_lt_of_readArgument read comma) ih
    rw [comma]
    exact (reads_accept_cons ',' after).bind (reads_pure _ _)
  | case4 done cs a rest read after closed other =>
    refine .last (reads_argument_between enough start cs read ?_)
      (length_lt_of_readArgument read closed)
    rw [closed]
    exact (reads_accept_other (by simp)).bind ((reads_accept_cons ')' after).bind (reads_pure _ _))
  | case5 done cs a rest read c after behind other unclosed =>
    refine .refused (reads_argument_between enough start cs read ?_)
    rw [behind]
    exact (reads_accept_other (by simpa using other)).bind
      ((reads_accept_other (by simpa using unclosed)).bind
        ((reads_peek _).bind ((reads_position _).bind (reads_refuse (c :: after) _ trivial))))

/-- The arguments of a call, from behind its opening parenthesis. -/
lemma reads_arguments (enough : source.length < bound) (start cs : List Char) :
    Reads source bound (arguments (offset source start)) cs (readArguments start cs) := by
  refine (reads_passBlanks enough cs).bind ?_
  unfold readArguments
  split
  · rename_i rest closed
    rw [closed]
    exact (reads_accept_cons ')' rest).bind (reads_pure _ _)
  · rename_i some
    exact (reads_accept_other (head?_ne some)).bind
      ((loops_argumentTurn enough start [] (skipBlanks cs)).reads enough)

/-! ## References -/

/-- A name takes as many bytes as it has characters. -/
lemma reads_name?_some {cs rest : List Char} {name : String}
    (h : readName? cs = some (name, rest)) : Reads source bound name? cs (.ok (some name, rest)) := by
  cases cs with
  | nil => cases h
  | cons c cs =>
    simp only [readName?] at h
    split_ifs at h with start
    cases h
    refine (reads_peek (c :: cs)).bind ?_
    show Reads source bound (if isNameStart c = true then _ else _) _ _
    rw [if_pos start]
    exact (reads_rest _).bind ((reads_advance_run isNamePart _).bind (reads_pure _ _))

/-- Where no name starts, a cursor stays. -/
lemma reads_name?_none {cs : List Char} (h : readName? cs = none) :
    Reads source bound name? cs (.ok (none, cs)) := by
  cases cs with
  | nil => exact (reads_peek []).bind (reads_pure _ _)
  | cons c cs =>
    simp only [readName?] at h
    split_ifs at h with start
    refine (reads_peek (c :: cs)).bind ?_
    show Reads source bound (if isNameStart c = true then _ else _) _ _
    rw [if_neg start]
    exact reads_pure _ _

/-- The closing brace of a reference. -/
lemma reads_closeReference (start : List Char) (p : Particle) (cs : List Char) :
    Reads source bound (closeReference (offset source start) p) cs
      (FrameConsole.closeReference start p cs) := by
  cases cs with
  | nil =>
    exact (reads_accept_other (by simp)).bind ((reads_peek []).bind (reads_refuse start [] trivial))
  | cons c rest =>
    simp only [FrameConsole.closeReference]
    split_ifs with brace
    · obtain rfl := brace
      exact (reads_accept_cons _ rest).bind (reads_pure _ _)
    · exact (reads_accept_other (by simpa using brace)).bind
        ((reads_peek _).bind ((reads_position _).bind (reads_refuse (c :: rest) _ trivial)))

/-- A reference, from behind its opening brace. -/
lemma reads_reference (enough : source.length < bound) (start cs : List Char) :
    Reads source bound (reference (offset source start)) cs (readReference start cs) := by
  refine (reads_passBlanks enough cs).bind ?_
  unfold readReference
  split
  · rename_i unnamed
    refine (reads_name?_none unnamed).bind ((reads_peek _).bind ?_)
    cases skipBlanks cs with
    | nil => exact reads_refuse start [] trivial
    | cons c rest => exact (reads_position _).bind (reads_refuse (c :: rest) _ trivial)
  · rename_i name rest named
    refine (reads_name?_some named).bind ((reads_passBlanks enough rest).bind ?_)
    split
    · rename_i args call
      rw [call]
      refine (reads_accept_cons '(' args).bind ?_
      rw [if_pos rfl]
      refine (reads_arguments enough start args).bind_cases (fun as behind read => ?_)
        fun r refused => by rw [refused]
      rw [read]
      exact (reads_passBlanks enough behind).bind (reads_closeReference start _ _)
    · rename_i uncalled
      exact (reads_accept_other (head?_ne uncalled)).bind (reads_closeReference start _ _)

/-! ## Templates -/

/-- An element of a source. -/
lemma reads_element (enough : source.length < bound) (c : Char) (cs : List Char) :
    Reads source bound (element c) (c :: cs) (readElement c cs) := by
  unfold element readElement
  split_ifs with escape dollar
  · exact (reads_position _).bind ((reads_next_cons c cs).bind (reads_escape (c :: cs) cs))
  · obtain rfl := dollar
    split
    · rename_i rest
      have moved : Reads source bound (advance 2) (['$', '{'] ++ rest) (.ok ((), rest)) :=
        reads_advance ['$', '{'] rest
      refine (reads_rest _).bind ?_
      rw [if_pos (by simp)]
      exact (reads_position _).bind (moved.bind (reads_reference enough _ rest))
    · rename_i text
      have plain : ¬('$' = '$' ∧ ['$', '{'].isPrefixOf ('$' :: cs)) := by
        simp only [List.isPrefixOf_iff_prefix]
        rintro ⟨-, rest, same⟩
        exact text rest (List.cons.inj same).2.symm
      refine (reads_rest _).bind ?_
      rw [if_neg plain]
      exact (reads_next_cons '$' cs).bind (reads_pure _ _)
  · refine (reads_rest _).bind ?_
    rw [if_neg fun opening => dollar opening.1]
    exact (reads_next_cons c cs).bind (reads_pure _ _)

/-- What was read is added behind what was read before. -/
lemma Gathered.append_particles (gathered : Gathered) (e : Element) (es : List Element) :
    (gathered.append e).particles ++ Particle.ofElementsAfter (gathered.append e).text es =
      gathered.particles ++ Particle.ofElementsAfter gathered.text (e :: es) := by
  cases e with
  | char c => rfl
  | particle p =>
    simp only [Gathered.append, Gathered.flush, Particle.ofElementsAfter, List.append_assoc,
      List.singleton_append]

/-- The elements of a source are its first one and those behind it. -/
lemma readElements_of_read {c : Char} {cs rest : List Char} {e : Element}
    (read : readElement c cs = .ok (e, rest)) :
    readElements (c :: cs) = (readElements rest).map (e :: ·) := by
  rw [readElements, readElementsOnto_of_read read]
  exact readElementsOnto_append_done [] [e] rest

/-- The elements of a source, up to its end.

**Proof sketch.** Induction on the number of characters: each element is a turn, and takes at least one
of them. -/
lemma loops_elementTurn (enough : source.length < bound) (gathered : Gathered) (cs : List Char) :
    Loops source bound .elements elementTurn gathered cs
      ((readElements cs).map fun es =>
        (⟨gathered.particles ++ Particle.ofElementsAfter gathered.text es⟩, [])) := by
  induction size : cs.length using Nat.strong_induction_on generalizing gathered cs with
  | _ n ih =>
    cases cs with
    | nil =>
      have ended : Reads source bound (elementTurn gathered) []
          (.ok (.over ⟨gathered.flush.particles⟩, [])) := (reads_peek []).bind (reads_pure _ _)
      rw [readElements, readElementsOnto]
      exact .over ended
    | cons c cs =>
      have element := reads_element enough c cs
      cases read : readElement c cs with
      | error r =>
        rw [read] at element
        rw [readElements, readElementsOnto_of_refused read]
        exact .refused ((reads_peek _).bind element.bind_refused)
      | ok result =>
        obtain ⟨e, rest⟩ := result
        have shorter : rest.length < (c :: cs).length := by
          rw [List.length_cons]
          exact Nat.lt_succ_of_le (readElement_suffix read).length_le
        rw [read] at element
        have taken : Reads source bound (elementTurn gathered) (c :: cs)
            (.ok (.again (gathered.append e), rest)) :=
          (reads_peek _).bind (element.bind (reads_pure _ _))
        -- The text gathered may go on in what is left, so it is part of the hypothesis.
        have others := ih rest.length (size ▸ shorter) (gathered.append e) rest rfl
        simp only [Gathered.append_particles] at others
        rw [readElements_of_read read]
        refine .again taken shorter ?_
        cases h : readElements rest with
        | error r =>
          rw [h] at others
          exact others
        | ok es =>
          rw [h] at others
          exact others

/-- A source is read by a cursor as it is parsed. -/
lemma reads_template (enough : source.length < bound) :
    Reads source bound Scan.template source.toList
      ((readElements source.toList).map fun es => (⟨Particle.ofElements es⟩, [])) :=
  (loops_elementTurn enough ⟨[], []⟩ source.toList).reads enough

end Scan

/-! ## Sources -/

/-- The faults of this reader have no message about digits that are none. -/
lemma Fault.IsOwn.message_ne {fault : Fault} (own : fault.IsOwn) :
    fault.message ≠ "invalid hex digits" := by
  intro same
  rcases fault.isInner_or_ofWholeElement with inner | whole | ⟨text, rfl⟩
  · have message := inner.message_eq
    rw [same] at message
    simp only [← String.toList_inj] at message
    rcases message with ⟨what, message⟩ | message | message | ⟨c, message⟩ <;> simp at message
  · rw [same] at whole
    generalize text : "invalid hex digits" = message at whole
    rw [← String.toList_inj] at text
    cases whole <;> simp at text
  · exact own.elim

/-- Reading with a cursor has the result of parsing, no fault but those of this reader, and a sound
record. -/
lemma Template.exists_scan_eq {source : String} {bound : ℕ} (enough : source.length < bound) :
    ∃ c, Template.scan source bound = ((Template.parse source).mapError Stop.refused, c) ∧
      (∀ e, Template.parse source = .error e → e.fault.IsOwn) ∧ c.source = source ∧ c.Sound := by
  have reads := Scan.reads_template enough
  have start := Cursor.at_start source bound
  unfold Template.parse
  cases read : readElements source.toList with
  | ok es =>
    rw [read] at reads
    obtain ⟨c, run, h⟩ := reads.ok rfl start
    refine ⟨c, run, fun e refused => ?_, h.source_eq, h.sound⟩
    cases refused
  | error r =>
    rw [read] at reads
    obtain ⟨c, run, own, same, sound⟩ := reads.error rfl start
    refine ⟨c, run, fun e refused => ?_, same, sound⟩
    obtain rfl := Except.error.inj refused
    exact own

/-- **A cursor is always safe**: let the loops of a cursor take more turns than a source has characters.
Then reading the source crashes nowhere, and has the result of parsing it. Wherever the cursor has been,
up to its last position, that was between two characters of the source or at one of its ends; it has
never gone back, and each turn of a loop that came to its end has moved it on. And no source is refused
for digits that are none.

**Proof sketch.** Every computation that makes up the reader does what the reader of texts says of the
part of the source that is ahead, and keeps the record sound. -/
theorem Template.scan_safe {source : String} {bound : ℕ} (enough : source.length < bound) :
    (Template.scan source bound).1 = (Template.parse source).mapError Stop.refused ∧
      (∀ crash, (Template.scan source bound).1 ≠ .error (.crashed crash)) ∧
      (∀ e, (Template.scan source bound).1 = .error (.refused e) →
        e.fault.message ≠ "invalid hex digits") ∧
      (Template.scan source bound).2.trail.head? = some (Template.scan source bound).2.position ∧
      (∀ position ∈ (Template.scan source bound).2.trail,
        String.Pos.Raw.IsValid source ⟨position⟩) ∧
      (Template.scan source bound).2.trail.Pairwise (· ≥ ·) ∧
      ∀ turn ∈ (Template.scan source bound).2.turns, turn.start < turn.stop := by
  obtain ⟨c, run, own, same, sound⟩ := Template.exists_scan_eq enough
  have boundary := sound.boundary
  rw [same] at boundary
  rw [run]
  refine ⟨rfl, ?_, ?_, sound.last, boundary, sound.descending, sound.advancing⟩
  · intro crash
    cases Template.parse source <;> simp [Except.mapError]
  · intro e refused
    cases parsed : Template.parse source with
    | ok t => simp [parsed, Except.mapError] at refused
    | error e' =>
      rw [parsed] at refused
      obtain rfl := Stop.refused.inj (Except.error.inj refused)
      exact (own e' parsed).message_ne

/-- Two characters, of which one takes four bytes, stand before a reference whose string has a bad
escape, of a character of three bytes. The escape is refused at its backslash. -/
theorem Template.scan_safe_malformed :
    "é𝕊$\x7bf(\"\\€\")".length < 12 ∧
      (Template.scan "é𝕊$\x7bf(\"\\€\")" 12).1 =
        .error (.refused ⟨.unknownStringEscape '€', 11⟩) ∧
      (Template.scan "é𝕊$\x7bf(\"\\€\")" 12).1 =
        (Template.parse "é𝕊$\x7bf(\"\\€\")").mapError Stop.refused ∧
      (∀ crash, (Template.scan "é𝕊$\x7bf(\"\\€\")" 12).1 ≠ .error (.crashed crash)) ∧
      (∀ e, (Template.scan "é𝕊$\x7bf(\"\\€\")" 12).1 = .error (.refused e) →
        e.fault.message ≠ "invalid hex digits") ∧
      (Template.scan "é𝕊$\x7bf(\"\\€\")" 12).2.trail.head? =
        some (Template.scan "é𝕊$\x7bf(\"\\€\")" 12).2.position ∧
      (∀ position ∈ (Template.scan "é𝕊$\x7bf(\"\\€\")" 12).2.trail,
        String.Pos.Raw.IsValid "é𝕊$\x7bf(\"\\€\")" ⟨position⟩) ∧
      (Template.scan "é𝕊$\x7bf(\"\\€\")" 12).2.trail.Pairwise (· ≥ ·) ∧
      ∀ turn ∈ (Template.scan "é𝕊$\x7bf(\"\\€\")" 12).2.turns, turn.start < turn.stop :=
  ⟨by decide, by decide +kernel, Template.scan_safe (by decide)⟩

/-- The cursor has been in nine places there, and two turns have come to their ends. -/
example : (Template.scan "é𝕊$\x7bf(\"\\€\")" 12).2.trail = [15, 12, 11, 10, 9, 8, 6, 2, 0] ∧
    (Template.scan "é𝕊$\x7bf(\"\\€\")" 12).2.turns =
      [⟨.elements, 2, 6⟩, ⟨.elements, 0, 2⟩] := by
  decide +kernel

end FrameConsole
