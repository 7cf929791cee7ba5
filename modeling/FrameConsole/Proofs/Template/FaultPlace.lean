import FrameConsole.Proofs.Template.Concatenation
import Mathlib.Order.Bounds.Defs

/-!
# Where faults lie

A source that is no template has a longest front that is one, not counting a cut through the opening of
a reference. What follows that front starts with the first malformed element, and on its own it has the
same fault. So a fault is never reported before the element to which it belongs, and the faults of an
element as a whole are reported where the element starts.

## Main definitions

* `FrameConsole.CutAt` — a source cut behind some of its bytes, between two characters.
* `FrameConsole.CleanCut` — a cut behind a template, not through the opening of a reference.
* `FrameConsole.OfWholeElement` — the messages about an element as a whole.

## Main results

* `FrameConsole.readElement_isInner` — an element is refused inside of it, or as a whole at its start.
* `FrameConsole.Fault.isInner_or_ofWholeElement` — there are no other faults but those of other readers.
* `FrameConsole.exists_element_of_refused` — the element at which a source is refused.
* `FrameConsole.Template.parse_error_located` — the place of a fault in its source.
-/

namespace FrameConsole

open Grammar

/-! ## Cuts -/

/-- The first `n` bytes of a source are the text `before`, and the text `rest` follows them. -/
def CutAt (source : String) (n : ℕ) (before rest : String) : Prop :=
  source = before ++ rest ∧ before.utf8ByteSize = n

/-- The first `n` bytes of a source are a template, and they do not end between the `$` and the brace of
a reference. -/
def CleanCut (source : String) (n : ℕ) : Prop :=
  ∃ before rest, CutAt source n before rest ∧ (∃ t, Template.parse before = .ok t) ∧
    ¬(['$'] <:+ before.toList ∧ ['\x7b'] <+: rest.toList)

/-- The messages about an element as a whole: it has no end, stands for nothing, or stands for a number
that is no character. -/
inductive OfWholeElement : String → Prop
  /-- A reference without an end. -/
  | referenceNotClosed : OfWholeElement "unterminated `$\x7b`"
  /-- A backslash with nothing behind it. -/
  | trailingBackslash : OfWholeElement "trailing backslash"
  /-- A backslash before a character that it cannot stand before. -/
  | unknownEscape (c : Char) : OfWholeElement ("unknown escape `\\" ++ String.singleton c ++ "`")
  /-- A number that is no character. -/
  | notAScalar (number : String) :
      OfWholeElement ("U+" ++ number ++ " is not a unicode scalar value")

/-! ## Faults inside of elements -/

/-- The faults that lie where a part of an element should start. -/
def Fault.IsInner : Fault → Prop
  | .hexDigitsExpected _ _ => True
  | .codePointNotClosed => True
  | .nameExpected => True
  | .closingBraceExpected => True
  | .separatorExpected => True
  | .argumentExpected => True
  | .digitsExpected => True
  | .integerOutOfRange => True
  | .stringNotClosed => True
  | .unknownStringEscape _ => True
  | _ => False

/-- The messages of faults inside of elements name what is expected, or they are about an integer or a
string. -/
lemma Fault.IsInner.message_eq {fault : Fault} (h : fault.IsInner) :
    (∃ what, fault.message = "expected " ++ what) ∨ fault.message = "integer out of range" ∨
      fault.message = "unterminated string" ∨
      ∃ c, fault.message = "unknown escape `\\" ++ String.singleton c ++ "` in string" := by
  cases fault with
  | hexDigitsExpected least most =>
    refine .inl ?_
    show ∃ what, (if least = most then "expected " ++ toString least ++ " hex digits"
      else "expected " ++ toString least ++ " to " ++ toString most ++ " hex digits") =
        "expected " ++ what
    split_ifs
    · exact ⟨_, String.append_assoc⟩
    · exact ⟨_, by rw [String.append_assoc, String.append_assoc, String.append_assoc]⟩
  | codePointNotClosed => exact .inl ⟨"`\x7d` after code point", rfl⟩
  | nameExpected => exact .inl ⟨"a variable or function name", rfl⟩
  | closingBraceExpected => exact .inl ⟨"`\x7d`", rfl⟩
  | separatorExpected => exact .inl ⟨"`,` or `)`", rfl⟩
  | argumentExpected => exact .inl ⟨"an integer or string argument", rfl⟩
  | digitsExpected => exact .inl ⟨"digits", rfl⟩
  | integerOutOfRange => exact .inr (.inl rfl)
  | stringNotClosed => exact .inr (.inr (.inl rfl))
  | unknownStringEscape c => exact .inr (.inr (.inr ⟨c, rfl⟩))
  | _ => exact h.elim

/-- The message of a fault inside of an element is not about the element as a whole. -/
lemma Fault.IsInner.not_ofWholeElement {fault : Fault} (h : fault.IsInner) :
    ¬OfWholeElement fault.message := by
  intro whole
  have inner := h.message_eq
  generalize fault.message = text at inner whole
  simp only [← String.toList_inj] at inner
  rcases inner with ⟨what, inner⟩ | inner | inner | ⟨c, inner⟩
  · cases whole <;> simp at inner
  · cases whole <;> simp at inner
  · cases whole <;> simp at inner
  · cases whole with
    | unknownEscape d =>
      have length := congrArg List.length inner
      simp at length
    | _ => simp at inner

/-- Every other fault has a message about an element as a whole, or words of some other reader. -/
lemma Fault.isInner_or_ofWholeElement (fault : Fault) :
    fault.IsInner ∨ OfWholeElement fault.message ∨ ∃ text, fault = .custom text := by
  cases fault with
  | trailingBackslash => exact .inr (.inl .trailingBackslash)
  | unknownEscape c => exact .inr (.inl (.unknownEscape c))
  | notAScalar n => exact .inr (.inl (.notAScalar (.ofList (Hex.upper n))))
  | referenceNotClosed => exact .inr (.inl .referenceNotClosed)
  | custom text => exact .inr (.inr ⟨text, rfl⟩)
  | _ => exact .inl trivial

/-- Too few digits are a fault inside of an element. -/
lemma readHex_isInner {least most : ℕ} {cs : List Char} {r : Refusal}
    (h : readHex least most cs = .error r) : r.fault.IsInner := by
  simp only [readHex] at h
  split at h <;> cases h
  trivial

/-- The number of a code point is refused inside of its escape. -/
lemma readCodePoint_isInner {cs : List Char} {r : Refusal} (h : readCodePoint cs = .error r) :
    r.fault.IsInner := by
  unfold readCodePoint at h
  split at h
  · split at h
    · cases h
    · cases h
      trivial
    · rename_i refused
      cases h
      exact readHex_isInner refused
  · exact readHex_isInner h

/-- An escape is refused inside of it, or as a whole at its backslash. -/
lemma readEscape_isInner {start cs : List Char} {r : Refusal}
    (h : readEscape start cs = .error r) : r.fault.IsInner ∨ r.rest = start := by
  unfold readEscape at h
  split at h
  · cases h
    exact .inr rfl
  · split at h
    · cases h
    · split_ifs at h with byte codePoint
      · split at h
        · cases h
        · rename_i refused
          cases h
          exact .inl (readHex_isInner refused)
      · split at h
        · split at h <;> cases h
          exact .inr rfl
        · rename_i refused
          cases h
          exact .inl (readCodePoint_isInner refused)
      · cases h
        exact .inr rfl

/-- A string is refused inside of its reference. -/
lemma readString_isInner {start done cs : List Char} {r : Refusal}
    (h : readString start done cs = .error r) : r.fault.IsInner := by
  fun_induction readString start done cs with
  | case1 =>
    cases h
    trivial
  | case2 => cases h
  | case3 =>
    cases h
    trivial
  | case4 _ _ _ _ _ ih => exact ih h
  | case5 =>
    cases h
    trivial
  | case6 _ _ _ _ _ ih => exact ih h

/-- An integer is refused inside of its reference. -/
lemma readInteger_isInner {cs : List Char} {r : Refusal} (h : readInteger cs = .error r) :
    r.fault.IsInner := by
  have magnitude : ∀ {start ds : List Char} {negative : Bool} {base : ℕ} {test : Char → Bool},
      readMagnitude start negative base test ds = .error r → r.fault.IsInner := by
    intro start ds negative base test refused
    simp only [readMagnitude] at refused
    split at refused
    · cases refused
      trivial
    · split at refused <;> cases refused
      trivial
  have unsigned : ∀ {start ds : List Char} {negative : Bool},
      readUnsigned start negative ds = .error r → r.fault.IsInner := by
    intro start ds negative refused
    unfold readUnsigned at refused
    split at refused <;> exact magnitude refused
  unfold readInteger at h
  split at h <;> exact unsigned h

/-- An argument is refused inside of its reference, or as part of a reference without an end. -/
lemma readArgument_isInner {start cs : List Char} {r : Refusal}
    (h : readArgument start cs = .error r) : r.fault.IsInner ∨ r.rest = start := by
  unfold readArgument at h
  split at h
  · cases h
    exact .inr rfl
  · split_ifs at h with quote digit
    · split at h
      · cases h
      · rename_i refused
        cases h
        exact .inl (readString_isInner refused)
    · split at h
      · cases h
      · rename_i refused
        cases h
        exact .inl (readInteger_isInner refused)
    · cases h
      exact .inl trivial

/-- A row of arguments is refused inside of its reference, or as part of a reference without an end. -/
lemma readArgumentsOnto_isInner {start cs : List Char} {done : List Argument} {r : Refusal}
    (h : readArgumentsOnto start done cs = .error r) : r.fault.IsInner ∨ r.rest = start := by
  fun_induction readArgumentsOnto start done cs with
  | case1 done cs e refused =>
    cases h
    exact readArgument_isInner refused
  | case2 =>
    cases h
    exact .inr rfl
  | case3 _ _ _ _ _ _ _ ih => exact ih h
  | case4 => cases h
  | case5 =>
    cases h
    exact .inl trivial

/-- The brace of a reference is missed where it should stand, or the reference has no end. -/
lemma closeReference_isInner {start cs : List Char} {p : Particle} {r : Refusal}
    (h : closeReference start p cs = .error r) : r.fault.IsInner ∨ r.rest = start := by
  unfold closeReference at h
  split at h
  · cases h
    exact .inr rfl
  · split at h <;> cases h
    exact .inl trivial

/-- A reference is refused inside of it, or as one without an end at its `$`. -/
lemma readReference_isInner {start cs : List Char} {r : Refusal}
    (h : readReference start cs = .error r) : r.fault.IsInner ∨ r.rest = start := by
  unfold readReference at h
  split at h
  · split at h <;> cases h
    · exact .inr rfl
    · exact .inl trivial
  · split at h
    · rename_i args _
      split at h
      · exact closeReference_isInner h
      · rename_i refused
        cases h
        unfold readArguments at refused
        split at refused
        · cases refused
        · exact readArgumentsOnto_isInner refused
    · exact closeReference_isInner h

/-- An element is refused inside of it, or as a whole at its start. -/
lemma readElement_isInner {c : Char} {cs : List Char} {r : Refusal}
    (h : readElement c cs = .error r) : r.fault.IsInner ∨ r.rest = c :: cs := by
  unfold readElement at h
  split at h
  · exact readEscape_isInner h
  · split at h
    · split at h
      · exact readReference_isInner h
      · cases h
    · cases h

/-! ## The first malformed element -/

/-- Only escapes and references are refused. -/
lemma marked_of_refused {c : Char} {cs : List Char} {r : Refusal}
    (h : readElement c cs = .error r) : c = '\\' ∨ c = '$' ∧ cs.head? = some '\x7b' := by
  by_contra unmarked
  push Not at unmarked
  rw [readElement_literal unmarked.1 unmarked.2] at h
  cases h

/-- In front of the element at which a source is refused stands a sequence of elements.

**Proof sketch.** Induction along the reading: each element that is read makes the sequence in front of
the refused one longer. -/
lemma exists_element_of_refused {cs : List Char} {done : List Element} {r : Refusal}
    (h : readElementsOnto done cs = .error r) :
    ∃ front es c tail, cs = front ++ c :: tail ∧ Elements front es ∧
      readElement c tail = .error r := by
  fun_induction readElementsOnto done cs with
  | case1 => cases h
  | case2 done c cs e refused =>
    cases h
    exact ⟨[], [], c, cs, rfl, .nil, refused⟩
  | case3 done c cs e rest read ih =>
    obtain ⟨front, es, c', tail, rfl, elements, refused⟩ := ih h
    obtain ⟨word, same, longer⟩ := readElement_sound read
    refine ⟨word ++ front, e :: es, c', tail, ?_, ?_, refused⟩
    · rw [same, List.append_assoc]
    · exact longer front es (List.prefix_append front _) elements

/-- The first element of a sequence is read whatever follows the sequence, unless it ends in a `$` and a
brace follows. -/
lemma Grammar.Elements.readElement_append {c : Char} {more rest : List Char} {es : List Element}
    (h : Elements (c :: more) es) (seam : ¬(['$'] <:+ c :: more ∧ ['\x7b'] <+: rest)) :
    ∃ e behind, readElement c (more ++ rest) = .ok (e, behind) := by
  generalize whole : c :: more = source at h
  cases h with
  | nil => cases whole
  | literal backslash dollar elements =>
    obtain ⟨rfl, rfl⟩ := List.cons.inj whole
    refine ⟨_, _, readElement_literal backslash fun hc brace => ?_⟩
    cases more with
    | nil =>
      obtain ⟨tail, rfl⟩ := List.head?_eq_some_iff.1 brace
      exact seam ⟨by simp [hc], by simp⟩
    | cons d more => exact dollar hc brace
  | @escape word cs e es escaped elements =>
    obtain ⟨rfl, rfl⟩ := List.cons.inj whole
    refine ⟨e, cs ++ rest, ?_⟩
    rw [readElement_backslash, ← readEscape_append escaped, ← List.append_assoc]
    rfl
  | @reference word cs p es referred elements =>
    obtain ⟨rfl, rfl⟩ := List.cons.inj whole
    refine ⟨.particle p, cs ++ rest, ?_⟩
    rw [← readReference_append referred, ← List.append_assoc]
    exact readElement_reference _

/-- No clean cut lies behind the start of the element that is refused.

**Proof sketch.** What lies between that start and such a cut would be a sequence of elements of its own.
Its first element would be read whatever follows, yet it is the one that is refused. -/
lemma CleanCut.le_of_refused {source : String} {front tail : List Char} {es : List Element} {c : Char}
    {r : Refusal} (whole : source.toList = front ++ c :: tail) (elements : Elements front es)
    (refused : readElement c tail = .error r) {n : ℕ} (cut : CleanCut source n) :
    n ≤ Utf8.length front := by
  obtain ⟨before, rest, ⟨rfl, rfl⟩, ⟨t, parsed⟩, seam⟩ := cut
  rw [String.toList_append] at whole
  rw [← Utf8.length_toList]
  rcases List.append_eq_append_iff.1 whole with ⟨more, hfront, -⟩ | ⟨more, hbefore, htail⟩
  · rw [hfront, Utf8.length_append]
    omega
  · cases more with
    | nil => rw [hbefore, List.append_nil]
    | cons d more =>
      exfalso
      obtain ⟨rfl, rfl⟩ := List.cons.inj htail
      obtain ⟨es', elements', -⟩ := Template.exists_of_parse parsed
      have apart : ¬(EndsInDollar front ∧ (c :: more).head? = some '\x7b') := by
        rintro ⟨-, brace⟩
        obtain rfl := Option.some.inj brace
        rcases marked_of_refused refused with backslash | ⟨dollar, -⟩
        · exact absurd backslash (by decide)
        · exact absurd dollar (by decide)
      have read := readElements_append elements apart
      rw [← hbefore, readElements_eq_ok_iff.2 elements'] at read
      cases inner : readElements (c :: more) with
      | error r' =>
        rw [inner] at read
        cases read
      | ok es'' =>
        obtain ⟨e, behind, first⟩ := (readElements_eq_ok_iff.1 inner).readElement_append
          fun ⟨dollar, brace⟩ => seam ⟨hbefore ▸ dollar.trans (List.suffix_append front _), brace⟩
        cases refused.symm.trans first

/-! ## Templates -/

/-- **Where faults lie**: let a source be no template. Its longest front that is one, cut between two
characters and not through the opening of a reference, is followed by a backslash or by the opening of a
reference. The fault lies between two characters, not before the end of that front and not behind the
end of the source. What follows the front has the same fault on its own, at the same distance; and if the
message is about an element as a whole, the fault lies right behind the front.

**Proof sketch.** The elements in front of the one that is refused are a template, and no clean cut
comes later. Behind that front everything is read as it is at the start of a source, so the refusal is
the same, and it lies inside of the element or at its start. -/
theorem Template.parse_error_located {source : String} {e : SyntaxError}
    (refused : Template.parse source = .error e) :
    ∃ q before rest, CutAt source q before rest ∧ IsGreatest {n | CleanCut source n} q ∧
      (['\\'] <+: rest.toList ∨ ['$', '\x7b'] <+: rest.toList) ∧
      q ≤ e.offset ∧ e.offset ≤ source.utf8ByteSize ∧
      (∃ ahead behind, CutAt source e.offset ahead behind) ∧
      Template.parse rest = .error ⟨e.fault, e.offset - q⟩ ∧
      (OfWholeElement e.fault.message → e.offset = q) := by
  obtain ⟨r, stopped, rfl⟩ := Template.parse_eq_error_iff.1 refused
  obtain ⟨front, es, c, tail, whole, elements, refused'⟩ := exists_element_of_refused stopped
  obtain ⟨before, rfl⟩ : ∃ before : String, before.toList = front :=
    ⟨.ofList front, String.toList_ofList⟩
  obtain ⟨rest, hrest⟩ : ∃ rest : String, rest.toList = c :: tail :=
    ⟨.ofList (c :: tail), String.toList_ofList⟩
  obtain rfl : source = before ++ rest := by
    rw [← String.toList_inj, String.toList_append, whole, hrest]
  have inside : r.rest <:+ rest.toList := hrest ▸ readElement_refusal refused'
  have marked := marked_of_refused refused'
  have parsed := Template.parse_of_elements elements (ofElements_eq_iff.1 rfl)
  have alone : Template.parse rest = .error (r.toSyntaxError rest.toList) :=
    Template.parse_eq_error_iff.2 ⟨r, hrest ▸ readElementsOnto_of_refused refused', rfl⟩
  have offset : (r.toSyntaxError (before ++ rest).toList).offset =
      before.utf8ByteSize + (r.toSyntaxError rest.toList).offset := by
    rw [String.toList_append, r.toSyntaxError_append inside, Utf8.length_toList]
  refine ⟨before.utf8ByteSize, before, rest, ⟨rfl, rfl⟩, ⟨?_, ?_⟩, ?_, ?_, ?_, ?_, ?_, ?_⟩
  · show CleanCut (before ++ rest) before.utf8ByteSize
    refine ⟨before, rest, ⟨rfl, rfl⟩, ⟨_, parsed⟩, fun ⟨_, brace⟩ => ?_⟩
    rw [hrest] at brace
    obtain rfl := (List.cons_prefix_cons.1 brace).1
    simp at marked
  · intro n cut
    rw [← Utf8.length_toList]
    exact cut.le_of_refused whole elements refused'
  · rw [hrest]
    rcases marked with rfl | ⟨rfl, brace⟩
    · exact .inl (by simp)
    · obtain ⟨tail, rfl⟩ := List.head?_eq_some_iff.1 brace
      exact .inr (by simp)
  · omega
  · simp only [Refusal.toSyntaxError, Utf8.length_toList]
    omega
  · obtain ⟨inner, split⟩ := inside
    refine ⟨before ++ .ofList inner, .ofList r.rest, ?_, ?_⟩
    · rw [String.append_assoc, ← String.ofList_append, split, String.ofList_toList]
    · rw [offset, String.utf8ByteSize_append, ← Utf8.length_toList (.ofList inner),
        String.toList_ofList, Refusal.toSyntaxError, ← split, Utf8.length_append]
      simp
  · rw [alone, offset, Nat.add_sub_cancel_left]
    rfl
  · intro about
    rcases readElement_isInner refused' with inner | start
    · exact absurd about inner.not_ofWholeElement
    · rw [offset, Refusal.toSyntaxError, start, hrest]
      simp

/-- Behind four bytes of a template stands an escape whose digits no brace closes. The brace is missed
five bytes further on. -/
theorem Template.parse_error_located_unclosed :
    Template.parse "é\\n\\u\x7be9ß" = .error ⟨.codePointNotClosed, 9⟩ ∧
      ∃ q before rest, CutAt "é\\n\\u\x7be9ß" q before rest ∧
        IsGreatest {n | CleanCut "é\\n\\u\x7be9ß" n} q ∧
        (['\\'] <+: rest.toList ∨ ['$', '\x7b'] <+: rest.toList) ∧
        q ≤ 9 ∧ 9 ≤ "é\\n\\u\x7be9ß".utf8ByteSize ∧
        (∃ ahead behind, CutAt "é\\n\\u\x7be9ß" 9 ahead behind) ∧
        Template.parse rest = .error ⟨.codePointNotClosed, 9 - q⟩ ∧
        (OfWholeElement (Fault.message .codePointNotClosed) → 9 = q) := by
  have refused : Template.parse "é\\n\\u\x7be9ß" = .error ⟨.codePointNotClosed, 9⟩ := by cbv
  exact ⟨refused, Template.parse_error_located refused⟩

end FrameConsole
