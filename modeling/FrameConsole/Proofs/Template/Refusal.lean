import FrameConsole.Template.Reader
import Mathlib.Data.Nat.Notation
import Mathlib.Tactic.Lemma
import Mathlib.Tactic.SplitIfs

/-!
# Places of refusals

Where a reader refuses, it hands back the part of the source that starts at the fault. That part is
a suffix of what the reader was given, or of the larger part that starts where the reader's
caller says, such as the backslash of an escape or the `$` of a reference.

## Main results

* `FrameConsole.readElement_refusal` — the refusal of an element lies in the source of the element.
* `FrameConsole.readElementsOnto_refusal` — the refusal of a source lies in the source.
* `FrameConsole.Template.parse_eq_error_iff` — the syntax errors of templates are refusals.
-/

namespace FrameConsole

/-! ## Escapes -/

/-- Too few digits are refused where they should start. -/
lemma readHex_refusal {least most : ℕ} {cs : List Char} {r : Refusal}
    (h : readHex least most cs = .error r) : r.rest = cs := by
  simp only [readHex] at h
  split at h
  · cases h
    rfl
  · cases h

/-- The number of a code point is refused behind its marker. -/
lemma readCodePoint_refusal {cs : List Char} {r : Refusal} (h : readCodePoint cs = .error r) :
    r.rest <:+ cs := by
  unfold readCodePoint at h
  split at h
  · rename_i digits
    split at h
    · cases h
    · rename_i read
      cases h
      exact (readHex_suffix read).trans (List.suffix_cons _ _)
    · rename_i refused
      cases h
      rw [readHex_refusal refused]
      exact List.suffix_cons _ _
  · have same : r.rest = cs := readHex_refusal h
    exact same ▸ List.suffix_refl _

/-- An escape is refused at its backslash or behind it. -/
lemma readEscape_refusal {start cs : List Char} {r : Refusal} (inside : cs <:+ start)
    (h : readEscape start cs = .error r) : r.rest <:+ start := by
  unfold readEscape at h
  split at h
  · cases h
    exact List.suffix_refl _
  · rename_i c cs
    have behind : cs <:+ start := (List.suffix_cons c cs).trans inside
    split at h
    · cases h
    · split_ifs at h with byte codePoint
      · split at h
        · cases h
        · rename_i refused
          cases h
          rw [readHex_refusal refused]
          exact behind
      · split at h
        · split at h
          · cases h
          · cases h
            exact List.suffix_refl _
        · rename_i refused
          cases h
          exact (readCodePoint_refusal refused).trans behind
      · cases h
        exact List.suffix_refl _

/-! ## Arguments -/

/-- A string is refused at its opening quote or at a backslash in it. -/
lemma readString_refusal {start done cs : List Char} {r : Refusal} (inside : cs <:+ start)
    (h : readString start done cs = .error r) : r.rest <:+ start := by
  fun_induction readString start done cs with
  | case1 =>
    cases h
    exact List.suffix_refl _
  | case2 => cases h
  | case3 =>
    cases h
    exact List.suffix_refl _
  | case4 _ _ _ _ _ ih =>
    exact ih (((List.suffix_cons _ _).trans (List.suffix_cons _ _)).trans inside) h
  | case5 =>
    cases h
    exact inside
  | case6 _ _ _ _ _ ih => exact ih ((List.suffix_cons _ _).trans inside) h

/-- A magnitude is refused at the start of its integer or where digits should start. -/
lemma readMagnitude_refusal {start cs : List Char} {negative : Bool} {base : ℕ}
    {test : Char → Bool} {r : Refusal} (inside : cs <:+ start)
    (h : readMagnitude start negative base test cs = .error r) : r.rest <:+ start := by
  simp only [readMagnitude] at h
  split at h
  · cases h
    exact inside
  · split at h
    · cases h
    · cases h
      exact List.suffix_refl _

/-- What follows a sign is refused in its integer. -/
lemma readUnsigned_refusal {start cs : List Char} {negative : Bool} {r : Refusal}
    (inside : cs <:+ start) (h : readUnsigned start negative cs = .error r) :
    r.rest <:+ start := by
  unfold readUnsigned at h
  split at h
  · exact readMagnitude_refusal
      (((List.suffix_cons _ _).trans (List.suffix_cons _ _)).trans inside) h
  · exact readMagnitude_refusal
      (((List.suffix_cons _ _).trans (List.suffix_cons _ _)).trans inside) h
  · exact readMagnitude_refusal inside h

/-- An integer is refused in its own text. -/
lemma readInteger_refusal {cs : List Char} {r : Refusal} (h : readInteger cs = .error r) :
    r.rest <:+ cs := by
  unfold readInteger at h
  split at h
  · exact readUnsigned_refusal (List.suffix_cons _ _) h
  · exact readUnsigned_refusal (List.suffix_refl _) h

/-- An argument is refused in its own text, or at its reference where the source ends. -/
lemma readArgument_refusal {start cs : List Char} {r : Refusal} (inside : cs <:+ start)
    (h : readArgument start cs = .error r) : r.rest <:+ start := by
  unfold readArgument at h
  split at h
  · cases h
    exact List.suffix_refl _
  · split_ifs at h with quote digit
    · split at h
      · cases h
      · rename_i refused
        cases h
        exact (readString_refusal (List.suffix_cons _ _) refused).trans inside
    · split at h
      · cases h
      · rename_i refused
        cases h
        exact (readInteger_refusal refused).trans inside
    · cases h
      exact inside

/-! ## References -/

/-- A row of arguments is refused in its own text, or at its reference where the source ends. -/
lemma readArgumentsOnto_refusal {start cs : List Char} {done : List Argument} {r : Refusal}
    (inside : cs <:+ start) (h : readArgumentsOnto start done cs = .error r) :
    r.rest <:+ start := by
  fun_induction readArgumentsOnto start done cs with
  | case1 done cs e refused =>
    cases h
    exact readArgument_refusal ((skipBlanks_suffix cs).trans inside) refused
  | case2 =>
    cases h
    exact List.suffix_refl _
  | case3 done cs a rest' hArg after hSep ih =>
    have hAfter : after <:+ rest' :=
      (List.suffix_cons _ _).trans (hSep ▸ skipBlanks_suffix rest')
    exact ih (((hAfter.trans (readArgument_suffix hArg)).trans (skipBlanks_suffix cs)).trans
      inside) h
  | case4 => cases h
  | case5 done cs a rest' hArg c after hSep =>
    cases h
    have hBehind : c :: after <:+ rest' := hSep ▸ skipBlanks_suffix rest'
    exact ((hBehind.trans (readArgument_suffix hArg)).trans (skipBlanks_suffix cs)).trans inside

/-- The arguments of a call are refused in their own text, or at their reference. -/
lemma readArguments_refusal {start cs : List Char} {r : Refusal} (inside : cs <:+ start)
    (h : readArguments start cs = .error r) : r.rest <:+ start := by
  unfold readArguments at h
  split at h
  · cases h
  · exact readArgumentsOnto_refusal ((skipBlanks_suffix cs).trans inside) h

/-- A missing brace is refused where it should stand, or at its reference. -/
lemma closeReference_refusal {start cs : List Char} {p : Particle} {r : Refusal}
    (inside : cs <:+ start) (h : closeReference start p cs = .error r) : r.rest <:+ start := by
  unfold closeReference at h
  split at h
  · cases h
    exact List.suffix_refl _
  · split at h
    · cases h
    · cases h
      exact inside

/-- A reference is refused in its own text. -/
lemma readReference_refusal {start cs : List Char} {r : Refusal} (inside : cs <:+ start)
    (h : readReference start cs = .error r) : r.rest <:+ start := by
  unfold readReference at h
  split at h
  · split at h
    · cases h
      exact List.suffix_refl _
    · cases h
      exact (skipBlanks_suffix cs).trans inside
  · rename_i name after hName
    have hAfter : skipBlanks after <:+ start :=
      (((skipBlanks_suffix after).trans (readName?_suffix hName)).trans
        (skipBlanks_suffix cs)).trans inside
    split at h
    · rename_i args hOpen
      have hInner : args <:+ start := (List.suffix_cons _ _).trans (hOpen ▸ hAfter)
      split at h
      · rename_i hArgs
        exact closeReference_refusal
          (((skipBlanks_suffix _).trans (readArguments_suffix hArgs)).trans hInner) h
      · rename_i refused
        cases h
        exact readArguments_refusal hInner refused
    · exact closeReference_refusal hAfter h

/-! ## Sources -/

/-- The refusal of an element lies in the source from that element on. -/
lemma readElement_refusal {c : Char} {cs : List Char} {r : Refusal}
    (h : readElement c cs = .error r) : r.rest <:+ c :: cs := by
  unfold readElement at h
  split at h
  · exact readEscape_refusal (List.suffix_cons _ _) h
  · split at h
    · split at h
      · exact readReference_refusal ((List.suffix_cons _ _).trans (List.suffix_cons _ _)) h
      · cases h
    · cases h

/-- The refusal of a source lies in the source. -/
lemma readElementsOnto_refusal {done : List Element} {cs : List Char} {r : Refusal}
    (h : readElementsOnto done cs = .error r) : r.rest <:+ cs := by
  fun_induction readElementsOnto done cs with
  | case1 => cases h
  | case2 done c cs e refused =>
    cases h
    exact readElement_refusal refused
  | case3 done c cs e rest read ih =>
    exact ((ih h).trans (readElement_suffix read)).trans (List.suffix_cons _ _)

/-- A source is no template exactly if its elements are refused, and the refusal says where. -/
lemma Template.parse_eq_error_iff {source : String} {e : SyntaxError} :
    Template.parse source = .error e ↔
      ∃ r, readElements source.toList = .error r ∧ e = r.toSyntaxError source.toList := by
  unfold Template.parse
  cases readElements source.toList with
  | ok es => simp
  | error r => simp [eq_comm]

end FrameConsole
