import FrameConsole.Proofs.Evaluation.Source
import FrameConsole.Proofs.Template.Derivation
import FrameConsole.Proofs.Template.Refusal

/-!
# Sources one after another

What a source says does not depend on what follows it, with one exception: a `$` at its end that
stands for itself becomes the start of a reference where a brace follows. So the templates of
two sources are joined when the sources are, the faults of the second one move by the length of the
first one, and the bytes stand one after another.

## Main results

* `FrameConsole.readElements_append` — the elements of two sources one after another.
* `FrameConsole.Template.parse_append` — the law for templates, faults and bytes.
-/

namespace FrameConsole

open Grammar

/-! ## Elements -/

/-- What has been read before only stands in front of what is read. -/
lemma readElementsOnto_append_done (done before : List Element) (cs : List Char) :
    readElementsOnto (done ++ before) cs =
      (readElementsOnto done cs).map (before.reverse ++ ·) := by
  fun_induction readElementsOnto done cs with
  | case1 done =>
    rw [readElementsOnto]
    simp [Except.map]
  | case2 done c cs r refused => rw [readElementsOnto_of_refused refused, Except.map]
  | case3 done c cs e rest read ih =>
    rw [readElementsOnto_of_read read, ← List.cons_append, ih]

/-- The elements of two sources one after another are those of both, and a refusal of the second
source stays where it is. -/
lemma readElements_append {source : List Char} {es : List Element} (h : Elements source es)
    {rest : List Char} (seam : ¬(EndsInDollar source ∧ rest.head? = some '{')) :
    readElements (source ++ rest) = (readElements rest).map (es ++ ·) := by
  have onto := readElementsOnto_append_done [] es.reverse rest
  rw [List.nil_append, List.reverse_reverse] at onto
  rw [readElements, readElementsOnto_append h rest seam, List.append_nil, onto, readElements]

/-! ## Offsets -/

/-- Characters one after another take the bytes of both parts. -/
lemma Utf8.length_append (cs ds : List Char) : length (cs ++ ds) = length cs + length ds := by
  simp [length, encodeChars]

/-- A suffix is no longer than the whole. -/
lemma Utf8.length_le_of_suffix {cs ds : List Char} (h : cs <:+ ds) : length cs ≤ length ds := by
  obtain ⟨front, rfl⟩ := h
  rw [length_append]
  omega

/-- The bytes of a text are as many as its size says. -/
lemma Utf8.length_toList (s : String) : length s.toList = s.utf8ByteSize := by
  rw [← String.size_toByteArray, ← String.utf8Encode_toList, List.utf8Encode,
    List.size_toByteArray]
  rfl

/-- A fault in the second part lies behind all of the first part. -/
lemma Refusal.toSyntaxError_append {r : Refusal} {rest : List Char} (inside : r.rest <:+ rest)
    (source : List Char) :
    r.toSyntaxError (source ++ rest) =
      ⟨r.fault, Utf8.length source + (r.toSyntaxError rest).offset⟩ := by
  have short := Utf8.length_le_of_suffix inside
  simp only [Refusal.toSyntaxError, Utf8.length_append, SyntaxError.mk.injEq, true_and]
  omega

/-! ## Templates -/

/-- Two templates one after another are read as one, with the texts that meet joined. -/
lemma Template.parse_append_of_ok {s t : String} {first second : Template}
    (parsed : Template.parse s = .ok first)
    (seam : ¬(EndsInDollar s.toList ∧ t.toList.head? = some '{'))
    (parsed' : Template.parse t = .ok second) :
    Template.parse (s ++ t) = .ok ⟨Particle.join first.particles second.particles⟩ := by
  obtain ⟨es, elements, merged⟩ := Template.exists_of_parse parsed
  obtain ⟨es', elements', merged'⟩ := Template.exists_of_parse parsed'
  have read : readElements (s ++ t).toList = .ok (es ++ es') := by
    rw [String.toList_append, readElements_append elements seam,
      readElements_eq_ok_iff.2 elements', Except.map]
  exact Template.parse_of_elements (readElements_eq_ok_iff.1 read)
    (merged.append merged' elements.canonical elements'.canonical)

/-- What is refused behind a template is refused for the same fault, behind all of the template. -/
lemma Template.parse_append_of_error {s t : String} {first : Template} {e : SyntaxError}
    (parsed : Template.parse s = .ok first)
    (seam : ¬(EndsInDollar s.toList ∧ t.toList.head? = some '{'))
    (refused : Template.parse t = .error e) :
    Template.parse (s ++ t) = .error ⟨e.fault, s.utf8ByteSize + e.offset⟩ := by
  obtain ⟨es, elements, -⟩ := Template.exists_of_parse parsed
  obtain ⟨r, stopped, rfl⟩ := Template.parse_eq_error_iff.1 refused
  refine Template.parse_eq_error_iff.2 ⟨r, ?_, ?_⟩
  · rw [String.toList_append, readElements_append elements seam, stopped, Except.map]
  · rw [String.toList_append, r.toSyntaxError_append (readElementsOnto_refusal stopped),
      Utf8.length_toList]
    rfl

/-- Two templates one after another give the bytes of both, and the error of the first one where
both fail. -/
lemma Scope.evaluate_append (scope : Scope) {s t : String} {first second : Template}
    (parsed : Template.parse s = .ok first) (parsed' : Template.parse t = .ok second)
    (joined : Template.parse (s ++ t) =
      .ok ⟨Particle.join first.particles second.particles⟩) :
    scope.evaluate (s ++ t) = do
      let front ← scope.evaluate s
      let back ← scope.evaluate t
      return front ++ back := by
  simp only [Scope.evaluate, parsed, parsed', joined, Template.eval_join]
  cases Template.eval scope first with
  | error e => rfl
  | ok front => cases Template.eval scope second <;> rfl

/-- **Sources one after another**: behind a source that is read, unless a `$` at its end meets a
brace, another source gives its own particles, or its own fault behind the whole of the first
source. In every scope the bytes of both follow one another, and the first failure decides the
error. -/
theorem Template.parse_append {s t : String} {first : Template}
    (parsed : Template.parse s = .ok first)
    (seam : ¬(EndsInDollar s.toList ∧ t.toList.head? = some '{')) :
    (∀ second, Template.parse t = .ok second →
        Template.parse (s ++ t) = .ok ⟨Particle.join first.particles second.particles⟩ ∧
          ∀ scope : Scope, scope.evaluate (s ++ t) = do
            let front ← scope.evaluate s
            let back ← scope.evaluate t
            return front ++ back) ∧
      ∀ e, Template.parse t = .error e →
        Template.parse (s ++ t) = .error ⟨e.fault, s.utf8ByteSize + e.offset⟩ := by
  refine ⟨fun second parsed' => ?_, fun e refused => ?_⟩
  · have joined := Template.parse_append_of_ok parsed seam parsed'
    exact ⟨joined, fun scope => scope.evaluate_append parsed parsed' joined⟩
  · exact Template.parse_append_of_error parsed seam refused

/-- A `$` at the end that meets a digit stays what it is, and a fault behind it moves by the bytes in
front. -/
theorem Template.parse_append_price :
    Template.parse "é $" = .ok ⟨[.text "é $"]⟩ ∧
      ¬(EndsInDollar "é $".toList ∧ "5\\q".toList.head? = some '{') ∧
      Template.parse ("é $" ++ "5") = .ok ⟨[.text "é $5"]⟩ ∧
      Template.parse ("é $" ++ "5\\q") = .error ⟨.unknownEscape 'q', 5⟩ := by
  have parsed : Template.parse "é $" = .ok ⟨[.text "é $"]⟩ := by cbv
  have digit : Template.parse "5" = .ok ⟨[.text "5"]⟩ := by cbv
  have refused : Template.parse "5\\q" = .error ⟨.unknownEscape 'q', 1⟩ := by cbv
  have seam : ¬(EndsInDollar "é $".toList ∧ "5".toList.head? = some '{') := by simp
  have seam' : ¬(EndsInDollar "é $".toList ∧ "5\\q".toList.head? = some '{') := by simp
  exact ⟨parsed, seam', ((Template.parse_append parsed seam).1 _ digit).1,
    (Template.parse_append parsed seam').2 _ refused⟩

end FrameConsole
