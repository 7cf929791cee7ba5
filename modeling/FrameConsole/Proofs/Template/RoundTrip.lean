import FrameConsole.Proofs.Template.Derivation
import FrameConsole.Template.Written

/-!
# Canonical templates and their written forms

The templates that some source spells are the canonical ones: no text is empty or adjacent to
another one, names are names, and no integer is the least one. The written form of a canonical
template spells that template. Each written part is a word of the grammar by itself, so the written
form of the whole is a source whatever stands next to what.

## Main definitions

* `FrameConsole.Particle.elements` — the elements that the written form of a particle spells.

## Main results

* `FrameConsole.elements_render` — the written form of a template spells the elements of it.
* `FrameConsole.merged_elements` — the elements of a canonical template give its particles.
* `FrameConsole.Template.canonical_iff_and_parse_render` — which templates are read, and that
  reading undoes writing.
-/

namespace FrameConsole

open Grammar

/-! ## Digits -/

/-- The lower-case digit of a value below sixteen is a digit of that value. -/
lemma isHexDigit_digitChar : ∀ d < 16, IsHexDigit (Hex.digitChar d) d := by
  decide

/-- Two digits spell a byte. -/
lemma numeral_encodeByte (b : UInt8) : Numeral IsHexDigit 16 (Hex.encodeByte b) b.toNat := by
  have range := b.toNat_lt
  have high := isHexDigit_digitChar (b.toNat / 16) (by omega)
  have low := isHexDigit_digitChar (b.toNat % 16) (by omega)
  have h : Numeral IsHexDigit 16 _ _ := (Numeral.nil.snoc high).snoc low
  rw [zero_mul, zero_add, Nat.div_add_mod'] at h
  exact h

/-- The fewest hexadecimal digits of a number spell it. -/
lemma numeral_lower (n : ℕ) : Numeral IsHexDigit 16 (Hex.lower n) n :=
  numeral_toDigits (by decide) (by decide) n

/-- The number of a character has one to six hexadecimal digits. -/
lemma length_lower_toNat (c : Char) :
    1 ≤ (Hex.lower c.toNat).length ∧ (Hex.lower c.toNat).length ≤ 6 := by
  have range : c.toNat < 16 ^ 6 := by
    have valid : c.toNat < 0xd800 ∨ 0xdfff < c.toNat ∧ c.toNat < 0x110000 := c.valid
    omega
  exact ⟨Nat.length_toDigits_pos, (Nat.length_toDigits_le_iff (by decide) (by decide)).2 range⟩

/-- The fewest decimal digits of a number spell it. -/
lemma magnitude_repr (n : ℕ) : Magnitude n.repr.toList n := by
  rw [Nat.toList_repr]
  exact .decimal Nat.toDigits_ne_nil (numeral_toDigits (by decide) (by decide) n)

/-! ## Arguments -/

/-- The decimal form of an integer spells it. -/
lemma integer_toString (n : ℤ) : Integer (toString n).toList n := by
  cases n with
  | ofNat n => exact .plain (magnitude_repr n)
  | negSucc n =>
    have h := Integer.minus (magnitude_repr (n + 1))
    have written : (toString (Int.negSucc n)).toList = '-' :: (n + 1).repr.toList :=
      String.toList_append
    rw [written]
    exact h

/-- An escaped text is the body of a string. -/
lemma stringBody_escapeString (cs : List Char) : StringBody (cs.flatMap escapeString) cs := by
  induction cs with
  | nil => exact .nil
  | cons c cs ih =>
    rw [List.flatMap_cons, escapeString]
    split
    · rename_i special
      exact .escaped special ih
    · rename_i plain
      exact .plain (fun quote => plain (.inl quote)) (fun backslash => plain (.inr backslash)) ih

/-- The written form of a canonical argument is a literal. -/
lemma literal_render {a : Argument} (canonical : a.Canonical) : Literal a.render a := by
  cases a with
  | integer value =>
    have least : value.toInt ≠ Int64.minValue.toInt := fun h => canonical (Int64.toInt_inj.1 h)
    have above := value.le_toInt
    have below := value.toInt_lt
    rw [Int64.toInt_minValue] at least
    exact .integer (integer_toString value.toInt) (by omega)
  | string value =>
    have h := Literal.string (stringBody_escapeString value.toList)
    rw [String.ofList_toList] at h
    exact h

/-- The written forms of canonical arguments, with a comma and a space between them, make a row. -/
lemma argumentRow_render {a : Argument} {args : List Argument}
    (canonical : ∀ b ∈ a :: args, b.Canonical) :
    ArgumentRow (renderArguments (a :: args)) (a :: args) := by
  have literal := literal_render (canonical a (by simp))
  induction args generalizing a with
  | nil => simpa [renderArguments] using ArgumentRow.last literal .nil
  | cons b args ih =>
    have row := ih (fun c mem => canonical c (List.mem_cons_of_mem a mem))
      (literal_render (canonical b (by simp)))
    simpa [renderArguments, List.intercalate] using ArgumentRow.more literal .nil .space row

/-- The written forms of canonical arguments make the arguments of a call. -/
lemma argumentList_render {args : List Argument} (canonical : ∀ a ∈ args, a.Canonical) :
    ArgumentList (renderArguments args) args := by
  cases args with
  | nil => exact .empty .nil
  | cons a args => exact .row .nil (argumentRow_render canonical)

/-! ## Elements -/

/-- The elements that the written form of a particle spells: the characters of a text, and any other
particle by itself. -/
def Particle.elements : Particle → List Element
  | .text value => value.toList.map .char
  | p => [.particle p]

/-- A particle that is no text is an element by itself. -/
lemma Particle.elements_of_plain {p : Particle} (plain : p.isText = false) :
    p.elements = [.particle p] := by
  cases p with
  | text value => cases plain
  | _ => rfl

/-- The written form of a text spells its characters, in front of any other elements. -/
lemma elements_escapeText (cs : List Char) {rest : List Char} {es : List Element}
    (h : Elements rest es) : Elements (cs.flatMap escapeText ++ rest) (cs.map .char ++ es) := by
  induction cs with
  | nil => exact h
  | cons c cs ih =>
    rw [List.flatMap_cons, List.append_assoc, List.map_cons, List.cons_append, escapeText]
    split
    · rename_i special
      rcases special with rfl | rfl
      · exact .escape .backslash ih
      · exact .escape .dollar ih
    · rename_i plain
      exact .literal (fun backslash => plain (.inl backslash))
        (fun dollar => absurd (.inr dollar) plain) ih

/-- The written form of a canonical particle spells its elements, in front of any others.

**Proof sketch.** One case for each kind of particle. A reference needs no blanks, and the digits of
a byte or a code point are as many as they may be. -/
lemma elements_render_append {p : Particle} (canonical : p.Canonical) {rest : List Char}
    {es : List Element} (h : Elements rest es) :
    Elements (p.render ++ rest) (p.elements ++ es) := by
  cases p with
  | text value => exact elements_escapeText value.toList h
  | byte value =>
    have escaped := Escape.byte rfl (numeral_encodeByte value)
    exact .escape escaped h
  | codepoint value =>
    obtain ⟨nonempty, six⟩ := length_lower_toNat value
    have escaped := Escape.braces nonempty six (numeral_lower value.toNat)
    simpa [Particle.render, Particle.elements] using Elements.escape escaped h
  | «variable» name =>
    have referred := Reference.bare .nil canonical .nil
    simpa [Particle.render, Particle.elements] using Elements.reference referred h
  | call name args =>
    obtain ⟨named, arguments⟩ := canonical
    have referred := Reference.call .nil named .nil (argumentList_render arguments) .nil
    simpa [Particle.render, Particle.elements] using Elements.reference referred h

/-- The written form of a template spells the elements of it. -/
lemma elements_render {ps : List Particle} (canonical : ∀ p ∈ ps, p.Canonical) :
    Elements (ps.flatMap Particle.render) (ps.flatMap Particle.elements) := by
  induction ps with
  | nil => exact .nil
  | cons p ps ih =>
    rw [List.flatMap_cons, List.flatMap_cons]
    exact elements_render_append (canonical p (by simp))
      (ih fun q mem => canonical q (by simp [mem]))

/-! ## Templates -/

/-- Behind a text of a canonical template no character comes first. -/
lemma Template.Canonical.head_elements {value : String} {ps : List Particle}
    (canonical : Template.Canonical ⟨.text value :: ps⟩) (c : Char) :
    (ps.flatMap Particle.elements).head? ≠ some (.char c) := by
  cases ps with
  | nil => simp
  | cons q ps =>
    have plain : q.isText = false := by
      simpa [Particle.isText] using (Template.canonical_cons_iff.1 canonical).2.1 q rfl
    simp [Particle.elements_of_plain plain]

/-- The elements of a canonical template give its particles.

**Proof sketch.** Induction on the particles. The characters of a text are a maximal run, since the
text is not empty and the particle behind it is no text. -/
lemma merged_elements {ps : List Particle} (canonical : Template.Canonical ⟨ps⟩) :
    Merged (ps.flatMap Particle.elements) ps := by
  induction ps with
  | nil => exact .nil
  | cons p ps ih =>
    have rest := ih (Template.canonical_cons_iff.1 canonical).2.2
    cases p with
    | text value =>
      have nonempty : value.toList ≠ [] := by
        simpa [Particle.Canonical] using canonical.1 (.text value) (by simp)
      have run := Merged.run nonempty canonical.head_elements rest
      rw [String.ofList_toList] at run
      exact run
    | _ => exact .particle rest

/-- A canonical template is read from its written form. -/
lemma Template.Canonical.parse_render {t : Template} (canonical : t.Canonical) :
    Template.parse t.render = .ok t := by
  have elements := elements_render canonical.1
  rw [← String.toList_ofList (l := t.particles.flatMap Particle.render)] at elements
  exact Template.parse_of_elements elements (merged_elements canonical)

/-- A template that is read is canonical. -/
lemma Template.canonical_of_parse {source : String} {t : Template}
    (h : Template.parse source = .ok t) : t.Canonical := by
  obtain ⟨es, elements, merged⟩ := Template.exists_of_parse h
  exact merged.canonical elements.canonical

/-- **Canonical templates**: these and no others are read from some source, and each of them is read
from its written form. -/
theorem Template.canonical_iff_and_parse_render :
    (∀ t : Template, t.Canonical ↔ ∃ source, Template.parse source = .ok t) ∧
      ∀ t : Template, t.Canonical → Template.parse t.render = .ok t :=
  ⟨fun t => ⟨fun canonical => ⟨t.render, canonical.parse_render⟩,
    fun ⟨_, read⟩ => Template.canonical_of_parse read⟩, fun _ canonical => canonical.parse_render⟩

/-- A text that looks like a reference is read back as a text. -/
theorem Template.parse_render_lookalike :
    Template.Canonical ⟨[.text "$\x7bx\x7d", .call "f" [.integer (-5)]]⟩ ∧
      Template.parse (Template.render ⟨[.text "$\x7bx\x7d", .call "f" [.integer (-5)]]⟩) =
        .ok ⟨[.text "$\x7bx\x7d", .call "f" [.integer (-5)]]⟩ := by
  have named : IsName "f" := ⟨'f', [], by decide, by decide, by simp⟩
  have canonical : Template.Canonical ⟨[.text "$\x7bx\x7d", .call "f" [.integer (-5)]]⟩ := by
    simp [Template.canonical_cons_iff, Template.canonical_nil, Particle.Canonical,
      Argument.Canonical, Particle.isText, named]
  exact ⟨canonical, Template.canonical_iff_and_parse_render.2 _ canonical⟩

end FrameConsole
