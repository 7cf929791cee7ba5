import FrameConsole.Proofs.Template.Elements
import FrameConsole.Proofs.Template.Merging

/-!
# Templates are what the grammar derives

A source is read as a template exactly if the grammar derives that template from it. So the template
of a source is unique, and it is canonical.

## Main results

* `FrameConsole.Template.parse_eq_ok_iff_derives` — reading and the grammar agree.
* `FrameConsole.Grammar.Elements.canonical` — the elements of a source make a canonical template.
* `FrameConsole.Template.exists_of_parse` — the elements behind a template that has been read.
-/

namespace FrameConsole

open Grammar

/-- A template that has been read is made of the elements of its source. -/
lemma Template.exists_of_parse {source : String} {t : Template}
    (h : Template.parse source = .ok t) :
    ∃ es, Elements source.toList es ∧ Merged es t.particles := by
  unfold Template.parse at h
  split at h
  · rename_i es read
    cases h
    exact ⟨es, readElements_eq_ok_iff.1 read, ofElements_eq_iff.1 rfl⟩
  · cases h

/-- The elements of a source and their particles make the template that is read. -/
lemma Template.parse_of_elements {source : String} {es : List Element} {ps : List Particle}
    (elements : Elements source.toList es) (merged : Merged es ps) :
    Template.parse source = .ok ⟨ps⟩ := by
  unfold Template.parse
  rw [readElements_eq_ok_iff.2 elements]
  simp only [ofElements_eq_iff.2 merged]

/-- **Reading and the grammar agree**: a source is read as a template exactly if the grammar derives
the template from it. -/
theorem Template.parse_eq_ok_iff_derives (source : String) (t : Template) :
    Template.parse source = .ok t ↔ Derives source.toList t :=
  ⟨Template.exists_of_parse,
    fun ⟨_, elements, merged⟩ => Template.parse_of_elements elements merged⟩

/-! ## Elements of a source -/

/-- An argument that a literal spells is not the least integer. -/
lemma Grammar.Literal.canonical {word : List Char} {a : Argument} (h : Literal word a) :
    a.Canonical := by
  cases h with
  | integer spelled range =>
    rintro rfl
    rw [Int64.toInt_minValue] at range
    omega
  | string => trivial

/-- The arguments of a row are not the least integer. -/
lemma Grammar.ArgumentRow.canonical {row : List Char} {args : List Argument}
    (h : ArgumentRow row args) : ∀ a ∈ args, a.Canonical := by
  induction h with
  | last literal => exact List.forall_mem_singleton.2 literal.canonical
  | more literal _ _ _ ih => exact List.forall_mem_cons.2 ⟨literal.canonical, ih⟩

/-- A reference has a name and arguments that a source spells, and is no text. -/
lemma Grammar.Reference.canonical {word : List Char} {p : Particle} (h : Reference word p) :
    (Element.particle p).Canonical := by
  cases h with
  | bare _ named _ => exact ⟨named, rfl⟩
  | call _ named _ arguments _ =>
    refine ⟨⟨named, ?_⟩, rfl⟩
    cases arguments with
    | empty => simp
    | row _ row => exact row.canonical

/-- An escape stands for a character, a byte or a code point. -/
lemma Grammar.Escape.canonical {word : List Char} {e : Element} (h : Escape word e) :
    e.Canonical := by
  cases h with
  | byte => exact ⟨trivial, rfl⟩
  | four => exact ⟨trivial, rfl⟩
  | braces => exact ⟨trivial, rfl⟩
  | _ => trivial

/-- The elements of a source make a canonical template. -/
lemma Grammar.Elements.canonical {source : List Char} {es : List Element}
    (h : Elements source es) : ∀ e ∈ es, e.Canonical := by
  induction h with
  | nil => simp
  | literal _ _ _ ih => exact List.forall_mem_cons.2 ⟨trivial, ih⟩
  | escape escaped _ ih => exact List.forall_mem_cons.2 ⟨escaped.canonical, ih⟩
  | reference referred _ ih => exact List.forall_mem_cons.2 ⟨referred.canonical, ih⟩

end FrameConsole
