import FrameConsole.Proofs.Template.Grammar

/-!
# Merging characters into texts

How the particles of a template follow from its elements. Each maximal run of characters makes one
text, so that texts are never empty and never adjacent, and a sequence that is cut in two gives the
particles of its parts, with the texts at the cut joined.

## Main definitions

* `FrameConsole.Particle.join` — particles one after another, with the texts that meet joined.

## Main results

* `FrameConsole.ofElements_eq_iff` — the particles of a sequence of elements are those that the
  grammar gives it.
* `FrameConsole.Grammar.Merged.canonical` — they make a canonical template.
* `FrameConsole.Grammar.Merged.append` — sequences one after another give joined particles.
-/

namespace FrameConsole

open Grammar

/-! ## Runs of characters -/

/-- Characters join the run that is under way. -/
lemma ofElementsAfter_chars (run cs : List Char) (es : List Element) :
    Particle.ofElementsAfter run (cs.map .char ++ es) =
      Particle.ofElementsAfter (cs.reverse ++ run) es := by
  induction cs generalizing run with
  | nil => rfl
  | cons c cs ih =>
    rw [List.map_cons, List.cons_append, Particle.ofElementsAfter, ih]
    simp

/-- A run ends where no character follows it. -/
lemma ofElementsAfter_of_maximal {run : List Char} {es : List Element} (nonempty : run ≠ [])
    (maximal : ∀ c, es.head? ≠ some (.char c)) :
    Particle.ofElementsAfter run es =
      .text (String.ofList run.reverse) :: Particle.ofElements es := by
  have some : run.isEmpty = false := by simpa using nonempty
  match es with
  | [] => simp [Particle.ofElements, Particle.ofElementsAfter, textOf, some]
  | .char c :: es => exact absurd rfl (maximal c)
  | .particle p :: es => simp [Particle.ofElements, Particle.ofElementsAfter, textOf, some]

/-- The particles of a sequence of elements that follows a run of characters.

**Proof sketch.** Induction on the sequence. A character lengthens the run; a particle ends it, and
so does the end of the sequence. -/
lemma merged_ofElementsAfter (run : List Char) (es : List Element) :
    Merged (run.reverse.map .char ++ es) (Particle.ofElementsAfter run es) := by
  induction es generalizing run with
  | nil =>
    by_cases nonempty : run = []
    · subst nonempty
      exact .nil
    · rw [ofElementsAfter_of_maximal nonempty (by simp)]
      exact .run (by simpa using nonempty) (by simp) .nil
  | cons e es ih =>
    cases e with
    | char c => simpa [Particle.ofElementsAfter] using ih (c :: run)
    | particle p =>
      have rest : Merged (.particle p :: es) (Particle.ofElements (.particle p :: es)) :=
        .particle (ih [])
      by_cases nonempty : run = []
      · subst nonempty
        exact rest
      · rw [ofElementsAfter_of_maximal nonempty (by simp)]
        exact .run (by simpa using nonempty) (by simp) rest

/-- The particles of a sequence of elements are those that the grammar gives it. -/
lemma ofElements_eq_iff {es : List Element} {ps : List Particle} :
    Particle.ofElements es = ps ↔ Merged es ps := by
  constructor
  · rintro rfl
    exact merged_ofElementsAfter [] es
  · intro h
    induction h with
    | nil => rfl
    | particle _ ih => simpa [Particle.ofElements, Particle.ofElementsAfter, textOf] using ih
    | @run cs es ps nonempty maximal _ ih =>
      rw [Particle.ofElements, ofElementsAfter_chars,
        ofElementsAfter_of_maximal (by simpa using nonempty) maximal, ih]
      simp

/-! ## Canonical templates -/

/-- The template without particles is canonical. -/
lemma Template.canonical_nil : Template.Canonical ⟨[]⟩ :=
  ⟨by simp, by simp⟩

/-- A template is canonical if its first particle is one that a source spells, the one behind it is
not a text as well, and what follows the first particle is canonical. -/
lemma Template.canonical_cons_iff {p : Particle} {ps : List Particle} :
    Template.Canonical ⟨p :: ps⟩ ↔
      p.Canonical ∧ (∀ q, ps.head? = some q → ¬(p.isText ∧ q.isText)) ∧
        Template.Canonical ⟨ps⟩ := by
  constructor
  · rintro ⟨each, apart⟩
    refine ⟨each p (by simp), fun q head => ?_, fun q mem => each q (List.mem_cons_of_mem p mem), ?_⟩
    · obtain ⟨after, rfl⟩ := List.head?_eq_some_iff.1 head
      exact apart [] p q after rfl
    · rintro before a b after rfl
      exact apart (p :: before) a b after rfl
  · rintro ⟨hp, behind, each, apart⟩
    refine ⟨fun q mem => ?_, fun before a b after split => ?_⟩
    · rcases List.mem_cons.1 mem with rfl | mem
      · exact hp
      · exact each q mem
    · match before with
      | [] =>
        obtain ⟨rfl, rfl⟩ := List.cons.inj split
        exact behind b rfl
      | _ :: before => exact apart before a b after (List.cons.inj split).2

/-- An element that a source spells: no text stands on its own. -/
def Element.Canonical : Element → Prop
  | .char _ => True
  | .particle p => p.Canonical ∧ p.isText = false

/-- A text comes first only where a character does. -/
lemma Grammar.Merged.head_char {es : List Element} {p : Particle} {ps : List Particle}
    (h : Merged es ps) (canonical : ∀ e ∈ es, e.Canonical) (head : ps.head? = some p)
    (text : p.isText = true) : ∃ c, es.head? = some (.char c) := by
  cases h with
  | nil => cases head
  | particle =>
    cases head
    have plain : p.isText = false := (canonical (.particle p) (by simp)).2
    rw [text] at plain
    cases plain
  | run nonempty =>
    obtain ⟨c, cs, rfl⟩ := List.exists_cons_of_ne_nil nonempty
    exact ⟨c, rfl⟩

/-- The particles of elements that a source spells make a canonical template.

**Proof sketch.** Induction on the derivation. Of two neighbours the first one can only be a text
where it is a maximal run of characters, and then the second one is none. -/
lemma Grammar.Merged.canonical {es : List Element} {ps : List Particle} (h : Merged es ps)
    (canonical : ∀ e ∈ es, e.Canonical) : Template.Canonical ⟨ps⟩ := by
  induction h with
  | nil => exact Template.canonical_nil
  | @particle p es ps rest ih =>
    obtain ⟨hp, plain⟩ : p.Canonical ∧ p.isText = false := canonical (.particle p) (by simp)
    refine Template.canonical_cons_iff.2 ⟨hp, fun q _ => ?_, ih fun e mem => ?_⟩
    · simp [plain]
    · exact canonical e (by simp [mem])
  | @run cs es ps nonempty maximal rest ih =>
    have canonical' : ∀ e ∈ es, e.Canonical := fun e mem => canonical e (by simp [mem])
    refine Template.canonical_cons_iff.2 ⟨?_, ?_, ih canonical'⟩
    · simpa [Particle.Canonical] using nonempty
    · rintro q head ⟨-, text⟩
      obtain ⟨c, starts⟩ := rest.head_char canonical' head text
      exact maximal c starts

/-! ## Sequences one after another -/

/-- Particles one after another, where a text at the end of the first ones and a text at the start
of the others become one text. -/
def Particle.join : List Particle → List Particle → List Particle
  | [], qs => qs
  | [.text a], .text b :: qs => .text (a ++ b) :: qs
  | p :: ps, qs => p :: join ps qs

/-- A particle that is no text stays in front. -/
lemma Particle.join_cons_of_plain {p : Particle} (plain : p.isText = false)
    (ps qs : List Particle) : join (p :: ps) qs = p :: join ps qs := by
  rw [join]
  rintro a b qs' - rfl
  cases plain

/-- A particle that others follow stays in front. -/
lemma Particle.join_cons_of_ne_nil (p : Particle) {ps : List Particle} (nonempty : ps ≠ [])
    (qs : List Particle) : join (p :: ps) qs = p :: join ps qs := by
  obtain ⟨q, ps, rfl⟩ := List.exists_cons_of_ne_nil nonempty
  rw [join]
  simp

/-- A text at the end stays as it is where no text follows it. -/
lemma Particle.join_singleton_of_plain (a : String) {qs : List Particle}
    (plain : ∀ b qs', qs ≠ .text b :: qs') : join [.text a] qs = .text a :: qs := by
  rw [join]
  · rw [join]
  · rintro _ b qs' rfl - -
    exact plain b qs' rfl

/-- In front of a particle that is no text nothing is joined. -/
lemma Particle.join_cons_right_of_plain {q : Particle} (plain : q.isText = false)
    (ps qs : List Particle) : join ps (q :: qs) = ps ++ q :: qs := by
  induction ps with
  | nil => rfl
  | cons p ps ih =>
    cases ps with
    | nil =>
      cases p with
      | text a =>
        refine join_singleton_of_plain a fun b qs' starts => ?_
        rw [(List.cons.inj starts).1] at plain
        cases plain
      | _ => rfl
    | cons p' ps =>
      rw [join_cons_of_ne_nil p (List.cons_ne_nil p' ps), ih]
      rfl

/-- Only the empty sequence gives no particles. -/
lemma Grammar.Merged.eq_nil_iff {es : List Element} {ps : List Particle} (h : Merged es ps) :
    es = [] ↔ ps = [] := by
  cases h with
  | nil => simp
  | particle => simp
  | run nonempty => simp [nonempty]

/-- Sequences of elements one after another give their particles joined, where no text stands on
its own.

**Proof sketch.** Induction on the first derivation. What is at the end of the first sequence
decides: a particle of its own is followed by the other particles as they are, and a run of
characters goes on with the run at the start of the second sequence, if there is one. -/
lemma Grammar.Merged.append {es es' : List Element} {ps qs : List Particle} (h : Merged es ps)
    (h' : Merged es' qs) (canonical : ∀ e ∈ es, e.Canonical)
    (canonical' : ∀ e ∈ es', e.Canonical) : Merged (es ++ es') (Particle.join ps qs) := by
  induction h with
  | nil => exact h'
  | @particle p es ps rest ih =>
    have plain : p.isText = false := (canonical (.particle p) (by simp)).2
    rw [Particle.join_cons_of_plain plain]
    exact .particle (ih fun e mem => canonical e (by simp [mem]))
  | @run cs es ps nonempty maximal rest ih =>
    by_cases last : es = []
    · obtain rfl := rest.eq_nil_iff.1 last
      subst last
      rw [List.append_nil]
      cases h' with
      | nil =>
        rw [List.append_nil]
        simpa [Particle.join] using Merged.run nonempty (by simp) .nil
      | @particle q es' qs rest' =>
        have plain : q.isText = false := (canonical' (.particle q) (by simp)).2
        rw [Particle.join_singleton_of_plain]
        · exact .run nonempty (by simp) (.particle rest')
        · rintro b qs' starts
          rw [(List.cons.inj starts).1] at plain
          cases plain
      | @run cs' es' qs nonempty' maximal' rest' =>
        rw [Particle.join, ← String.ofList_append, ← List.append_assoc, ← List.map_append]
        exact .run (by simp [nonempty]) maximal' rest'
    · have followed : ps ≠ [] := fun empty => last (rest.eq_nil_iff.2 empty)
      rw [Particle.join_cons_of_ne_nil _ followed, List.append_assoc]
      refine .run nonempty (fun c head => ?_) (ih fun e mem => canonical e (by simp [mem]))
      obtain ⟨e, es, rfl⟩ := List.exists_cons_of_ne_nil last
      exact maximal c head

end FrameConsole
