import FrameConsole.Proofs.Evaluation.Source
import Mathlib.Data.List.Forall2

/-!
# What templates mean

The meaning of a template, said of its particles one by one and without an order of evaluation. By
itself a particle means some bytes or a failure, which depends on what its name is bound to. A
template means the bytes of all its particles where each of them means some, and otherwise the
failure of the leftmost particle that means none. Evaluation gives that meaning, for every template,
also for those that no source spells.

## Main definitions

* `FrameConsole.Particle.Means` — what a particle means by itself.

## Main results

* `FrameConsole.Particle.eval_eq_iff` — a particle evaluates to what it means.
* `FrameConsole.Template.eval_eq_ok_iff`, `FrameConsole.Template.eval_eq_error_iff` — when a template
  has bytes, and which failure it has if not.
* `FrameConsole.Template.eval_append` — particles one after another.
* `FrameConsole.Template.eval_iff_means` — the meaning of templates.
-/

namespace FrameConsole

/-! ## Particles -/

/-- The bytes of a text are its UTF-8 form. -/
lemma Utf8.encode_eq_toUTF8 (text : String) : encode text = text.toUTF8.data.toList := by
  rw [encode, encodeChars, String.toUTF8, ← String.utf8Encode_toList, List.utf8Encode,
    List.data_toByteArray]

/-- What a particle means by itself in a scope: some bytes, or a failure. -/
inductive Particle.Means (scope : Scope) : Particle → Except EvalError Bytes → Prop
  /-- A text means its UTF-8 form. -/
  | text (value : String) : Means scope (.text value) (.ok value.toUTF8.data.toList)
  /-- A byte means itself. -/
  | byte (value : UInt8) : Means scope (.byte value) (.ok [value])
  /-- A code point means the UTF-8 form of its character. -/
  | codepoint (value : Char) :
      Means scope (.codepoint value) (.ok (String.singleton value).toUTF8.data.toList)
  /-- A variable that is not bound is unknown. -/
  | unknownVariable {name : String} (unbound : scope.value? name = none) :
      Means scope (.variable name) (.error (.unknownVariable name))
  /-- A variable that holds a text means the UTF-8 form of that text. -/
  | textVariable {name value : String} (bound : scope.value? name = some (.text value)) :
      Means scope (.variable name) (.ok value.toUTF8.data.toList)
  /-- A variable that holds bytes means these bytes. -/
  | binaryVariable {name : String} {value : Bytes}
      (bound : scope.value? name = some (.binary value)) : Means scope (.variable name) (.ok value)
  /-- A function is no content of a variable. -/
  | functionVariable {name : String} {f : FunctionValue}
      (bound : scope.value? name = some (.function f)) :
      Means scope (.variable name) (.error (.invalidDataType name [.string, .binary]))
  /-- A call of a name that is not bound is unknown. -/
  | unknownCall {name : String} (args : List Argument) (unbound : scope.value? name = none) :
      Means scope (.call name args) (.error (.unknownInstruction name))
  /-- A text cannot be called. -/
  | textCall {name value : String} (args : List Argument)
      (bound : scope.value? name = some (.text value)) :
      Means scope (.call name args) (.error (.invalidDataType name [.function]))
  /-- Bytes cannot be called. -/
  | binaryCall {name : String} {value : Bytes} (args : List Argument)
      (bound : scope.value? name = some (.binary value)) :
      Means scope (.call name args) (.error (.invalidDataType name [.function]))
  /-- A function that refuses its arguments decides the failure. -/
  | refused {name : String} {args : List Argument} {f : FunctionValue} {cause : FunctionError}
      (bound : scope.value? name = some (.function f))
      (answer : f.body scope.now args = .error cause) :
      Means scope (.call name args) (.error (.function cause))
  /-- A function that gives a text means the UTF-8 form of that text. -/
  | textOutput {name value : String} {args : List Argument} {f : FunctionValue}
      (bound : scope.value? name = some (.function f))
      (answer : f.body scope.now args = .ok (.text value)) :
      Means scope (.call name args) (.ok value.toUTF8.data.toList)
  /-- A function that gives bytes means these bytes. -/
  | binaryOutput {name : String} {args : List Argument} {f : FunctionValue} {value : Bytes}
      (bound : scope.value? name = some (.function f))
      (answer : f.body scope.now args = .ok (.binary value)) :
      Means scope (.call name args) (.ok value)

/-- The content of a variable is what a reference to it means. -/
lemma Scope.means_content (scope : Scope) (name : String) :
    Particle.Means scope (.variable name) (scope.content name) := by
  cases bound : scope.value? name with
  | none =>
    simp only [Scope.content, bound]
    exact .unknownVariable bound
  | some value =>
    cases value with
    | text value =>
      simp only [Scope.content, bound, Utf8.encode_eq_toUTF8]
      exact .textVariable bound
    | binary value =>
      simp only [Scope.content, bound]
      exact .binaryVariable bound
    | function f =>
      simp only [Scope.content, bound]
      exact .functionVariable bound

/-- The bytes of what a function gives are what a call of it means. -/
lemma Scope.means_call (scope : Scope) (name : String) (args : List Argument) :
    Particle.Means scope (.call name args) ((scope.call name args).map Output.bytes) := by
  cases bound : scope.value? name with
  | none =>
    simp only [Scope.call, bound]
    exact .unknownCall args bound
  | some value =>
    cases value with
    | text value =>
      simp only [Scope.call, bound]
      exact .textCall args bound
    | binary value =>
      simp only [Scope.call, bound]
      exact .binaryCall args bound
    | function f =>
      cases answer : f.body scope.now args with
      | error cause =>
        simp only [Scope.call, bound, answer]
        exact .refused bound answer
      | ok output =>
        cases output with
        | text value =>
          simp only [Scope.call, bound, answer, Except.map, Output.bytes, Utf8.encode_eq_toUTF8]
          exact .textOutput bound answer
        | binary value =>
          simp only [Scope.call, bound, answer]
          exact .binaryOutput bound answer

/-- The UTF-8 form of a character by itself. -/
lemma Utf8.encodeChars_singleton (c : Char) :
    encodeChars [c] = (String.singleton c).toUTF8.data.toList := by
  rw [← encode_eq_toUTF8, encode, String.toList_singleton]

/-- What a particle evaluates to is what it means. -/
lemma Particle.means_eval (scope : Scope) (p : Particle) : p.Means scope (p.eval scope) := by
  cases p with
  | text value =>
    rw [Particle.eval, Utf8.encode_eq_toUTF8]
    exact .text value
  | byte value => exact .byte value
  | codepoint value =>
    rw [Particle.eval, Utf8.encodeChars_singleton]
    exact .codepoint value
  | «variable» name => exact scope.means_content name
  | call name args => exact scope.means_call name args

/-- What a particle means is what it evaluates to. -/
lemma Particle.Means.eval_eq {scope : Scope} {p : Particle} {r : Except EvalError Bytes}
    (h : p.Means scope r) : p.eval scope = r := by
  cases h with
  | text value => exact congrArg Except.ok (Utf8.encode_eq_toUTF8 value)
  | byte value => rfl
  | codepoint value => exact congrArg Except.ok (Utf8.encodeChars_singleton value)
  | unknownVariable unbound => simp only [Particle.eval, Scope.content, unbound]
  | textVariable bound =>
    simp only [Particle.eval, Scope.content, bound, Utf8.encode_eq_toUTF8]
  | binaryVariable bound => simp only [Particle.eval, Scope.content, bound]
  | functionVariable bound => simp only [Particle.eval, Scope.content, bound]
  | unknownCall args unbound => simp only [Particle.eval, Scope.call, unbound, Except.map]
  | textCall args bound => simp only [Particle.eval, Scope.call, bound, Except.map]
  | binaryCall args bound => simp only [Particle.eval, Scope.call, bound, Except.map]
  | refused bound answer => simp only [Particle.eval, Scope.call, bound, answer, Except.map]
  | textOutput bound answer =>
    simp only [Particle.eval, Scope.call, bound, answer, Except.map, Output.bytes,
      Utf8.encode_eq_toUTF8]
  | binaryOutput bound answer =>
    simp only [Particle.eval, Scope.call, bound, answer, Except.map, Output.bytes]

/-- A particle evaluates to what it means, and to nothing else. -/
lemma Particle.eval_eq_iff {scope : Scope} {p : Particle} {r : Except EvalError Bytes} :
    p.eval scope = r ↔ p.Means scope r := by
  constructor
  · rintro rfl
    exact p.means_eval scope
  · exact Particle.Means.eval_eq

/-! ## Templates -/

/-- Particles have bytes exactly if the first one and the others have some. -/
lemma Template.eval_cons_eq_ok_iff {scope : Scope} {p : Particle} {ps : List Particle}
    {bytes : Bytes} :
    Template.eval scope ⟨p :: ps⟩ = .ok bytes ↔
      ∃ part rest, p.eval scope = .ok part ∧ Template.eval scope ⟨ps⟩ = .ok rest ∧
        bytes = part ++ rest := by
  rw [Template.eval_cons]
  cases p.eval scope with
  | error e => simp [bind, Except.bind]
  | ok part =>
    cases Template.eval scope ⟨ps⟩ with
    | error e => simp [bind, Except.bind]
    | ok rest => simp [bind, Except.bind, pure, Except.pure, eq_comm]

/-- Particles fail exactly if the first one does, or if it has bytes and the others fail. -/
lemma Template.eval_cons_eq_error_iff {scope : Scope} {p : Particle} {ps : List Particle}
    {e : EvalError} :
    Template.eval scope ⟨p :: ps⟩ = .error e ↔
      p.eval scope = .error e ∨
        (∃ part, p.eval scope = .ok part) ∧ Template.eval scope ⟨ps⟩ = .error e := by
  rw [Template.eval_cons]
  cases p.eval scope with
  | error e => simp [bind, Except.bind]
  | ok part =>
    cases Template.eval scope ⟨ps⟩ with
    | error e => simp [bind, Except.bind]
    | ok rest => simp [bind, Except.bind, pure, Except.pure]

/-- A template has bytes exactly if each of its particles has some by itself, and then they follow
one another in order. -/
lemma Template.eval_eq_ok_iff {scope : Scope} {ps : List Particle} {bytes : Bytes} :
    Template.eval scope ⟨ps⟩ = .ok bytes ↔
      ∃ parts, List.Forall₂ (fun p part => p.eval scope = .ok part) ps parts ∧
        bytes = parts.flatten := by
  induction ps generalizing bytes with
  | nil => simp [Template.eval_nil, pure, Except.pure, List.forall₂_nil_left_iff, eq_comm]
  | cons p ps ih =>
    rw [Template.eval_cons_eq_ok_iff]
    constructor
    · rintro ⟨part, rest, first, others, rfl⟩
      obtain ⟨parts, each, rfl⟩ := ih.1 others
      exact ⟨part :: parts, .cons first each, rfl⟩
    · rintro ⟨_, each, rfl⟩
      obtain ⟨part, parts, first, others, rfl⟩ := List.forall₂_cons_left_iff.1 each
      exact ⟨part, parts.flatten, first, ih.2 ⟨parts, others, rfl⟩, rfl⟩

/-- A template fails exactly if one of its particles fails by itself and all those to its left have
bytes; that particle decides the failure. -/
lemma Template.eval_eq_error_iff {scope : Scope} {ps : List Particle} {e : EvalError} :
    Template.eval scope ⟨ps⟩ = .error e ↔
      ∃ before p after, ps = before ++ p :: after ∧
        (∀ q ∈ before, ∃ part, q.eval scope = .ok part) ∧ p.eval scope = .error e := by
  induction ps with
  | nil => simp [Template.eval_nil, pure, Except.pure]
  | cons p ps ih =>
    rw [Template.eval_cons_eq_error_iff, ih]
    constructor
    · rintro (fails | ⟨first, before, q, after, rfl, each, fails⟩)
      · exact ⟨[], p, ps, rfl, by simp, fails⟩
      · exact ⟨p :: before, q, after, rfl, List.forall_mem_cons.2 ⟨first, each⟩, fails⟩
    · rintro ⟨before, q, after, split, each, fails⟩
      cases before with
      | nil =>
        obtain ⟨rfl, rfl⟩ := List.cons.inj split
        exact .inl fails
      | cons p' before =>
        obtain ⟨rfl, rfl⟩ := List.cons.inj split
        obtain ⟨first, others⟩ := List.forall_mem_cons.1 each
        exact .inr ⟨first, before, q, after, rfl, others, fails⟩

/-- Particles one after another give the bytes of both parts, and the failure of the first part
where both fail. -/
lemma Template.eval_append (scope : Scope) (ps qs : List Particle) :
    Template.eval scope ⟨ps ++ qs⟩ = do
      let front ← Template.eval scope ⟨ps⟩
      let back ← Template.eval scope ⟨qs⟩
      return front ++ back := by
  induction ps with
  | nil => simp only [Template.eval_nil, List.nil_append, pure_bind, bind_pure]
  | cons p ps ih =>
    simp only [List.cons_append, Template.eval_cons, ih, bind_assoc, pure_bind, List.append_assoc]

/-- **The meaning of templates**: a particle evaluates to what it means by itself. A template has
bytes exactly if each of its particles means some, and then they are these bytes in order; otherwise
the leftmost particle that means none decides the failure. So templates one after another give the
bytes of both, and the failure of the first one where both fail. -/
theorem Template.eval_iff_means (scope : Scope) :
    (∀ (p : Particle) (r : Except EvalError Bytes), p.eval scope = r ↔ p.Means scope r) ∧
      (∀ (t : Template) (bytes : Bytes), t.eval scope = .ok bytes ↔
        ∃ parts, List.Forall₂ (fun p part => p.Means scope (.ok part)) t.particles parts ∧
          bytes = parts.flatten) ∧
      (∀ (t : Template) (e : EvalError), t.eval scope = .error e ↔
        ∃ before p after, t.particles = before ++ p :: after ∧
          (∀ q ∈ before, ∃ part, q.Means scope (.ok part)) ∧ p.Means scope (.error e)) ∧
      ∀ left right : List Particle, Template.eval scope ⟨left ++ right⟩ = do
        let front ← Template.eval scope ⟨left⟩
        let back ← Template.eval scope ⟨right⟩
        return front ++ back := by
  refine ⟨fun p r => Particle.eval_eq_iff, fun t bytes => ?_, fun t e => ?_,
    Template.eval_append scope⟩
  · simp only [← Particle.eval_eq_iff]
    exact Template.eval_eq_ok_iff
  · simp only [← Particle.eval_eq_iff]
    exact Template.eval_eq_error_iff

end FrameConsole
