import FrameConsole.Prompt
import FrameConsole.Proofs.Template.Merging

/-!
# The bytes of a source

The bytes that a source stands for in a scope: it is read, and the template is evaluated. Evaluation
goes through the particles one after another, so it does not matter where a text is cut in two.

## Main definitions

* `FrameConsole.Scope.evaluate` — the bytes of a source.

## Main results

* `FrameConsole.Prompt.evaluate_eq` — a prompt evaluates a source in the scope of its console.
* `FrameConsole.Prompt.runCommand_of_evaluate` — and runs commands with its bytes.
* `FrameConsole.Template.eval_join` — joined particles give the bytes of both parts.
-/

namespace FrameConsole

/-- The bytes of a source in a scope. -/
def Scope.evaluate (scope : Scope) (source : String) : Except ConsoleError Bytes :=
  match Template.parse source with
  | .error e => .error (.malformed e)
  | .ok template => (template.eval scope).mapError .evaluation

/-- A prompt with the usual reader evaluates a source in the scope of its console, and leaves the
console as it is. -/
lemma Prompt.evaluate_eq {α : Type} (registry : Registry α) (settings : Settings) (source : String)
    (s : Console α) :
    Prompt.evaluate { registry := registry, settings := settings } source s =
      (s.scope.evaluate source, s) := by
  simp only [Prompt.evaluate, Scope.evaluate]
  cases Template.parse source with
  | error e => rfl
  | ok template =>
    simp only
    cases template.eval s.scope <;> rfl

/-- A prompt with the usual reader runs a command that takes a template with the bytes of its source. -/
lemma Prompt.runCommand_of_evaluate {α : Type} {registry : Registry α} {settings : Settings}
    {name source : String} {command : Command α} {bytes : Bytes} {s : Console α}
    (found : registry.find? name = some command) (template : command.takesTemplate = true)
    (evaluated : s.scope.evaluate source = .ok bytes) :
    Prompt.runCommand { registry := registry, settings := settings } name source s =
      Prompt.perform command (.binary bytes) s := by
  simp only [Prompt.runCommand, found, template, if_true, Prompt.evaluate_eq, evaluated]

/-! ## Particles one after another -/

/-- Texts one after another give their bytes one after another. -/
lemma Utf8.encode_append (a b : String) : encode (a ++ b) = encode a ++ encode b := by
  simp [encode, encodeChars]

/-- No particles give no bytes. -/
lemma Template.eval_nil (scope : Scope) : Template.eval scope ⟨[]⟩ = pure [] :=
  rfl

/-- The first particle is evaluated first. -/
lemma Template.eval_cons (scope : Scope) (p : Particle) (ps : List Particle) :
    Template.eval scope ⟨p :: ps⟩ = do
      let first ← p.eval scope
      let others ← Template.eval scope ⟨ps⟩
      return first ++ others := by
  unfold Template.eval
  rw [List.mapM_cons]
  cases p.eval scope with
  | error e => rfl
  | ok first =>
    cases ps.mapM (Particle.eval scope) <;> rfl

/-- A particle by itself gives its own bytes. -/
lemma Template.eval_singleton (scope : Scope) (p : Particle) :
    Template.eval scope ⟨[p]⟩ = p.eval scope := by
  simp only [Template.eval_cons, Template.eval_nil, pure_bind, List.append_nil, bind_pure]

/-- Joined particles give the bytes of both parts, and the error of the first part where both fail.

**Proof sketch.** Induction on the first part. The texts that meet give the bytes of both texts, and
everything else is evaluated as it stands. -/
lemma Template.eval_join (scope : Scope) (ps qs : List Particle) :
    Template.eval scope ⟨Particle.join ps qs⟩ = do
      let first ← Template.eval scope ⟨ps⟩
      let second ← Template.eval scope ⟨qs⟩
      return first ++ second := by
  fun_induction Particle.join ps qs with
  | case1 qs => simp only [Template.eval_nil, pure_bind, List.nil_append, bind_pure]
  | case2 a b qs =>
    have text (c : String) : Particle.eval scope (.text c) = pure (Utf8.encode c) := rfl
    simp only [Template.eval_cons, text, Template.eval_nil, pure_bind, bind_assoc, Utf8.encode_append,
      List.append_assoc, List.nil_append]
  | case3 p ps qs _ ih =>
    simp only [Template.eval_cons, ih, bind_assoc, pure_bind, List.append_assoc]

end FrameConsole
