import FrameConsole.Proofs.Commands.Standard
import FrameConsole.Proofs.Prompt.Dispatch
import FrameConsole.Proofs.Prompt.Entry

/-!
# Failed lines change nothing

A command is atomic if it leaves the variables alone and, where it refuses, everything else as well.
All standard commands are. A line that fails stops at the lookup of its command, at its template or
at the command itself, so with atomic commands it leaves the connection as it was, and nothing comes
to the transcript but its echo. No line changes the variables, whether it fails or not.

## Main definitions

* `FrameConsole.Command.Atomic` — a command that refuses leaves the console as it was.
* `FrameConsole.Console.Kept` — an outcome is that of a step that changes nothing where it fails.
* `FrameConsole.Settings.echo` — the lines that are logged before a command is run.

## Main results

* `FrameConsole.Registry.atomic_of_find?_standard` — the standard commands are atomic.
* `FrameConsole.Prompt.kept_runCommand` — atomic commands are run atomically.
* `FrameConsole.Prompt.enter_atomic` — failed lines leave no trace but their echo.
-/

namespace FrameConsole

variable {α : Type}

/-! ## Atomic commands -/

/-- A command leaves the variables as they are, and where it refuses it leaves the whole console as
it was. -/
structure Command.Atomic (command : Command α) : Prop where
  /-- The variables stay. -/
  vars (payload : Payload) (s : Console α) : (command.run payload s).2.vars = s.vars
  /-- A refusal changes nothing. -/
  refused (payload : Payload) (s : Console α) (e : CommandError) :
    (command.run payload s).1 = .error e → (command.run payload s).2 = s

/-- Opening a session is atomic: its parameter and the connection are checked first. -/
lemma Command.atomic_connect : (Command.connect : Command α).Atomic where
  vars payload s := by
    simp only [Command.connect]
    split
    · rfl
    · split_ifs
      · split <;> rfl
      · rfl
  refused payload s e := by
    simp only [Command.connect]
    split
    · intro _
      rfl
    · split_ifs
      · split
        · intro _
          rfl
        · rintro ⟨⟩
      · intro _
        rfl

/-- Closing the session never refuses. -/
lemma Command.atomic_disconnect : (Command.disconnect : Command α).Atomic where
  vars payload s := by
    simp only [Command.disconnect]
    split <;> rfl
  refused payload s e := by
    simp only [Command.disconnect]
    split <;> rintro ⟨⟩

/-- A command that sends a frame is atomic: the frame is logged once the connection has accepted
it. -/
lemma Command.atomic_of_transmit {command : Command α} {frame : Payload → Frame}
    {text : Payload → String}
    (sends : ∀ payload s, command.run payload s = transmit (frame payload) (text payload) s) :
    command.Atomic where
  vars payload s := by
    rw [sends, Command.transmit]
    split <;> rfl
  refused payload s e := by
    rw [sends, Command.transmit]
    split
    · intro _
      rfl
    · rintro ⟨⟩

/-- Listing the variables never refuses. -/
lemma Command.atomic_listVariables : (Command.listVariables : Command α).Atomic where
  vars payload s := by
    simp only [Command.listVariables]
    split_ifs <;> rfl
  refused payload s e := by
    simp only [Command.listVariables]
    split_ifs <;> rintro ⟨⟩

/-- The standard commands are atomic. -/
lemma Registry.atomic_of_find?_standard {name : String} {command : Command α}
    (found : (Registry.standard : Registry α).find? name = some command) : command.Atomic := by
  rw [Registry.find?_standard] at found
  split_ifs at found <;> obtain rfl := Option.some.inj found
  · exact Command.atomic_connect
  · exact Command.atomic_disconnect
  · exact Command.atomic_of_transmit fun _ _ => rfl
  · exact Command.atomic_of_transmit fun _ _ => rfl
  · exact Command.atomic_listVariables

/-! ## Running commands -/

/-- An outcome of a step that leaves the variables as they are, and where it fails the connection
and the transcript too. -/
structure Console.Kept {ε β : Type} (s : Console α) (out : Outcome α ε β) : Prop where
  /-- The variables stay. -/
  vars : out.2.vars = s.vars
  /-- A failure leaves the connection. -/
  connection (e : ε) : out.1 = .error e → out.2.connection = s.connection
  /-- A failure leaves the transcript. -/
  transcript (e : ε) : out.1 = .error e → out.2.transcript = s.transcript

/-- Running an atomic command keeps the console, also where the reader of templates has noted
something of its own before. -/
lemma Command.Atomic.kept {command : Command α} (atomic : command.Atomic) {payload : Payload}
    {s s' : Console α} {extra : α} {answer : Except CommandError Unit}
    (ran : command.run payload { s with extra := extra } = (answer, s')) :
    s.Kept (answer.mapError ConsoleError.command, s') := by
  have vars := atomic.vars payload { s with extra := extra }
  have refused := atomic.refused payload { s with extra := extra }
  rw [ran] at vars refused
  cases answer with
  | ok => exact ⟨vars, fun _ failed => (nomatch failed), fun _ failed => (nomatch failed)⟩
  | error e =>
    obtain rfl : s' = { s with extra := extra } := refused e rfl
    exact ⟨rfl, fun _ _ => rfl, fun _ _ => rfl⟩

/-- Where all commands are atomic, running one by its name keeps the console.

**Proof sketch.** One case for each way of dispatch. Whatever fails before the command is run
changes nothing but what the reader of templates notes. -/
lemma Prompt.kept_runCommand {p : Prompt α}
    (atomic : ∀ name command, p.registry.find? name = some command → command.Atomic)
    (name parameter : String) (s : Console α) : s.Kept (p.runCommand name parameter s) := by
  obtain ⟨done, dispatched⟩ := p.exists_dispatches name parameter s
  generalize p.runCommand name parameter s = out at dispatched
  cases dispatched with
  | unknown => exact ⟨rfl, fun _ _ => rfl, fun _ _ => rfl⟩
  | verbatim found plain ran => exact (atomic name _ found).kept ran
  | malformed => exact ⟨rfl, fun _ _ => rfl, fun _ _ => rfl⟩
  | failed => exact ⟨rfl, fun _ _ => rfl, fun _ _ => rfl⟩
  | evaluated found takes read gives ran => exact (atomic name _ found).kept ran

/-! ## Lines -/

/-- The lines that are logged before a line is run: the line itself, or the line made of it for the
default command, where the line is to be shown. -/
def Settings.echo (settings : Settings) : Entry → String → List Line
  | .run, _ => []
  | .silent, _ => []
  | .loud, line => [⟨.command, line⟩]
  | .submit, line =>
    [⟨.command, if settings.isCommand line then line else settings.defaultLine line⟩]

/-- Before a command is run, the echo of its line is all that is logged, and nothing else
changes. -/
lemma Settings.echoTo_of_invocation? {settings : Settings} {entry : Entry} {line : String}
    {i : Invocation} (invoked : settings.invocation? entry line = some i) (s : Console α) :
    i.echoTo s = { s with transcript := s.transcript ++ settings.echo entry line } := by
  cases entry with
  | run =>
    obtain rfl := Option.some.inj invoked
    simp [Invocation.ofCommand, Invocation.echoTo, Settings.echo]
  | silent =>
    obtain rfl := Option.some.inj invoked
    simp [Invocation.ofCommand, Invocation.echoTo, Settings.echo]
  | loud =>
    obtain rfl := Option.some.inj invoked
    rfl
  | submit =>
    rw [Settings.invocation?] at invoked
    split_ifs at invoked with blank command
    · obtain rfl := Option.some.inj invoked
      simp only [Settings.echo, if_pos command]
      rfl
    · obtain rfl := Option.some.inj invoked
      simp only [Settings.echo, if_neg command]
      rfl

/-- **Failed lines change nothing**: with the standard commands, whatever reads templates and
however lines are taken, a line never changes the variables. If it fails, the connection is as it
was before, and the transcript has the echo of the line and nothing else: no line at all for a
command that is run or run silently, one line for a line that is shown or comes from the user. -/
theorem Prompt.enter_atomic (read : String → α → Except SyntaxError Template × α)
    (settings : Settings) (entry : Entry) (line : String) (s : Console α) :
    let out := Prompt.enter ⟨.standard, read, settings⟩ entry line s
    out.2.vars = s.vars ∧
      ∀ e, out.1 = .error e →
        out.2.connection = s.connection ∧
          out.2.transcript = s.transcript ++ settings.echo entry line := by
  intro out
  simp only [out, Prompt.enter_eq]
  cases invoked : settings.invocation? entry line with
  | none => exact ⟨rfl, fun _ failed => nomatch failed⟩
  | some i =>
    have kept := Prompt.kept_runCommand (p := ⟨.standard, read, settings⟩)
      (fun _ _ => Registry.atomic_of_find?_standard) i.name i.parameter (i.echoTo s)
    rw [Settings.echoTo_of_invocation? invoked] at kept
    simp only [Settings.echoTo_of_invocation? invoked]
    exact ⟨kept.vars, fun e failed => ⟨kept.connection e failed, kept.transcript e failed⟩⟩

/-- A second session is refused while one is open: that one keeps its address and its frame, and the
transcript has the line of the user and nothing else. -/
theorem Prompt.enter_atomic_second_session :
    let s : Console Unit :=
      { Console.fresh 0 .empty () with connection := ⟨some ⟨"ws://a", [.text "x"]⟩⟩ }
    let out := Prompt.enter ⟨.standard, fun source extra => (Template.parse source, extra), {}⟩
      .submit "/connect ws://b" s
    out.1 = .error (.command (.alreadyConnected "ws://a")) ∧ out.2.connection = s.connection ∧
      out.2.transcript = [⟨.command, "/connect ws://b"⟩] := by
  intro s out
  have failed : out.1 = .error (.command (.alreadyConnected "ws://a")) := by rfl
  have atomic := Prompt.enter_atomic (fun source extra => (Template.parse source, extra)) {}
    .submit "/connect ws://b" s
  obtain ⟨connection, transcript⟩ := atomic.2 _ failed
  exact ⟨failed, connection, transcript⟩

end FrameConsole
