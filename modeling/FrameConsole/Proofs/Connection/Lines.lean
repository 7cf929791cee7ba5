import FrameConsole.Proofs.Commands.Standard
import FrameConsole.Proofs.Connection.History
import FrameConsole.Proofs.Prompt.Entry

/-!
# What lines ask of the connection

A line with a standard command asks at most one thing of the connection, which depends on the
command and its parameter. The line succeeds if the connection grants that, and fails with the
refusal of the connection if not; either way the connection is left as the call leaves it.

## Main definitions

* `FrameConsole.Prompt.call?`, `FrameConsole.Prompt.callOf?` — what a command and a line ask.
* `FrameConsole.Served` — an outcome is the one that a call has.

## Main results

* `FrameConsole.Prompt.served_runCommand`, `FrameConsole.Prompt.served_enter` — commands and lines
  have the outcomes of their calls.
-/

namespace FrameConsole

open Connection

variable {α : Type}

/-- What the command of a name asks of the connection: nothing where its parameter is no address or
no template that can be evaluated. -/
def Prompt.call? (p : Prompt α) (name parameter : String) (s : Console α) : Option Call :=
  if name = "connect" then
    (firstWord? parameter).bind fun url => if isServerUrl url then some (.connect url) else none
  else if name = "disconnect" then some .close
  else if name = "send" ∨ name = "s" then
    (p.evaluate parameter s).1.toOption.map fun bytes => .send (.text (Utf8.decodeLossy bytes))
  else if name = "binary" ∨ name = "b" then
    (p.evaluate parameter s).1.toOption.map fun bytes => .send (.binary bytes)
  else none

/-- What a line asks of the connection. -/
def Prompt.callOf? (p : Prompt α) (entry : Entry) (line : String) (s : Console α) :
    Option Call :=
  (p.settings.invocation? entry line).bind fun i =>
    p.call? i.name i.parameter (i.echoTo s)

/-- An outcome is the one that a call has, if there is one: the connection that it leaves, and the
refusal where the connection refuses. -/
def Served (c : Connection) (out : Outcome α ConsoleError Unit) : Option Call → Prop
  | none => out.2.connection = c
  | some call =>
    match c.serve call with
    | .ok c' => out.1 = .ok () ∧ out.2.connection = c'
    | .error e => out.1 = .error (.command e) ∧ out.2.connection = c

/-! ## Commands -/

/-- Opening a session has the outcome of its call. -/
lemma served_connect (parameter : String) (s : Console α) :
    Served s.connection (Prompt.perform Command.connect (.text parameter) s)
      ((firstWord? parameter).bind fun url =>
        if isServerUrl url then some (.connect url) else none) := by
  simp only [Prompt.perform, Command.connect, Payload.toText]
  cases firstWord? parameter with
  | none => rfl
  | some url =>
    simp only [Option.bind_some]
    by_cases server : isServerUrl url
    · simp only [server, if_true, Served, Connection.serve]
      cases s.connection.connect url with
      | error e => exact ⟨rfl, rfl⟩
      | ok c => exact ⟨rfl, rfl⟩
    · simp [server, Served]

/-- Closing a session has the outcome of its call. -/
lemma served_disconnect (payload : Payload) (s : Console α) :
    Served s.connection (Prompt.perform Command.disconnect payload s) (some .close) := by
  rcases s with ⟨now, vars, ⟨_ | session⟩, transcript, extra⟩
  · exact ⟨rfl, rfl⟩
  · exact ⟨rfl, rfl⟩

/-- Sending a frame has the outcome of its call. -/
lemma served_transmit (frame : Frame) (text : String) (s : Console α) (command : Command α)
    (payload : Payload) (sends : command.run payload s = Command.transmit frame text s) :
    Served s.connection (Prompt.perform command payload s) (some (.send frame)) := by
  simp only [Prompt.perform, sends, Command.transmit, Served, Connection.serve]
  cases s.connection.send frame with
  | error e => exact ⟨rfl, rfl⟩
  | ok c => exact ⟨rfl, rfl⟩

/-- Listing the variables asks for nothing. -/
lemma served_listVariables (payload : Payload) (s : Console α) :
    Served s.connection (Prompt.perform Command.listVariables payload s) none := by
  simp only [Prompt.perform, Command.listVariables]
  split_ifs <;> rfl

/-- Evaluating a source leaves the connection as it is. -/
lemma Prompt.connection_evaluate (p : Prompt α) (source : String) (s : Console α) :
    (p.evaluate source s).2.connection = s.connection := by
  unfold Prompt.evaluate
  split
  · rfl
  · split <;> rfl

/-- A command that takes a template sends the frame that its bytes make, if there are any.

**Proof sketch.** A parameter that is no template, or one that cannot be evaluated, stops the
command before it asks for anything. -/
lemma served_template (p : Prompt α) (command : Command α) (frame : Bytes → Frame)
    (text : Bytes → String)
    (sends : ∀ bytes s,
      command.run (.binary bytes) s = Command.transmit (frame bytes) (text bytes) s)
    (parameter : String) (s : Console α) :
    Served s.connection
      (match p.evaluate parameter s with
      | (.error e, s) => (.error e, s)
      | (.ok bytes, s) => Prompt.perform command (.binary bytes) s)
      ((p.evaluate parameter s).1.toOption.map fun bytes => .send (frame bytes)) := by
  have same := p.connection_evaluate parameter s
  rcases h : p.evaluate parameter s with ⟨_ | bytes, s'⟩
  · rw [h] at same
    exact same
  · rw [h] at same
    have served := served_transmit (frame bytes) (text bytes) s' command (.binary bytes)
      (sends bytes s')
    rw [same] at served
    exact served

/-- A command of the standard registry has the outcome of its call. -/
lemma Prompt.served_runCommand (p : Prompt α) (standard : p.registry = .standard)
    (name parameter : String) (s : Console α) :
    Served s.connection (p.runCommand name parameter s) (p.call? name parameter s) := by
  rw [Prompt.runCommand, standard, Registry.find?_standard, Prompt.call?]
  split_ifs
  · exact served_connect parameter s
  · exact served_disconnect (.text parameter) s
  · exact served_template p .sendText _ _ (fun _ _ => rfl) parameter s
  · exact served_template p .sendBinary _ _ (fun _ _ => rfl) parameter s
  · exact served_listVariables (.text parameter) s
  · rfl

/-! ## Lines -/

/-- A line has the outcome of its call. -/
lemma Prompt.served_enter (p : Prompt α) (standard : p.registry = .standard) (entry : Entry)
    (line : String) (s : Console α) :
    Served s.connection (p.enter entry line s) (p.callOf? entry line s) := by
  rw [Prompt.enter_eq, Prompt.callOf?]
  cases p.settings.invocation? entry line with
  | none => rfl
  | some i =>
    rw [← i.connection_echoTo s]
    exact p.served_runCommand standard i.name i.parameter (i.echoTo s)

end FrameConsole
