import FrameConsole.Proofs.Connection.Lines

/-!
# Conservation of frames

What happens to frames over whole runs, in which lines of the console and direct calls on the
connection follow one another in any order. All that hold the connection share its one session, so
a call does not say through whom it is made. A run keeps the history of the events that it makes,
and each event is made from the answer that was given.

## Main definitions

* `FrameConsole.Operation` — a line, a call of the connection, a drain, or something else.
* `FrameConsole.Trace`, `FrameConsole.Trace.step`, `FrameConsole.Trace.run` — a console with the
  history of its connection, and what operations do to it.

## Main results

* `FrameConsole.Trace.Sound.step`, `FrameConsole.Trace.Sound.run` — one operation and all of them
  keep the connection and its history together and the answers right.
* `FrameConsole.Trace.frames_conserved` — openings, frames and drains over every run.
-/

namespace FrameConsole

open Connection

variable {α : Type}

/-- What is done to a console and its connection. -/
inductive Operation where
  /-- A line is handed over. -/
  | line (entry : Entry) (text : String)
  /-- The connection is called directly. -/
  | call (call : Call)
  /-- The waiting frames are taken. -/
  | drain
  /-- Time passes and variables change. -/
  | elsewhere (now : Nat) (vars : Variables)

/-- A console with the history of its connection. -/
structure Trace (α : Type) where
  /-- The console. -/
  console : Console α
  /-- What has happened on the connection, the oldest event first. -/
  history : List Event

namespace Trace

/-- The trace that starts with a console on which no session is open. -/
def start (s : Console α) : Trace α :=
  ⟨{ s with connection := {} }, []⟩

/-- The trace after one operation. A line makes an event if it asks something of the connection. -/
def step (p : Prompt α) (t : Trace α) : Operation → Trace α
  | .line entry text =>
    match p.enter entry text t.console with
    | (answer, s) =>
      ⟨s, t.history ++ ((p.callOf? entry text t.console).map (·.event answer)).toList⟩
  | .call call =>
    match t.console.connection.serve call with
    | .ok c => ⟨{ t.console with connection := c }, t.history ++ [call.event (.ok ())]⟩
    | .error e => ⟨t.console, t.history ++ [call.event (.error (.command e))]⟩
  | .drain =>
    ⟨{ t.console with connection := t.console.connection.drain },
      t.history ++ [.drained t.console.connection.outbox]⟩
  | .elsewhere now vars => ⟨{ t.console with now := now, vars := vars }, t.history⟩

/-- The trace after some operations. -/
def run (p : Prompt α) (t : Trace α) (operations : List Operation) : Trace α :=
  operations.foldl (step p) t

/-! ## Soundness -/

/-- The connection holds what its history says, and all events of the history give the right
answers. -/
structure Sound (t : Trace α) : Prop where
  /-- The connection and its history are together. -/
  matching : t.console.connection.Matches t.history
  /-- The answers are right. -/
  justifies : Justifies t.history

/-- Without a session and a history all is well. -/
lemma Sound.start (s : Console α) : (start s).Sound :=
  ⟨Matches.nil, fun _ _ _ split => by simp [Trace.start] at split⟩

/-- An operation keeps the connection and its history together and the answers right.

**Proof sketch.** One case for each kind of operation. A line that asks nothing of the connection
leaves it as it is; any other line has the outcome of its call, and so makes the event that the
call makes directly. -/
lemma Sound.step {p : Prompt α} (standard : p.registry = .standard) {t : Trace α} (h : t.Sound)
    (operation : Operation) : (t.step p operation).Sound := by
  obtain ⟨matching, justifies⟩ := h
  cases operation with
  | line entry text =>
    have served := p.served_enter standard entry text t.console
    rcases out : p.enter entry text t.console with ⟨answer, s⟩
    simp only [Trace.step, out]
    rw [out] at served
    cases asked : p.callOf? entry text t.console with
    | none =>
      rw [asked] at served
      have same : s.connection = t.console.connection := served
      rw [← same] at matching
      rw [Option.map_none, Option.toList_none, List.append_nil]
      exact ⟨matching, justifies⟩
    | some call =>
      rw [asked, Served] at served
      have next := matching.serve call
      cases granted : t.console.connection.serve call with
      | ok c =>
        rw [granted] at served next
        obtain ⟨rfl, rfl⟩ : answer = .ok () ∧ s.connection = c := served
        exact ⟨next.1, justifies.concat next.2⟩
      | error e =>
        rw [granted] at served next
        obtain ⟨rfl, same⟩ : answer = .error (.command e) ∧ s.connection = t.console.connection :=
          served
        rw [← same] at next
        exact ⟨next.1, justifies.concat next.2⟩
  | call call =>
    have next := matching.serve call
    simp only [Trace.step]
    cases answer : t.console.connection.serve call with
    | ok c =>
      rw [answer] at next
      exact ⟨next.1, justifies.concat next.2⟩
    | error e =>
      rw [answer] at next
      exact ⟨next.1, justifies.concat next.2⟩
  | drain =>
    obtain ⟨next, justified⟩ := matching.drain
    exact ⟨next, justifies.concat justified⟩
  | elsewhere now vars => exact ⟨matching, justifies⟩

/-- All operations of a run keep the connection and its history together and the answers right. -/
lemma Sound.run {p : Prompt α} (standard : p.registry = .standard) {t : Trace α} (h : t.Sound)
    (operations : List Operation) : (t.run p operations).Sound := by
  induction operations generalizing t with
  | nil => exact h
  | cons operation operations ih => exact ih (h.step standard operation)

/-- **Conservation of frames**: over every run of the console from a state without a session, the
connection holds what its history says and each event gives the right answer. So a drain gives the
frames accepted since the last opening or drain; what was accepted before an opening, a closing or a
drain never comes up behind it; and a frame waits until a drain or a closing, in its place. -/
theorem frames_conserved (read : String → α → Except SyntaxError Template × α)
    (settings : Settings) (s : Console α) (operations : List Operation) :
    let t := (start s).run ⟨.standard, read, settings⟩ operations
    t.console.connection.url? = openUrl t.history ∧
      t.console.connection.outbox = pending t.history ∧
      (∀ past e future, t.history = past ++ e :: future → Justified past e) ∧
      (∀ past e between frames future, e.restarts ∨ e.removes →
        t.history = past ++ e :: between ++ .drained frames :: future →
          ∃ window, window <:+ between ∧ frames = accepted window) ∧
      (∀ past frame behind future, (∀ e ∈ behind, e.removes = false) →
        t.history = past ++ .accepted frame :: behind ++ future →
          pending (past ++ .accepted frame :: behind) =
            pending past ++ frame :: accepted behind) := by
  intro t
  obtain ⟨⟨url, outbox⟩, justifies⟩ : t.Sound := (Sound.start s).run rfl operations
  refine ⟨url, outbox, justifies, ?_, ?_⟩
  · intro past e between frames future cut split
    have drained : frames = pending (past ++ e :: between) := justifies _ _ _ split
    obtain ⟨window, behind, same⟩ := pending_of_cut past between cut
    exact ⟨window, behind, drained.trans same⟩
  · intro past frame behind future kept split
    have before : Justifies (past ++ .accepted frame :: behind) := by
      rw [split] at justifies
      exact justifies.of_append
    exact (before.pending_of_kept kept).2

/-- A frame that is sent behind a drain is all that the next drain gives. -/
theorem frames_conserved_drains :
    let read := fun (source : String) (extra : Unit) => (Template.parse source, extra)
    let operations : List Operation :=
      [.line .submit "/connect ws://a", .call (.send (.text "x")), .drain,
        .call (.send (.text "y")), .drain]
    let t := (start (Console.fresh 0 .empty ())).run ⟨.standard, read, {}⟩ operations
    t.history = [.opened "ws://a", .accepted (.text "x"), .drained [.text "x"],
        .accepted (.text "y"), .drained [.text "y"]] ∧
      ∃ window, window <:+ [.accepted (.text "y")] ∧ [.text "y"] = accepted window := by
  intro read operations t
  obtain ⟨-, -, -, cut, -⟩ :=
    frames_conserved read {} (Console.fresh 0 .empty ()) operations
  refine ⟨rfl, ?_⟩
  exact cut [.opened "ws://a", .accepted (.text "x")] (.drained [.text "x"])
    [.accepted (.text "y")] [.text "y"] [] (.inl rfl) rfl

end Trace

end FrameConsole
