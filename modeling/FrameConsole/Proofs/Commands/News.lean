import FrameConsole.Proofs.Commands.Atomic

/-!
# What commands report

A standard command does not look at the transcript, and what it adds there is news: neither the echo
of a line nor a failure. So it does the same in two consoles that differ in their transcripts only: it
gives the same answer, changes everything else in the same way, and adds the same lines. One of two
such consoles may log an echo before each command, and failures between them: without these, what the
two transcripts show stays the same.

## Main definitions

* `FrameConsole.Console.Reports` — an action that does not look at the transcript, but adds to it.
* `FrameConsole.Console.Beside` — two consoles that differ in lines of some tags only.

## Main results

* `FrameConsole.Registry.reports_of_find?_standard`, `FrameConsole.Prompt.reports_runCommand` —
  standard commands report, and so does running commands by their names.
* `FrameConsole.Console.Beside.of_reports` — an action that reports does the same in both consoles.
* `FrameConsole.Prompt.silent_refused` — a line that fails leaves the whole console as it was.
-/

namespace FrameConsole

variable {α ε β : Type}

/-! ## Actions that report -/

/-- In a console with any transcript, an action gives the same answer, changes everything else in the
same way, and adds the same lines, none of which is an echo or a failure. -/
def Console.ReportsIn (f : Console α → Outcome α ε β) (s : Console α) : Prop :=
  ∃ (answer : Except ε β) (after : Console α) (added : List Line),
    (∀ line ∈ added, line.tag ≠ .command ∧ line.tag ≠ .error) ∧
      ∀ before, f { s with transcript := before } =
        (answer, { after with transcript := before ++ added })

/-- An action does not look at the transcript and adds news to it. -/
def Console.Reports (f : Console α → Outcome α ε β) : Prop :=
  ∀ s, ReportsIn f s

/-- An action that adds nothing to the transcript. -/
lemma Console.ReportsIn.of_nothing {f : Console α → Outcome α ε β} {s : Console α}
    (answer : Except ε β) (after : Console α)
    (ran : ∀ before,
      f { s with transcript := before } = (answer, { after with transcript := before })) :
    ReportsIn f s := by
  refine ⟨answer, after, [], by simp, fun before => ?_⟩
  rw [ran, List.append_nil]

/-! ## Commands -/

/-- Opening a session reports it. -/
lemma Command.reports_connect (payload : Payload) :
    Console.Reports ((Command.connect : Command α).run payload) := by
  intro s
  cases word : firstWord? payload.toText with
  | none =>
    exact .of_nothing (.error (.missingArgument "connect" "a url")) s fun before => by
      simp only [Command.connect, word]
  | some url =>
    by_cases server : isServerUrl url
    · cases opened : s.connection.connect url with
      | error e =>
        exact .of_nothing (.error e) s fun before => by
          simp only [Command.connect, word, server, opened, if_true]
      | ok c =>
        refine ⟨.ok (), { s with connection := c }, [⟨.system, "Connecting to " ++ url⟩], by simp,
          fun before => ?_⟩
        simp only [Command.connect, word, server, opened, if_true]
        rfl
    · exact .of_nothing (.error (.invalidUrl url)) s fun before => by
        simp only [Command.connect, word, server, Bool.false_eq_true, if_false]

/-- Closing the session reports it, or that there is none. -/
lemma Command.reports_disconnect (payload : Payload) :
    Console.Reports ((Command.disconnect : Command α).run payload) := by
  intro s
  cases opened : s.connection.url? with
  | none =>
    refine ⟨.ok (), s, [⟨.warning, "No connection to disconnect"⟩], by simp, fun before => ?_⟩
    simp only [Command.disconnect, opened]
    rfl
  | some url =>
    refine ⟨.ok (), { s with connection := s.connection.close },
      [⟨.system, "Closing connection to " ++ url⟩], by simp, fun before => ?_⟩
    simp only [Command.disconnect, opened]
    rfl

/-- Sending a frame reports it once the connection has accepted it. -/
lemma Command.reports_transmit (frame : Frame) (text : String) :
    Console.Reports (Command.transmit frame text : Console α → Outcome α CommandError Unit) := by
  intro s
  cases sent : s.connection.send frame with
  | error e => exact .of_nothing (.error e) s fun before => by simp only [Command.transmit, sent]
  | ok c =>
    refine ⟨.ok (), { s with connection := c }, [⟨.sent, text⟩], by simp, fun before => ?_⟩
    simp only [Command.transmit, sent]
    rfl

/-- Listing the variables reports them. -/
lemma Command.reports_listVariables (payload : Payload) :
    Console.Reports ((Command.listVariables : Command α).run payload) := by
  intro s
  by_cases none : s.vars.bindings.isEmpty
  · refine ⟨.ok (), s, [⟨.system, "No variables defined"⟩], by simp, fun before => ?_⟩
    simp only [Command.listVariables, none, if_true]
    rfl
  · let texts := s.vars.bindings.entries.map fun entry => variableLine entry.1 entry.2
    refine ⟨.ok (), s, texts.map (Line.mk .system), ?_, fun before => ?_⟩
    · intro line mem
      obtain ⟨text, -, rfl⟩ := List.mem_map.1 mem
      simp
    · simp only [Command.listVariables, none, Bool.false_eq_true, if_false]
      rfl

/-- The standard commands report. -/
lemma Registry.reports_of_find?_standard {name : String} {command : Command α}
    (found : (Registry.standard : Registry α).find? name = some command) (payload : Payload) :
    Console.Reports (command.run payload) := by
  rw [Registry.find?_standard] at found
  split_ifs at found <;> obtain rfl := Option.some.inj found
  · exact Command.reports_connect payload
  · exact Command.reports_disconnect payload
  · exact Command.reports_transmit _ _
  · exact Command.reports_transmit _ _
  · exact Command.reports_listVariables payload

/-! ## Lines -/

/-- Where all commands report, running one by its name reports.

**Proof sketch.** One case for each way of dispatch. What decides between them is the registry, what the
reader of templates keeps, and the scope, and none of these is in the transcript. -/
lemma Prompt.reports_runCommand {p : Prompt α}
    (reports : ∀ name command, p.registry.find? name = some command →
      ∀ payload, Console.Reports (command.run payload))
    (name parameter : String) : Console.Reports (p.runCommand name parameter) := by
  intro s
  obtain ⟨done, dispatched⟩ := p.exists_dispatches name parameter s
  generalize p.runCommand name parameter s = out at dispatched
  cases dispatched with
  | unknown absent =>
    exact .of_nothing _ s fun before => (Dispatches.unknown absent).runCommand_eq
  | verbatim found plain ran =>
    obtain ⟨answer, after, added, news, ran'⟩ := reports name _ found (.text parameter) s
    exact ⟨_, after, added, news, fun before =>
      (Dispatches.verbatim found plain (ran' before)).runCommand_eq⟩
  | @malformed command e extra found takes read =>
    exact .of_nothing _ { s with extra := extra } fun before =>
      (Dispatches.malformed (s := { s with transcript := before }) found takes read).runCommand_eq
  | @failed command before' after q e extra found takes read left fails =>
    exact .of_nothing _ { s with extra := extra } fun before =>
      (Dispatches.failed (s := { s with transcript := before }) found takes read left
        fails).runCommand_eq
  | @evaluated command t bytes extra answer s' found takes read gives ran =>
    obtain ⟨answer, after, added, news, ran'⟩ :=
      reports name _ found (.binary bytes) { s with extra := extra }
    exact ⟨_, after, added, news, fun before =>
      (Dispatches.evaluated (s := { s with transcript := before }) found takes read gives
        (ran' before)).runCommand_eq⟩

/-- A line that is not shown is run by the name and the parameter behind its trigger. -/
lemma Prompt.silent_eq (p : Prompt α) (line : String) :
    p.silent line = p.runCommand (splitCommand (withoutTrigger line)).1
      (splitCommand (withoutTrigger line)).2 := by
  funext s
  rw [Prompt.silent, Prompt.run]

/-- With the standard commands, running a line reports. -/
lemma Prompt.reports_silent (settings : Settings) (line : String) :
    Console.Reports
      (Prompt.silent { registry := (.standard : Registry α), settings := settings } line) := by
  rw [Prompt.silent_eq]
  apply Prompt.reports_runCommand
  intro name command found
  exact Registry.reports_of_find?_standard found

/-- Running an atomic command leaves the console as it was if the command refuses. -/
lemma Prompt.perform_refused {command : Command α} (atomic : command.Atomic) {payload : Payload}
    {s : Console α} {e : ConsoleError} (failed : (Prompt.perform command payload s).1 = .error e) :
    (Prompt.perform command payload s).2 = s := by
  have refused := atomic.refused payload s
  rcases ran : command.run payload s with ⟨cause | _, s'⟩
  · rw [Prompt.perform_eq ran]
    rw [ran] at refused
    exact refused cause rfl
  · rw [Prompt.perform_eq ran] at failed
    cases failed

/-- With the standard commands, a line that fails leaves the whole console as it was.

**Proof sketch.** The usual reader keeps nothing, so looking a command up and evaluating its template
change nothing, and the command itself is atomic. -/
lemma Prompt.silent_refused {settings : Settings} {line : String} {s : Console α} {e : ConsoleError}
    (failed : (Prompt.silent { registry := .standard, settings := settings } line s).1 = .error e) :
    (Prompt.silent { registry := .standard, settings := settings } line s).2 = s := by
  revert failed
  rw [Prompt.silent_eq]
  generalize (splitCommand (withoutTrigger line)).1 = name
  generalize (splitCommand (withoutTrigger line)).2 = parameter
  unfold Prompt.runCommand
  cases found : (Registry.standard : Registry α).find? name with
  | none => exact fun _ => rfl
  | some command =>
    have atomic : command.Atomic := Registry.atomic_of_find?_standard found
    simp only
    split_ifs
    · rw [Prompt.evaluate_eq]
      cases s.scope.evaluate parameter with
      | error e => exact fun _ => rfl
      | ok bytes => exact Prompt.perform_refused atomic
    · exact Prompt.perform_refused atomic

/-! ## Consoles beside each other -/

/-- Two consoles are the same but for their transcripts. Without the lines of some tags, the second
transcript is the first one behind some lines in front. -/
structure Console.Beside (hidden : List Tag) (front : List Line) (s s' : Console α) : Prop where
  /-- Everything but the transcript is the same. -/
  rest : s' = { s with transcript := s'.transcript }
  /-- The lines that are not hidden are the same. -/
  shown : s'.transcript.filter (fun line => line.tag ∉ hidden) = front ++ s.transcript

namespace Console.Beside

variable {hidden : List Tag} {front : List Line} {s s' : Console α}

/-- A line under a hidden tag makes no difference. -/
lemma log_hidden (h : Beside hidden front s s') {tag : Tag} (mem : tag ∈ hidden) (text : String) :
    Beside hidden front s (s'.log tag text) := by
  refine ⟨?_, ?_⟩
  · rw [h.rest]
    rfl
  · show (s'.transcript ++ [Line.mk tag text]).filter _ = _
    rw [List.filter_append, h.shown]
    simp [mem]

/-- The same line under another tag keeps consoles beside each other. -/
lemma log (h : Beside hidden front s s') {tag : Tag} (shown : tag ∉ hidden) (text : String) :
    Beside hidden front (s.log tag text) (s'.log tag text) := by
  refine ⟨?_, ?_⟩
  · rw [h.rest]
    rfl
  · show (s'.transcript ++ [Line.mk tag text]).filter _ = front ++ (s.transcript ++ [.mk tag text])
    rw [List.filter_append, h.shown]
    simp [shown]

/-- The same time keeps consoles beside each other. -/
lemma at_time (h : Beside hidden front s s') (now : ℕ) :
    Beside hidden front { s with now := now } { s' with now := now } := by
  refine ⟨?_, h.shown⟩
  rw [h.rest]

/-- An action that reports gives the same answer in both consoles, and keeps them beside each other,
if nothing but echoes and failures is hidden. -/
lemma of_reports (h : Beside hidden front s s')
    (echoes : ∀ tag ∈ hidden, tag = .command ∨ tag = .error) {f : Console α → Outcome α ε β}
    (reports : Reports f) : (f s').1 = (f s).1 ∧ Beside hidden front (f s).2 (f s').2 := by
  obtain ⟨answer, after, added, news, ran⟩ := reports s
  have here : f s = (answer, { after with transcript := s.transcript ++ added }) := ran s.transcript
  have there : f s' = (answer, { after with transcript := s'.transcript ++ added }) := by
    rw [h.rest]
    exact ran s'.transcript
  have kept : added.filter (fun line => line.tag ∉ hidden) = added := by
    rw [List.filter_eq_self]
    intro line mem
    obtain ⟨echo, failure⟩ := news line mem
    refine decide_eq_true fun mem => ?_
    rcases echoes line.tag mem with same | same
    · exact echo same
    · exact failure same
  rw [here, there]
  refine ⟨rfl, rfl, ?_⟩
  rw [List.filter_append, h.shown, kept, List.append_assoc]

end Console.Beside

/-- An action that reports logs no echoes and no failures. -/
lemma Console.Reports.linesOf_eq {f : Console α → Outcome α ε β} (reports : Reports f)
    (s : Console α) {tag : Tag} (hidden : tag = .command ∨ tag = .error) :
    (f s).2.linesOf tag = s.linesOf tag := by
  obtain ⟨answer, after, added, news, ran⟩ := reports s
  have here : f s = (answer, { after with transcript := s.transcript ++ added }) := ran s.transcript
  have none : added.filter (fun line => line.tag = tag) = [] := by
    rw [List.filter_eq_nil_iff]
    intro line mem same
    obtain ⟨echo, failure⟩ := news line mem
    rcases hidden with rfl | rfl
    · exact echo (of_decide_eq_true same)
    · exact failure (of_decide_eq_true same)
  rw [here, Console.linesOf, List.filter_append, none, List.append_nil]
  rfl

end FrameConsole
