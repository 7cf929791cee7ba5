import FrameConsole.Proofs.Commands.Atomic
import FrameConsole.Proofs.Connection.Conservation
import FrameConsole.Proofs.Evaluation.Splice
import FrameConsole.Proofs.Text.HexPairs

/-!
# Sent lines

The lines of the transcript that tell of sent messages, against the frames that the connection
accepts. The two are kept in different places and changed one after the other, by commands that may
fail in between. Over every run of lines they agree: there is one such line for each accepted frame, in
the same order, and no other. The line of a text frame is its text. The line of a binary frame has its
size and its bytes in hexadecimal, so that the frame can be read off its line.

## Main definitions

* `FrameConsole.Frame.ShownAs` — a frame and its line.
* `FrameConsole.Connection.Accepts` — the frames that a connection accepts in a step.
* `FrameConsole.Console.Mirrors` — a step in which the lines logged show the frames accepted.
* `FrameConsole.Prompt.Runs` — a run of lines, with the frames accepted on the way.

## Main results

* `FrameConsole.Registry.mirrors_of_find?_standard` — the standard commands log what they send.
* `FrameConsole.Prompt.mirrors_enter` — so do lines.
* `FrameConsole.Prompt.Runs.logs` — so do runs of lines.
* `FrameConsole.Prompt.sentTexts_show_accepted` — sent lines and accepted frames over all runs.
-/

namespace FrameConsole

open Connection

variable {α : Type}

/-! ## Frames and their lines -/

/-- A frame and the text that is logged for it. -/
inductive Frame.ShownAs : Frame → String → Prop
  /-- A text is shown as it is. -/
  | text (value : String) : ShownAs (.text value) value
  /-- Bytes are shown by their number in decimal digits and by two lower-case hexadecimal digits for
  each of them. -/
  | binary {bytes : Bytes} {digits : String} (pairs : HexPairs digits.toList bytes) :
      ShownAs (.binary bytes) ("<" ++ toString bytes.length ++ "B> " ++ digits)

/-- The bytes that a line shows behind its first space. -/
def shownBytes (text : String) : Except Hex.Fault Bytes :=
  Hex.decode (Utf8.encodeChars ((text.toList.dropWhile (· ≠ ' ')).drop 1))

/-- The texts of those among some lines that tell of sent messages. -/
def sentTexts (lines : List Line) : List String :=
  (lines.filter fun line => line.tag = .sent).map Line.text

/-- The line that is logged for bytes shows them. -/
lemma shownAs_binaryLine (bytes : Bytes) : Frame.ShownAs (.binary bytes) (binaryLine bytes) := by
  apply Frame.ShownAs.binary
  rw [String.toList_ofList]
  exact hexPairs_encode bytes

/-- No space stands among decimal digits. -/
lemma space_notMem_toDigits (n : ℕ) : ' ' ∉ Nat.toDigits 10 n := by
  intro mem
  have digit := Nat.isDigit_of_mem_toDigits (by decide) (by decide) mem
  exact absurd digit (by decide)

/-- The bytes of a frame are read off its line. -/
lemma Frame.ShownAs.shownBytes_eq {bytes : Bytes} {text : String}
    (h : ShownAs (.binary bytes) text) : shownBytes text = .ok bytes := by
  cases h with
  | @binary bytes digits pairs =>
    set front := '<' :: (toString bytes.length).toList ++ ['B', '>'] with hfront
    have written : ("<" ++ toString bytes.length ++ "B> " ++ digits).toList =
        front ++ ' ' :: digits.toList := by
      simp [hfront]
    have other : ∀ c ∈ front, decide (c ≠ ' ') = true := by
      intro c mem
      refine decide_eq_true fun space => ?_
      subst space
      simp [hfront, space_notMem_toDigits] at mem
    have stop : StopsAt (· ≠ ' ') (' ' :: digits.toList) := by
      rintro c ⟨⟩
      decide
    rw [shownBytes, written, dropWhile_run other stop, List.drop_one, List.tail_cons]
    exact pairs.digitPairs.decode_eq

/-! ## Steps of a connection -/

/-- The frames that a connection takes when it grants a call. -/
def Connection.Call.frames : Call → List Frame
  | .send frame => [frame]
  | _ => []

/-- A connection goes from one state to another, and accepts some frames thereby: it stays as it is,
or it grants a call. -/
inductive Connection.Accepts : Connection → List Frame → Connection → Prop
  /-- Nothing happens. -/
  | nothing (c : Connection) : Accepts c [] c
  /-- A call is granted. -/
  | granted {c c' : Connection} (call : Call) (grants : c.serve call = .ok c') :
      Accepts c call.frames c'

/-- The frames that a connection accepts are those that wait behind the ones that waited before.

**Proof sketch.** Where a session is opened or closed, none wait afterwards. -/
lemma Connection.Accepts.frames_eq {c c' : Connection} {frames : List Frame}
    (h : c.Accepts frames c') : frames = c'.outbox.drop c.outbox.length := by
  cases h with
  | nothing => simp
  | granted call grants =>
    rcases c with ⟨_ | ⟨url, waiting⟩⟩ <;> cases call <;> cases grants <;>
      simp [Call.frames, Connection.outbox, Connection.close]

/-- A console goes to another one, and the lines logged on the way that tell of sent messages show
the frames that the connection accepts, one for each and in order. -/
structure Console.Mirrors (s : Console α) (frames : List Frame) (s' : Console α) : Prop where
  /-- The connection accepts the frames. -/
  accepts : s.connection.Accepts frames s'.connection
  /-- The lines logged show them. -/
  logs : ∃ lines, s'.transcript = s.transcript ++ lines ∧
    List.Forall₂ Frame.ShownAs frames (sentTexts lines)

/-- A step that does nothing to the connection and logs nothing about sent messages. -/
lemma Console.Mirrors.of_silent {s s' : Console α} (connection : s'.connection = s.connection)
    {lines : List Line} (logged : s'.transcript = s.transcript ++ lines)
    (silent : ∀ line ∈ lines, line.tag ≠ .sent) : s.Mirrors [] s' := by
  refine ⟨?_, lines, logged, ?_⟩
  · rw [connection]
    exact .nothing _
  · have none : sentTexts lines = [] := by
      simpa [sentTexts, List.filter_eq_nil_iff] using silent
    rw [none]
    exact .nil

/-- A step that changes neither the connection nor the transcript. -/
lemma Console.Mirrors.of_unchanged {s s' : Console α} (connection : s'.connection = s.connection)
    (transcript : s'.transcript = s.transcript) : s.Mirrors [] s' :=
  .of_silent connection (transcript.trans (List.append_nil _).symm) (by simp)

/-! ## Commands -/

/-- A command that logs each frame it sends, and nothing else about sent messages. -/
def Command.Mirrors (command : Command α) : Prop :=
  ∀ payload (s : Console α), ∃ frames, s.Mirrors frames (command.run payload s).2

/-- Opening a session sends nothing. -/
lemma Command.mirrors_connect : (Command.connect : Command α).Mirrors := by
  intro payload s
  have refused : s.Mirrors [] s := .of_unchanged rfl rfl
  simp only [Command.connect]
  cases firstWord? payload.toText with
  | none => exact ⟨[], refused⟩
  | some url =>
    simp only
    split_ifs
    · cases opened : s.connection.connect url with
      | error e => exact ⟨[], refused⟩
      | ok c => exact ⟨[], .granted (.connect url) opened, _, rfl, .nil⟩
    · exact ⟨[], refused⟩

/-- Closing the session sends nothing. -/
lemma Command.mirrors_disconnect : (Command.disconnect : Command α).Mirrors := by
  intro payload s
  simp only [Command.disconnect]
  cases s.connection.url? with
  | none => exact ⟨[], .of_silent rfl rfl (by simp)⟩
  | some url => exact ⟨[], .granted .close rfl, _, rfl, .nil⟩

/-- Sending a frame and logging a text that shows it. -/
lemma Command.mirrors_of_transmit {command : Command α} {frame : Payload → Frame}
    {text : Payload → String} (shown : ∀ payload, (frame payload).ShownAs (text payload))
    (sends : ∀ payload s, command.run payload s = transmit (frame payload) (text payload) s) :
    command.Mirrors := by
  intro payload s
  rw [sends, Command.transmit]
  cases sent : s.connection.send (frame payload) with
  | error e => exact ⟨[], .of_unchanged rfl rfl⟩
  | ok c =>
    exact ⟨[frame payload], .granted (.send (frame payload)) sent, _, rfl,
      .cons (shown payload) .nil⟩

/-- Listing the variables sends nothing. -/
lemma Command.mirrors_listVariables : (Command.listVariables : Command α).Mirrors := by
  intro payload s
  simp only [Command.listVariables]
  split_ifs
  · exact ⟨[], .of_silent rfl rfl (by simp)⟩
  · refine ⟨[], .of_silent rfl rfl ?_⟩
    intro line mem
    obtain ⟨text, -, rfl⟩ := List.mem_map.1 mem
    simp

/-- The standard commands log each frame they send. -/
lemma Registry.mirrors_of_find?_standard {name : String} {command : Command α}
    (found : (Registry.standard : Registry α).find? name = some command) : command.Mirrors := by
  rw [Registry.find?_standard] at found
  split_ifs at found <;> obtain rfl := Option.some.inj found
  · exact Command.mirrors_connect
  · exact Command.mirrors_disconnect
  · exact Command.mirrors_of_transmit (fun _ => .text _) fun _ _ => rfl
  · exact Command.mirrors_of_transmit (fun _ => shownAs_binaryLine _) fun _ _ => rfl
  · exact Command.mirrors_listVariables

/-! ## Lines -/

/-- Where all commands log each frame they send, running one by its name does so.

**Proof sketch.** One case for each way of dispatch. Reading a template changes nothing but what the
reader notes. -/
lemma Prompt.mirrors_runCommand {p : Prompt α}
    (mirrors : ∀ name command, p.registry.find? name = some command → command.Mirrors)
    (name parameter : String) (s : Console α) :
    ∃ frames, s.Mirrors frames (p.runCommand name parameter s).2 := by
  obtain ⟨done, dispatched⟩ := p.exists_dispatches name parameter s
  generalize p.runCommand name parameter s = out at dispatched
  cases dispatched with
  | unknown => exact ⟨[], .of_unchanged rfl rfl⟩
  | verbatim found plain ran =>
    have mirrored := mirrors name _ found (.text parameter) s
    rwa [ran] at mirrored
  | malformed => exact ⟨[], .of_unchanged rfl rfl⟩
  | failed => exact ⟨[], .of_unchanged rfl rfl⟩
  | @evaluated command t bytes extra answer s' found takes read gives ran =>
    obtain ⟨frames, accepts, logs⟩ := mirrors name _ found (.binary bytes) { s with extra := extra }
    rw [ran] at accepts logs
    exact ⟨frames, accepts, logs⟩

/-- An echo tells of no sent message. -/
lemma Console.Mirrors.of_echo {i : Invocation} {s s' : Console α} {frames : List Frame}
    (h : (i.echoTo s).Mirrors frames s') : s.Mirrors frames s' := by
  obtain ⟨accepts, lines, logged, shown⟩ := h
  rw [i.connection_echoTo] at accepts
  unfold Invocation.echoTo at logged
  cases echo : i.echo with
  | none =>
    rw [echo] at logged
    exact ⟨accepts, lines, logged, shown⟩
  | some line =>
    rw [echo] at logged
    refine ⟨accepts, ⟨.command, line⟩ :: lines, ?_, shown⟩
    simpa [Console.log, Console.logAll] using logged

/-- A line logs each frame that it sends. -/
lemma Prompt.mirrors_enter {p : Prompt α}
    (mirrors : ∀ name command, p.registry.find? name = some command → command.Mirrors)
    (entry : Entry) (line : String) (s : Console α) :
    ∃ frames, s.Mirrors frames (p.enter entry line s).2 := by
  rw [Prompt.enter_eq]
  cases p.settings.invocation? entry line with
  | none => exact ⟨[], .of_unchanged rfl rfl⟩
  | some i =>
    obtain ⟨frames, mirrored⟩ := p.mirrors_runCommand mirrors i.name i.parameter (i.echoTo s)
    exact ⟨frames, mirrored.of_echo⟩

/-! ## Runs -/

/-- A run of lines from one console to another, with all frames that the connection accepts on the
way. Between two lines the waiting frames may be taken, time may pass and variables may change. -/
inductive Prompt.Runs (p : Prompt α) :
    Console α → List Operation → List Frame → Console α → Prop
  /-- No lines. -/
  | nil (s : Console α) : Runs p s [] [] s
  /-- A line, and those behind it. -/
  | line {s s' s'' : Console α} {entry : Entry} {text : String} {answer : Except ConsoleError Unit}
      {operations : List Operation} {frames frames' : List Frame}
      (taken : p.enter entry text s = (answer, s'))
      (accepts : s.connection.Accepts frames s'.connection)
      (rest : Runs p s' operations frames' s'') :
      Runs p s (.line entry text :: operations) (frames ++ frames') s''
  /-- The waiting frames are taken. -/
  | drain {s s' : Console α} {operations : List Operation} {frames : List Frame}
      (rest : Runs p { s with connection := s.connection.drain } operations frames s') :
      Runs p s (.drain :: operations) frames s'
  /-- Time passes and variables change. -/
  | elsewhere {s s' : Console α} {now : Nat} {vars : Variables} {operations : List Operation}
      {frames : List Frame} (rest : Runs p { s with now := now, vars := vars } operations frames s') :
      Runs p s (.elsewhere now vars :: operations) frames s'

/-- Lines can be run, whatever they are.

**Proof sketch.** Induction on the operations. Each line takes the connection through one step. -/
lemma Prompt.exists_runs {p : Prompt α}
    (mirrors : ∀ name command, p.registry.find? name = some command → command.Mirrors)
    {operations : List Operation} (lines : ∀ call, .call call ∉ operations) (s : Console α) :
    ∃ frames s', p.Runs s operations frames s' := by
  induction operations generalizing s with
  | nil => exact ⟨[], s, .nil s⟩
  | cons operation operations ih =>
    have ih := ih fun call mem => lines call (List.mem_cons_of_mem _ mem)
    cases operation with
    | line entry text =>
      obtain ⟨frames, accepts, -⟩ := p.mirrors_enter mirrors entry text s
      obtain ⟨frames', s', rest⟩ := ih (p.enter entry text s).2
      exact ⟨frames ++ frames', s', .line rfl accepts rest⟩
    | call call => exact absurd List.mem_cons_self (lines call)
    | drain =>
      obtain ⟨frames, s', rest⟩ := ih { s with connection := s.connection.drain }
      exact ⟨frames, s', .drain rest⟩
    | elsewhere now vars =>
      obtain ⟨frames, s', rest⟩ := ih { s with now := now, vars := vars }
      exact ⟨frames, s', .elsewhere rest⟩

/-- Texts of sent messages of lines one after another. -/
lemma sentTexts_append (lines lines' : List Line) :
    sentTexts (lines ++ lines') = sentTexts lines ++ sentTexts lines' := by
  simp [sentTexts]

/-- Over a run, the lines logged that tell of sent messages show the accepted frames.

**Proof sketch.** Induction on the run. The frames that a line makes the connection accept are those
that its own lines show, since the states before and behind it determine them. -/
lemma Prompt.Runs.logs {p : Prompt α}
    (mirrors : ∀ name command, p.registry.find? name = some command → command.Mirrors)
    {s s' : Console α} {operations : List Operation} {frames : List Frame}
    (h : p.Runs s operations frames s') :
    ∃ lines, s'.transcript = s.transcript ++ lines ∧
      List.Forall₂ Frame.ShownAs frames (sentTexts lines) := by
  induction h with
  | nil s => exact ⟨[], (List.append_nil _).symm, .nil⟩
  | @line s s' s'' entry text answer operations frames frames' taken accepts _ ih =>
    obtain ⟨others, logged', shown'⟩ := ih
    obtain ⟨sent, accepts', lines, logged, shown⟩ := p.mirrors_enter mirrors entry text s
    rw [taken] at accepts' logged
    obtain rfl : frames = sent := accepts.frames_eq.trans accepts'.frames_eq.symm
    refine ⟨lines ++ others, ?_, ?_⟩
    · rw [logged', logged, List.append_assoc]
    · rw [sentTexts_append]
      exact List.rel_append shown shown'
  | drain _ ih => exact ih
  | elsewhere _ ih => exact ih

/-- **Sent lines**: with the standard commands, whatever reads templates and however lines are taken,
every run of lines can be made from any console, and over it the lines logged that tell of sent
messages are in order those of the frames that the connection accepts: one line for each frame and
one frame for each line. The bytes of a binary frame are read off its line. -/
theorem Prompt.sentTexts_show_accepted (read : String → α → Except SyntaxError Template × α)
    (settings : Settings) (s : Console α) (operations : List Operation)
    (lines : ∀ call, .call call ∉ operations) :
    (∃ frames s', Prompt.Runs ⟨.standard, read, settings⟩ s operations frames s') ∧
      (∀ frames s', Prompt.Runs ⟨.standard, read, settings⟩ s operations frames s' →
        ∃ lines, s'.transcript = s.transcript ++ lines ∧
          List.Forall₂ Frame.ShownAs frames (sentTexts lines)) ∧
      ∀ bytes text, Frame.ShownAs (.binary bytes) text → shownBytes text = .ok bytes := by
  have mirrors : ∀ name command,
      (Registry.standard : Registry α).find? name = some command → command.Mirrors :=
    fun _ _ => Registry.mirrors_of_find?_standard
  refine ⟨Prompt.exists_runs mirrors lines s, ?_, fun bytes text => Frame.ShownAs.shownBytes_eq⟩
  intro frames s' run
  exact run.logs mirrors

/-- A message for which no session is open has no line and is no frame, and bytes have both. -/
theorem Prompt.sentTexts_show_accepted_bytes :
    let operations : List Operation :=
      [.line .submit "lost", .line .silent "/connect ws://a", .line .silent "/b \\xff\\x00"]
    let p : Prompt Unit := { registry := .standard }
    let s : Console Unit := Console.fresh 0 .empty ()
    (∀ call, .call call ∉ operations) ∧
      ∃ s', p.Runs s operations [.binary [0xff, 0x00]] s' ∧
        s'.linesOf .sent = ["<2B> ff00"] ∧ shownBytes "<2B> ff00" = .ok [0xff, 0x00] ∧
        ∃ lines, s'.transcript = s.transcript ++ lines ∧
          List.Forall₂ Frame.ShownAs [.binary [0xff, 0x00]] (sentTexts lines) := by
  intro operations p s
  have lines : ∀ call, .call call ∉ operations := by simp [operations]
  have unsent : p.settings.invocation? .submit "lost" = some ⟨"send", "lost", some "/send lost"⟩ := by
    decide
  have lost : p.enter .submit "lost" s =
      (.error (.command .notConnected), s.log .command "/send lost") := by
    have evaluated := (s.log .command "/send lost").scope.evaluate_escapedText "lost"
    rw [Prompt.enter_eq, unsent]
    exact (Prompt.runCommand_of_evaluate rfl rfl evaluated).trans rfl
  have connected : p.enter .silent "/connect ws://a" (s.log .command "/send lost") =
      (.ok (), ⟨0, .empty, ⟨some ⟨"ws://a", []⟩⟩,
        [⟨.command, "/send lost"⟩, ⟨.system, "Connecting to ws://a"⟩], ()⟩) := by rfl
  have sent : p.enter .silent "/b \\xff\\x00" ⟨0, .empty, ⟨some ⟨"ws://a", []⟩⟩,
        [⟨.command, "/send lost"⟩, ⟨.system, "Connecting to ws://a"⟩], ()⟩ =
      (.ok (), ⟨0, .empty, ⟨some ⟨"ws://a", [.binary [0xff, 0x00]]⟩⟩,
        [⟨.command, "/send lost"⟩, ⟨.system, "Connecting to ws://a"⟩, ⟨.sent, "<2B> ff00"⟩],
        ()⟩) := by
    have named : p.settings.invocation? .silent "/b \\xff\\x00" =
        some ⟨"b", "\\xff\\x00", none⟩ := by decide
    have written : "\\xff\\x00".toList =
        [0xff, 0x00].flatMap fun b => Particle.render (.byte b) := by decide
    have spelled := byteEscapes_render [0xff, 0x00]
    rw [← written] at spelled
    rw [Prompt.enter_eq, named]
    exact (Prompt.runCommand_of_evaluate rfl rfl (Scope.evaluate_byteEscapes _ spelled)).trans rfl
  have run := Prompt.Runs.line lost (.nothing _) <|
    .line connected (.granted (.connect "ws://a") rfl) <|
    .line sent (.granted (.send (.binary [0xff, 0x00])) rfl) (.nil _)
  obtain ⟨-, shows, readOff⟩ := Prompt.sentTexts_show_accepted p.read {} s operations lines
  refine ⟨lines, _, run, by decide, ?_, shows _ _ run⟩
  exact readOff _ _ (shownAs_binaryLine [0xff, 0x00])

end FrameConsole
