import FrameConsole.Program
import FrameConsole.Proofs.Commands.News
import FrameConsole.Proofs.Commands.Payload

/-!
# Lines given and lines typed

The program runs lines in two ways. Lines among its options are run silently, up to the first one that
fails. Lines of its input are echoed, a failure is logged, and the next line is taken. For lines that
name commands, and that are run at the same times, the two go hand in hand: up to the first failure the
connection is the same after each line, and so is what is printed, apart from the opening banner and the
echoes. A line that fails leaves nothing behind in the first way, and its echo and its failure in the
second.

## Main definitions

* `FrameConsole.Settings.IsCommandLine` — a line that is not blank and names a command.

## Main results

* `FrameConsole.Program.beside_takeLine`, `FrameConsole.Program.takeLine_refused` — one line in both
  ways.
* `FrameConsole.Program.beside_takeLines` — lines in both ways, until one of them fails.
* `FrameConsole.Program.inputLines_joined` — the lines of an input.
* `FrameConsole.Program.runLines_agrees_takeLines` — lines among the options and lines of the input.
-/

namespace FrameConsole

open Console

/-- A line that is not blank and starts with the trigger. -/
structure Settings.IsCommandLine (settings : Settings) (line : String) : Prop where
  /-- The line has a character that is not blank. -/
  visible : isBlankLine line = false
  /-- The line starts with the trigger. -/
  command : settings.isCommand line = true

/-- Logging a line adds it to the lines of its tag and to no others. -/
lemma Console.linesOf_log {α : Type} (s : Console α) (tag other : Tag) (text : String) :
    (s.log tag text).linesOf other =
      if tag = other then s.linesOf other ++ [text] else s.linesOf other := by
  by_cases same : tag = other <;> simp [Console.linesOf, Console.log, Console.logAll, same]

namespace Program

variable {o : Options} {now : ℕ} {line : String} {lines : List (ℕ × String)} {l l' : Console Unit}

/-! ## One line of the input -/

/-- The prompt of a run has the standard commands, so running a line reports. -/
lemma reports_silent (o : Options) (line : String) : Reports ((prompt o).silent line) :=
  Prompt.reports_silent o.settings line

/-- A line of the input that names a command is submitted as an echo and a command. -/
lemma submit_eq (named : o.settings.IsCommandLine line) (l : Console Unit) :
    (prompt o).submit line l = (prompt o).silent line (l.log .command line) := by
  have command : (prompt o).settings.isCommand line = true := named.command
  rw [Prompt.submit, named.visible, command, if_neg Bool.false_ne_true, if_pos rfl, Prompt.loud]

/-- Such a line leaves what its command leaves, where that succeeds. -/
lemma takeLine_of_ok (named : o.settings.IsCommandLine line)
    (ran : (prompt o).silent line (({ l with now := now } : Console Unit).log .command line) =
      (.ok (), l')) :
    takeLine (prompt o) l (now, line) = l' := by
  rw [takeLine, submit_eq named, ran]

/-- Where its command fails, it leaves its echo and the failure. -/
lemma takeLine_of_error (named : o.settings.IsCommandLine line) {e : ConsoleError}
    (failed : ((prompt o).silent line
      (({ l with now := now } : Console Unit).log .command line)).1 = .error e) :
    takeLine (prompt o) l (now, line) =
      (({ l with now := now } : Console Unit).log .command line).log .error e.message := by
  have kept : ((prompt o).silent line (({ l with now := now } : Console Unit).log .command line)).2 =
      ({ l with now := now } : Console Unit).log .command line := Prompt.silent_refused failed
  have ran : (prompt o).silent line (({ l with now := now } : Console Unit).log .command line) =
      (.error e, ({ l with now := now } : Console Unit).log .command line) := Prod.ext failed kept
  rw [takeLine, submit_eq named, ran]

/-- Such a line is echoed, whatever comes of it. -/
lemma linesOf_takeLine (named : o.settings.IsCommandLine line) (now : ℕ) (l : Console Unit) :
    (takeLine (prompt o) l (now, line)).linesOf .command = l.linesOf .command ++ [line] := by
  have echo : (({ l with now := now } : Console Unit).log .command line).linesOf .command =
      l.linesOf .command ++ [line] := by
    rw [Console.linesOf_log, if_pos rfl]
    rfl
  rcases ran : (prompt o).silent line (({ l with now := now } : Console Unit).log .command line) with
    ⟨e | ⟨⟩, l'⟩
  · rw [takeLine_of_error named (congrArg Prod.fst ran), Console.linesOf_log, if_neg (by decide), echo]
  · have echoes := (reports_silent o line).linesOf_eq
      (({ l with now := now } : Console Unit).log .command line) (.inl rfl)
    rw [ran] at echoes
    rw [takeLine_of_ok named ran, ← echo]
    exact echoes

/-- Taking a line is submitting it at its time, but for a line that tells of a failure. -/
lemma beside_submit {front : List Line} {s : Console Unit} (named : o.settings.IsCommandLine line)
    (h : Beside [.error] front s l) (now : ℕ) :
    Beside [.error] front ((prompt o).submit line { s with now := now }).2
      (takeLine (prompt o) l (now, line)) := by
  have echoed := (h.at_time now).log (by simp : Tag.command ∉ [Tag.error]) line
  obtain ⟨-, beside⟩ := echoed.of_reports (by simp) (reports_silent o line)
  rw [submit_eq named]
  rcases ran : (prompt o).silent line (({ l with now := now } : Console Unit).log .command line) with
    ⟨e | ⟨⟩, l'⟩
  · rw [ran] at beside
    rw [takeLine, submit_eq named, ran]
    exact beside.log_hidden (by simp) e.message
  · rw [ran] at beside
    rw [takeLine_of_ok named ran]
    exact beside

/-! ## One line in both ways -/

section

variable {b b' : Console Unit} {front : List Line}

/-- A line does the same in both ways, apart from its echo. -/
lemma beside_silent (h : Beside [.command, .error] front b l) (line : String) :
    ((prompt o).silent line (l.log .command line)).1 = ((prompt o).silent line b).1 ∧
      Beside [.command, .error] front ((prompt o).silent line b).2
        ((prompt o).silent line (l.log .command line)).2 := by
  have echoed : Beside [.command, .error] front b (l.log .command line) := h.log_hidden (by simp) line
  exact echoed.of_reports (by simp) (reports_silent o line)

/-- A line that succeeds among the options succeeds in the input at the same time, and does the same
there. -/
lemma beside_takeLine (named : o.settings.IsCommandLine line)
    (h : Beside [.command, .error] front b l)
    (ran : (prompt o).silent line { b with now := now } = (.ok (), b')) :
    Beside [.command, .error] front b' (takeLine (prompt o) l (now, line)) ∧
      (takeLine (prompt o) l (now, line)).linesOf .error = l.linesOf .error := by
  obtain ⟨answer, beside⟩ := beside_silent (o := o) (h.at_time now) line
  have errors := (reports_silent o line).linesOf_eq
    (({ l with now := now } : Console Unit).log .command line) (.inr rfl)
  rcases ran' : (prompt o).silent line (({ l with now := now } : Console Unit).log .command line) with
    ⟨answer', l'⟩
  rw [ran, ran'] at answer beside
  rw [ran', Console.linesOf_log, if_neg (by decide)] at errors
  obtain rfl : answer' = .ok () := answer
  rw [takeLine_of_ok named ran']
  exact ⟨beside, errors⟩

/-- A line that fails among the options leaves nothing behind. In the input it fails in the same way at
the same time, and leaves its echo and the failure. -/
lemma takeLine_refused (named : o.settings.IsCommandLine line)
    (h : Beside [.command, .error] front b l) {e : ConsoleError}
    (failed : ((prompt o).silent line { b with now := now }).1 = .error e) :
    (prompt o).silent line { b with now := now } = (.error e, { b with now := now }) ∧
      takeLine (prompt o) l (now, line) =
        (({ l with now := now } : Console Unit).log .command line).log .error e.message := by
  obtain ⟨answer, -⟩ := beside_silent (o := o) (h.at_time now) line
  have kept : ((prompt o).silent line { b with now := now }).2 = { b with now := now } :=
    Prompt.silent_refused failed
  exact ⟨Prod.ext failed kept, takeLine_of_error named (answer.trans failed)⟩

/-! ## Lines in both ways -/

/-- Lines that succeed among the options do the same in the input, and no failure is logged there.

**Proof sketch.** Induction on the lines. The first of them keeps the consoles beside each other. -/
lemma beside_takeLines (named : ∀ line ∈ lines, o.settings.IsCommandLine line.2)
    (h : Beside [.command, .error] front b l)
    (successes : (runLines (prompt o) lines b).1 = .ok ()) :
    Beside [.command, .error] front (runLines (prompt o) lines b).2
        (lines.foldl (takeLine (prompt o)) l) ∧
      (lines.foldl (takeLine (prompt o)) l).linesOf .error = l.linesOf .error := by
  induction lines generalizing b l with
  | nil => exact ⟨h, rfl⟩
  | cons given lines ih =>
    obtain ⟨now, line⟩ := given
    rw [runLines] at successes ⊢
    rcases ran : (prompt o).silent line { b with now := now } with ⟨e | ⟨⟩, b'⟩
    · rw [ran] at successes
      cases successes
    · rw [ran] at successes
      obtain ⟨first, others⟩ := List.forall_mem_cons.1 named
      obtain ⟨beside, errors⟩ := beside_takeLine first h ran
      obtain ⟨beside', errors'⟩ := ih others beside successes
      exact ⟨beside', errors'.trans errors⟩

/-- All lines of the input that name commands are echoed, whatever comes of them. -/
lemma linesOf_takeLines (named : ∀ line ∈ lines, o.settings.IsCommandLine line.2)
    (l : Console Unit) :
    (lines.foldl (takeLine (prompt o)) l).linesOf .command =
      l.linesOf .command ++ lines.map Prod.snd := by
  induction lines generalizing l with
  | nil => exact (List.append_nil _).symm
  | cons given lines ih =>
    obtain ⟨now, line⟩ := given
    obtain ⟨first, others⟩ := List.forall_mem_cons.1 named
    rw [List.foldl_cons, ih others, linesOf_takeLine first, List.append_assoc, List.singleton_append,
      List.map_cons]

/-- Taking lines is submitting them one after the other, each at its time, but for the lines that tell
of failures. -/
lemma beside_submits {s : Console Unit} (named : ∀ line ∈ lines, o.settings.IsCommandLine line.2)
    (h : Beside [.error] front s l) :
    Beside [.error] front
      (lines.foldl (fun s line => ((prompt o).submit line.2 { s with now := line.1 }).2) s)
      (lines.foldl (takeLine (prompt o)) l) := by
  induction lines generalizing s l with
  | nil => exact h
  | cons given lines ih =>
    obtain ⟨now, line⟩ := given
    obtain ⟨first, others⟩ := List.forall_mem_cons.1 named
    apply ih others
    exact beside_submit first h now

end

/-- Lines among the options are run one after the other, and what comes behind a failure is not run. -/
lemma runLines_append (p : Prompt Unit) (before after : List (ℕ × String)) (s : Console Unit) :
    runLines p (before ++ after) s =
      match runLines p before s with
      | (.ok (), s) => runLines p after s
      | (.error r, s) => (.error r, s) := by
  induction before generalizing s with
  | nil => rfl
  | cons given before ih =>
    obtain ⟨now, line⟩ := given
    rw [List.cons_append, runLines, runLines]
    rcases p.silent line { s with now := now } with ⟨e | ⟨⟩, s'⟩
    · rfl
    · exact ih s'

/-- If lines succeed, so do the first of them. -/
lemma successes_of_prefix {p : Prompt Unit} {before done : List (ℕ × String)} {s : Console Unit}
    (first : before <+: done) (successes : (runLines p done s).1 = .ok ()) :
    (runLines p before s).1 = .ok () := by
  obtain ⟨others, rfl⟩ := first
  rw [runLines_append] at successes
  rcases ran : runLines p before s with ⟨r | ⟨⟩, s'⟩
  · rw [ran] at successes
    exact successes
  · rfl

/-- Lines have a first one that fails, or all of them succeed. -/
lemma exists_successes (p : Prompt Unit) (lines : List (ℕ × String)) (s : Console Unit) :
    ∃ done rest, lines = done ++ rest ∧ (runLines p done s).1 = .ok () ∧
      ∀ line ∈ rest.head?,
        ∃ e, (p.silent line.2 { (runLines p done s).2 with now := line.1 }).1 = .error e := by
  induction lines generalizing s with
  | nil => exact ⟨[], [], rfl, rfl, by simp⟩
  | cons given lines ih =>
    obtain ⟨now, line⟩ := given
    rcases ran : p.silent line { s with now := now } with ⟨e | ⟨⟩, s'⟩
    · refine ⟨[], (now, line) :: lines, rfl, rfl, ?_⟩
      rintro _ ⟨⟩
      exact ⟨e, congrArg Prod.fst ran⟩
    · obtain ⟨done, rest, rfl, successes, failure⟩ := ih s'
      have first : runLines p ((now, line) :: done) s = runLines p done s' := by
        rw [runLines, ran]
      refine ⟨(now, line) :: done, rest, rfl, ?_, ?_⟩
      · rw [first]
        exact successes
      · rw [first]
        exact failure

/-! ## Lines of an input -/

/-- A line that an input holds as it is: without line feeds and backspaces, and without a carriage
return at its end. -/
structure IsPlain (line : String) : Prop where
  /-- There is no line feed in it. -/
  unbroken : '\n' ∉ line.toList
  /-- There is no backspace in it. -/
  kept : backspace ∉ line.toList
  /-- It does not end in a carriage return. -/
  ended : line.toList.getLast? ≠ some '\r'

/-- A line ends at the next line feed.

**Proof sketch.** Induction on what is left of the line, with its first part reversed. -/
lemma linesAfter_append {cs : List Char} (unbroken : '\n' ∉ cs) (reversed rest : List Char) :
    linesAfter reversed (cs ++ '\n' :: rest) =
      endedLine? (cs.reverse ++ reversed) :: linesAfter [] rest := by
  induction cs generalizing reversed with
  | nil => rfl
  | cons c cs ih =>
    obtain ⟨other, unbroken⟩ := not_or.1 (mt List.mem_cons.2 unbroken)
    rw [List.cons_append, linesAfter, if_neg (Ne.symm other), ih unbroken, List.reverse_cons,
      List.append_assoc]
    rfl

/-- A plain line comes out as it is. -/
lemma IsPlain.endedLine?_eq (plain : IsPlain line) :
    endedLine? line.toList.reverse = some line := by
  have other : line.toList.reverse.head? ≠ some '\r' := by
    rw [List.head?_reverse]
    exact plain.ended
  have whole : endedLine? line.toList.reverse = lineOf? line.toList.reverse := by
    unfold endedLine?
    split
    · rename_i rest reversed
      exact absurd (congrArg List.head? reversed) other
    · rfl
  rw [whole, lineOf?, List.reverse_reverse, withBackspaces?_eq_self plain.kept, Option.map_some,
    String.ofList_toList]

/-- Plain lines, each with a line feed behind it, are the lines of the input that they make. -/
lemma inputLines_joined {texts : List String} (plain : ∀ line ∈ texts, IsPlain line) :
    inputLines (String.join (texts.map (· ++ "\n"))) = texts.map some := by
  rw [inputLines, String.toList_join]
  induction texts with
  | nil => rfl
  | cons line texts ih =>
    obtain ⟨first, others⟩ := List.forall_mem_cons.1 plain
    have feed : "\n".toList = ['\n'] := rfl
    rw [List.map_cons, List.flatMap_cons, String.toList_append, List.append_assoc, feed,
      List.singleton_append, linesAfter_append first.unbroken, List.append_nil, first.endedLine?_eq,
      ih others, List.map_cons]

/-! ## Agreement -/

/-- **Lines among the options and lines of the input agree**, for all settings and variables, where all
lines name commands and each line is run at the same time in both ways, whatever these times are. An
input has plain lines as they are. It is taken to its end: each line is echoed, and the console at the
end is the one that submitting all lines leads to, with the failures in its transcript.

The lines among the options are run until one of them fails. After each line before that one, both ways
have come to consoles that differ in their transcripts only: that of the input has the banner in front,
the echoes, and no failure, besides the lines of the other. If no line fails, the program prints these
and ends. If one fails, the program ends with its failure, after printing what the lines before it have
logged: the line has left nothing behind, and those after it are of no account. In the input it has left
its echo and its failure, and nothing else. -/
theorem runLines_agrees_takeLines (now : ℕ) (o : Options) (vars : Variables)
    {lines : List (ℕ × String)} (given : lines ≠ [])
    (named : ∀ line ∈ lines,
      Settings.IsCommandLine ⟨o.trigger.getD '/', o.defaultCommand.getD "send"⟩ line.2) :
    let settings : Settings := ⟨o.trigger.getD '/', o.defaultCommand.getD "send"⟩
    let p : Prompt Unit := { registry := .standard, settings := settings }
    let texts := lines.map Prod.snd
    let fresh : Console Unit :=
      { now := now, vars := vars, connection := ⟨none⟩, transcript := [], extra := () }
    let told : Line := ⟨.system, "Type " ++ String.singleton settings.trigger ++
      "connect <url> to open a session, Ctrl-D to quit"⟩
    let opened : Console Unit := { fresh with transcript := [told] }
    let typed (done : List (ℕ × String)) := done.foldl (takeLine p) opened
    let run (done : List (ℕ × String)) := (runLines p done fresh).2
    let ended := endingOf (runLines p lines fresh)
    start now { o with lines := texts } vars = .running p texts fresh ∧
      start now { o with lines := [] } vars = .waiting p opened ∧
      ((∀ line ∈ texts, IsPlain line) →
        inputLines (String.join (texts.map (· ++ "\n"))) = texts.map some) ∧
      takeLines p (lines.map fun line => (line.1, some line.2)) opened = (.success, typed lines) ∧
      (typed lines).linesOf .command = texts ∧
      Beside [.error] []
        (lines.foldl (fun s line => (p.submit line.2 { s with now := line.1 }).2) opened)
        (typed lines) ∧
      ∃ done rest, lines = done ++ rest ∧
        (∀ before, before <+: done → (runLines p before fresh).1 = .ok () ∧
          Beside [.command, .error] [told] (run before) (typed before) ∧
          (typed before).linesOf .error = []) ∧
        match rest with
        | [] => ended = ⟨.success, printed (run done).transcript, none⟩
        | (time, line) :: _ =>
          let s : Console Unit := { run done with now := time }
          ∃ e, p.silent line s = (.error e, s) ∧
            ended = ⟨.failure, printed (run done).transcript, some ("Error: " ++
              ("command failed: " ++ line) ++ "\n\nCaused by:\n" ++ indented e.message)⟩ ∧
            typed (done ++ [(time, line)]) =
              (({ typed done with now := time } : Console Unit).log .command line).log
                .error e.message ∧
            Beside [.command, .error] [told] s (typed (done ++ [(time, line)])) := by
  intro settings p texts fresh told opened typed run ended
  have commands : ∀ line ∈ lines, o.settings.IsCommandLine line.2 := named
  have running : start now { o with lines := texts } vars = .running p texts fresh := by
    cases lines with
    | nil => exact absurd rfl given
    | cons line lines => rfl
  refine ⟨running, rfl, inputLines_joined, takeLines_map_some p lines opened, ?_, ?_, ?_⟩
  · exact linesOf_takeLines commands opened
  · exact beside_submits commands ⟨rfl, rfl⟩
  obtain ⟨done, rest, rfl, successes, failure⟩ := exists_successes p lines fresh
  have namedDone : ∀ line ∈ done, o.settings.IsCommandLine line.2 :=
    fun line mem => commands line (List.mem_append_left _ mem)
  have together (before : List (ℕ × String)) (first : before <+: done) :
      (runLines p before fresh).1 = .ok () ∧
        Beside [.command, .error] [told] (run before) (typed before) ∧
        (typed before).linesOf .error = [] := by
    have ran := successes_of_prefix first successes
    exact ⟨ran, beside_takeLines (fun line mem => namedDone line (first.subset mem)) ⟨rfl, rfl⟩ ran⟩
  have whole : runLines p done fresh = (.ok (), run done) := Prod.ext successes rfl
  have ran : runLines p (done ++ rest) fresh = runLines p rest (run done) := by
    rw [runLines_append, whole]
  refine ⟨done, rest, rfl, together, ?_⟩
  cases rest with
  | nil => exact congrArg endingOf ran
  | cons line others =>
    obtain ⟨time, line⟩ := line
    obtain ⟨e, failed⟩ := failure (time, line) rfl
    obtain ⟨-, beside, -⟩ := together done (List.prefix_refl done)
    have namedLine : o.settings.IsCommandLine line := commands (time, line) (by simp)
    let s : Console Unit := { run done with now := time }
    obtain ⟨refused, left⟩ : p.silent line s = (.error e, s) ∧
        takeLine p (typed done) (time, line) =
          (({ typed done with now := time } : Console Unit).log .command line).log .error e.message :=
      takeLine_refused namedLine beside failed
    have stopped : runLines p ((time, line) :: others) (run done) =
        (.error ⟨"command failed: " ++ line, some e.message⟩, s) := by
      rw [runLines, refused]
    have last : typed (done ++ [(time, line)]) = takeLine p (typed done) (time, line) :=
      List.foldl_concat ..
    refine ⟨e, refused, congrArg endingOf (ran.trans stopped), last.trans left, ?_⟩
    rw [last, left]
    exact ((beside.at_time time).log_hidden (by simp) line).log_hidden (by simp) e.message

/-- A line that sends the time of its run, whatever the settings are. -/
lemma silent_time {s : Console Unit} {session : Session} (opened : s.connection.session = some session)
    (bound : s.vars.get? "time" = some (.function ⟨"time", 3, currentTime⟩)) :
    (prompt o).silent "!send $\x7btime()\x7d" s =
      (.ok (), s.queued session (.text (toString s.now)) (toString s.now)) := by
  have named : IsName "time" := by
    refine ⟨'t', ['i', 'm', 'e'], rfl, .inl (by decide), ?_⟩
    simp only [List.forall_mem_cons]
    exact ⟨.inl (by decide), .inl (by decide), .inl (by decide), by simp⟩
  have canonical : Template.Canonical ⟨[.call "time" []]⟩ :=
    Template.canonical_cons_iff.2 ⟨⟨named, by simp⟩, by simp, Template.canonical_nil⟩
  have parsed : Template.parse "$\x7btime()\x7d" = .ok ⟨[.call "time" []]⟩ := canonical.parse_render
  have value : s.scope.value? "time" = some (.function ⟨"time", 3, currentTime⟩) := bound
  have evaluated : s.scope.evaluate "$\x7btime()\x7d" = .ok (Utf8.encode (toString s.now)) := by
    rw [Scope.evaluate_singleton _ parsed, Particle.eval, Scope.call, value]
    rfl
  have line : "!send $\x7btime()\x7d" =
      String.singleton '!' ++ ("send" ++ " " ++ "$\x7btime()\x7d") := by decide
  rw [line, Prompt.silent_named _ _ (by decide), prompt, Prompt.runCommand_send opened evaluated,
    Utf8.decodeLossy_encode]

/-- Four lines, of which the third asks for another session while one is open. Among the options it
ends the program, and in the input the fourth one is still taken. The second and the fourth send the
times at which they are run. Lines with commands start with a character of the user's own. -/
theorem runLines_agrees_takeLines_second_session :
    let o : Options := { trigger := some '!' }
    let timed := "!send $\x7btime()\x7d"
    let lines := [(5, "!connect ws://a"), (6, timed), (7, "!connect ws://b"), (8, timed)]
    let input := "!connect ws://a\n!send $\x7btime()\x7d\n!connect ws://b\n!send $\x7btime()\x7d\n"
    let fresh := Console.fresh 0 .initial ()
    let opened := fresh.log .system "Type !connect <url> to open a session, Ctrl-D to quit"
    lines ≠ [] ∧ (∀ line ∈ lines, Settings.IsCommandLine ⟨'!', "send"⟩ line.2) ∧
      inputLines input = lines.map (some ·.2) ∧
      start 0 { o with lines := lines.map Prod.snd } .initial =
        .running (prompt o) (lines.map Prod.snd) fresh ∧
      start 0 o .initial = .waiting (prompt o) opened ∧
      endingOf (runLines (prompt o) lines fresh) =
        ⟨.failure, "system Connecting to ws://a\nsent 6\n", some
          "Error: command failed: !connect ws://b\n\nCaused by:\n    already connected to ws://a"⟩ ∧
      ∃ s, takeLines (prompt o) (lines.map fun line => (line.1, some line.2)) opened =
          (.success, s) ∧
        s.linesOf .command = lines.map Prod.snd ∧
        s.transcript = [⟨.system, "Type !connect <url> to open a session, Ctrl-D to quit"⟩,
          ⟨.command, "!connect ws://a"⟩, ⟨.system, "Connecting to ws://a"⟩,
          ⟨.command, timed⟩, ⟨.sent, "6"⟩,
          ⟨.command, "!connect ws://b"⟩, ⟨.error, "already connected to ws://a"⟩,
          ⟨.command, timed⟩, ⟨.sent, "8"⟩] := by
  intro o timed lines input fresh opened
  have given : lines ≠ [] := by simp [lines]
  have named : ∀ line ∈ lines, Settings.IsCommandLine ⟨'!', "send"⟩ line.2 := by
    simp only [lines, List.forall_mem_cons]
    exact ⟨⟨by decide, by decide⟩, ⟨by decide, by decide⟩, ⟨by decide, by decide⟩,
      ⟨by decide, by decide⟩, by simp⟩
  have plain : ∀ line ∈ lines.map Prod.snd, IsPlain line := by
    simp only [lines, List.map_cons, List.map_nil, List.forall_mem_cons]
    exact ⟨⟨by decide, by decide, by decide⟩, ⟨by decide, by decide, by decide⟩,
      ⟨by decide, by decide, by decide⟩, ⟨by decide, by decide, by decide⟩, by simp⟩
  have written : input = String.join ((lines.map Prod.snd).map (· ++ "\n")) := by decide
  obtain ⟨running, waiting, piped, taken, echoed, -⟩ :=
    runLines_agrees_takeLines 0 o .initial given named
  rw [written, piped plain]
  have line : o.settings.IsCommandLine timed := ⟨by decide, by decide⟩
  let session : Session := ⟨"ws://a", []⟩
  refine ⟨given, named, rfl, running, waiting, ?_, _, taken, echoed, ?_⟩
  · -- Up to the third line, which leaves the session of the first one with the message of the second.
    let s : Console Unit := { fresh with
      now := 6, connection := ⟨some session⟩, transcript := [⟨.system, "Connecting to ws://a"⟩] }
    have connects : (prompt o).silent "!connect ws://a" { fresh with now := 5 } =
        (.ok (), { s with now := 5 }) := by rfl
    have sends : (prompt o).silent timed s =
        (.ok (), s.queued session (.text (toString 6)) (toString 6)) := silent_time rfl rfl
    have refused : (prompt o).silent "!connect ws://b"
        { s.queued session (.text (toString 6)) (toString 6) with now := 7 } =
          (.error (.command (.alreadyConnected "ws://a")),
            { s.queued session (.text (toString 6)) (toString 6) with now := 7 }) := by rfl
    have ran : runLines (prompt o) lines fresh =
        (.error ⟨"command failed: !connect ws://b",
            some (ConsoleError.message (.command (.alreadyConnected "ws://a")))⟩,
          { s.queued session (.text (toString 6)) (toString 6) with now := 7 }) := by
      simp only [lines, runLines, connects]
      rw [sends]
      dsimp only
      rw [refused]
      rfl
    rw [ran]
    decide
  · let s : Console Unit := { opened with
      now := 5, connection := ⟨some session⟩
      transcript := opened.transcript ++
        [⟨.command, "!connect ws://a"⟩, ⟨.system, "Connecting to ws://a"⟩] }
    let sent (s : Console Unit) (session : Session) (time : ℕ) : Console Unit :=
      (({ s with now := time } : Console Unit).log .command timed).queued session
        (.text (toString time)) (toString time)
    have first : takeLine (prompt o) opened (5, "!connect ws://a") = s := by rfl
    have second : takeLine (prompt o) s (6, timed) = sent s session 6 :=
      takeLine_of_ok line (silent_time rfl rfl)
    let after : Console Unit :=
      (({ sent s session 6 with now := 7 } : Console Unit).log .command "!connect ws://b").log .error
        "already connected to ws://a"
    have third : takeLine (prompt o) (sent s session 6) (7, "!connect ws://b") = after := by rfl
    have fourth : takeLine (prompt o) after (8, timed) =
        sent after { session with outbox := [.text (toString 6)] } 8 :=
      takeLine_of_ok line (silent_time rfl rfl)
    show (takeLine (prompt o) (takeLine (prompt o) (takeLine (prompt o) (takeLine (prompt o) opened
      (5, "!connect ws://a")) (6, timed)) (7, "!connect ws://b")) (8, timed)).transcript = _
    rw [first, second, third, fourth]
    decide

end Program

end FrameConsole
