import FrameConsole.Proofs.Commands.SentLines

/-!
# How lines are taken

What becomes of a line, for any settings and any commands, said of the line itself. A line is blank,
or it starts with the trigger, or neither. Behind the trigger the text up to the first space is the
name of a command and the text behind that space its parameter, further spaces included. A line that
starts otherwise is the parameter of the default command. The text of the default command may have
spaces of its own: then it is cut at the first of them, and what it has behind that space comes in
front of the line.

The echo of a line is logged before anything else is done. It stays, whatever comes of the line, where
commands do nothing to the transcript but add to it.

## Main definitions

* `FrameConsole.CutAtSpace` — a text with the parts before and behind its first space.
* `FrameConsole.Prompt.Takes` — the outcome of a line.
* `FrameConsole.Command.OnlyLogs` — a command that only adds to the transcript.

## Main results

* `FrameConsole.splitCommand_eq_iff` — commands are cut at their first space.
* `FrameConsole.Prompt.takes_enter`, `FrameConsole.Prompt.Takes.enter_eq` — lines have these outcomes
  and no others.
* `FrameConsole.Prompt.enter_iff_takes` — lines are taken so, behind their echo.
-/

namespace FrameConsole

variable {α : Type}

/-! ## Cutting at a space -/

/-- A text with what stands before its first space and behind it. A text without a space has nothing
behind it. -/
inductive CutAtSpace : String → String → String → Prop
  /-- A name without a space, a space, and a parameter. -/
  | space {name parameter : String} (free : ' ' ∉ name.toList) :
      CutAtSpace (name ++ " " ++ parameter) name parameter
  /-- A name without a space. -/
  | whole {name : String} (free : ' ' ∉ name.toList) : CutAtSpace name name ""

/-- A command is split where it is cut.

**Proof sketch.** What stands before the first space is a run of other characters, and what is left
behind that run is empty or starts with the space. -/
lemma cutAtSpace_splitCommand (command : String) :
    CutAtSpace command (splitCommand command).1 (splitCommand command).2 := by
  set front := command.toList.takeWhile (· ≠ ' ') with hfront
  have free : ' ' ∉ (String.ofList front).toList := by
    rw [String.toList_ofList]
    intro mem
    simpa using List.mem_takeWhile_imp mem
  have whole : front ++ command.toList.dropWhile (· ≠ ' ') = command.toList :=
    List.takeWhile_append_dropWhile
  simp only [splitCommand, ← hfront]
  cases back : command.toList.dropWhile (· ≠ ' ') with
  | nil =>
    rw [back, List.append_nil] at whole
    have same : command = String.ofList front := by rw [whole, String.ofList_toList]
    rw [← same] at free ⊢
    exact .whole free
  | cons c rest =>
    have space : c = ' ' := by
      have head := List.head?_dropWhile_not (· ≠ ' ') command.toList
      rw [back] at head
      simpa using head
    have same : command = String.ofList front ++ " " ++ String.ofList rest := by
      rw [← String.toList_inj, ← whole, back, space]
      simp
    have cut : CutAtSpace (String.ofList front ++ " " ++ String.ofList rest) (String.ofList front)
        (String.ofList rest) := .space free
    rwa [← same] at cut

/-- A text without a space, in front of one that starts with a space or is empty, is the name. -/
lemma splitCommand_of_free {command name : String} {rest : List Char} (free : ' ' ∉ name.toList)
    (stop : StopsAt (· ≠ ' ') rest) (written : command.toList = name.toList ++ rest) :
    splitCommand command = (name, String.ofList (rest.drop 1)) := by
  have other : ∀ c ∈ name.toList, decide (c ≠ ' ') = true :=
    fun c mem => decide_eq_true fun space => free (space ▸ mem)
  rw [splitCommand, written, takeWhile_run other stop, dropWhile_run other stop,
    String.ofList_toList]

/-- A text is cut in one way only. -/
lemma CutAtSpace.splitCommand_eq {command name parameter : String}
    (h : CutAtSpace command name parameter) : splitCommand command = (name, parameter) := by
  cases h with
  | space free =>
    have stop : StopsAt (· ≠ ' ') (' ' :: parameter.toList) := by
      rintro c ⟨⟩
      decide
    rw [splitCommand_of_free free stop (by simp), List.drop_one, List.tail_cons,
      String.ofList_toList]
  | whole free =>
    have stop : StopsAt (· ≠ ' ') [] := by
      rintro c ⟨⟩
    exact splitCommand_of_free free stop (List.append_nil _).symm

/-- Commands are split at their first space. -/
lemma splitCommand_eq_iff {command name parameter : String} :
    splitCommand command = (name, parameter) ↔ CutAtSpace command name parameter := by
  constructor
  · intro split
    have cut := cutAtSpace_splitCommand command
    rwa [split] at cut
  · exact CutAtSpace.splitCommand_eq

/-! ## What becomes of lines -/

/-- The outcome of a line that is handed to a prompt. -/
inductive Prompt.Takes (p : Prompt α) :
    Entry → String → Console α → Outcome α ConsoleError Unit → Prop
  /-- A command is run by its name, which stands before its first space. -/
  | run {command name parameter : String} {s : Console α}
      (cut : CutAtSpace command name parameter) :
      Takes p .run command s (p.runCommand name parameter s)
  /-- A line that is not shown is run without its first character, whatever that is. -/
  | silent {c : Char} {rest : String} {s : Console α} {out : Outcome α ConsoleError Unit}
      (taken : Takes p .run rest s out) : Takes p .silent (String.singleton c ++ rest) s out
  /-- The empty line has no first character to leave out. -/
  | silentEmpty {s : Console α} {out : Outcome α ConsoleError Unit} (taken : Takes p .run "" s out) :
      Takes p .silent "" s out
  /-- A line that is shown is logged before anything else. -/
  | loud {line : String} {s : Console α} {out : Outcome α ConsoleError Unit}
      (taken : Takes p .silent line (s.log .command line) out) : Takes p .loud line s out
  /-- A line from the user that has only blank characters does nothing. -/
  | blank {line : String} {s : Console α} (blank : ∀ c ∈ line.toList, isBlank c = true) :
      Takes p .submit line s (.ok (), s)
  /-- A line from the user that starts with the trigger is logged, and names a command behind it. -/
  | command {line rest name parameter : String} {s : Console α}
      (visible : ∃ c ∈ line.toList, isBlank c = false)
      (starts : line = String.singleton p.settings.trigger ++ rest)
      (cut : CutAtSpace rest name parameter) :
      Takes p .submit line s (p.runCommand name parameter (s.log .command line))
  /-- Any other line from the user is the parameter of the default command. What is logged is the line
  that names this command. -/
  | plain {line : String} {s : Console α} (visible : ∃ c ∈ line.toList, isBlank c = false)
      (other : line.toList.head? ≠ some p.settings.trigger)
      (free : ' ' ∉ p.settings.defaultCommand.toList) :
      Takes p .submit line s (p.runCommand p.settings.defaultCommand line (s.log .command
        (String.singleton p.settings.trigger ++ p.settings.defaultCommand ++ " " ++ line)))
  /-- Where the default command has a space, what it has behind its first space comes in front of the
  line. -/
  | spaced {line name remainder : String} {s : Console α}
      (visible : ∃ c ∈ line.toList, isBlank c = false)
      (other : line.toList.head? ≠ some p.settings.trigger) (free : ' ' ∉ name.toList)
      (command : p.settings.defaultCommand = name ++ " " ++ remainder) :
      Takes p .submit line s (p.runCommand name (remainder ++ " " ++ line) (s.log .command
        (String.singleton p.settings.trigger ++ p.settings.defaultCommand ++ " " ++ line)))

/-- A line is blank exactly if it has no other character. -/
lemma isBlankLine_eq_false_iff {line : String} :
    isBlankLine line = false ↔ ∃ c ∈ line.toList, isBlank c = false := by
  simp [isBlankLine]

/-- A line names a command exactly if it is the trigger and something behind it. -/
lemma Settings.isCommand_iff {settings : Settings} {line : String} :
    settings.isCommand line = true ↔ line.toList.head? = some settings.trigger := by
  simp [Settings.isCommand]

/-- The first character is left out. -/
lemma withoutTrigger_singleton_append (c : Char) (rest : String) :
    withoutTrigger (String.singleton c ++ rest) = rest := by
  simp [withoutTrigger]

/-- A line that starts with a character is that character and the rest of the line. -/
lemma eq_singleton_append {line : String} {c : Char} (head : line.toList.head? = some c) :
    line = String.singleton c ++ withoutTrigger line := by
  obtain ⟨rest, written⟩ := List.head?_eq_some_iff.1 head
  rw [← String.toList_inj]
  simp [withoutTrigger, written]

/-- The line for the default command without its trigger. -/
lemma withoutTrigger_defaultLine (settings : Settings) (line : String) :
    withoutTrigger (settings.defaultLine line) = settings.defaultCommand ++ " " ++ line := by
  rw [Settings.defaultLine, String.append_assoc, String.append_assoc,
    withoutTrigger_singleton_append, String.append_assoc]

/-- A command has the outcome that it is to have. -/
lemma Prompt.takes_run (p : Prompt α) (command : String) (s : Console α) :
    p.Takes .run command s (p.run command s) :=
  .run (cutAtSpace_splitCommand command)

/-- A line that is not shown has the outcome that it is to have. -/
lemma Prompt.takes_silent (p : Prompt α) (line : String) (s : Console α) :
    p.Takes .silent line s (p.silent line s) := by
  have taken := p.takes_run (withoutTrigger line) s
  cases head : line.toList.head? with
  | none =>
    obtain rfl : line = "" := by simpa using head
    exact .silentEmpty taken
  | some c =>
    have silent := Takes.silent (c := c) taken
    rwa [← eq_singleton_append head] at silent

/-- Lines have the outcomes that they are to have.

**Proof sketch.** One case for each way to hand over a line. A line for the default command is put
together and taken apart again: behind its trigger stands the default command, whose first space, if
it has one, comes before the one that was put behind it. -/
lemma Prompt.takes_enter (p : Prompt α) (entry : Entry) (line : String) (s : Console α) :
    p.Takes entry line s (p.enter entry line s) := by
  cases entry with
  | run => exact p.takes_run line s
  | silent => exact p.takes_silent line s
  | loud => exact .loud (p.takes_silent line (s.log .command line))
  | submit =>
    rw [Prompt.enter, Prompt.submit]
    split_ifs with blank starts
    · exact .blank (by simpa [isBlankLine] using blank)
    · have visible := isBlankLine_eq_false_iff.1 (Bool.eq_false_iff.2 blank)
      exact .command visible (eq_singleton_append (Settings.isCommand_iff.1 starts))
        (cutAtSpace_splitCommand (withoutTrigger line))
    · have visible := isBlankLine_eq_false_iff.1 (Bool.eq_false_iff.2 blank)
      have other : line.toList.head? ≠ some p.settings.trigger :=
        fun head => starts (Settings.isCommand_iff.2 head)
      rw [Prompt.loud, Prompt.silent, Prompt.run, withoutTrigger_defaultLine]
      have cut := cutAtSpace_splitCommand p.settings.defaultCommand
      generalize (splitCommand p.settings.defaultCommand).1 = name at cut
      generalize (splitCommand p.settings.defaultCommand).2 = remainder at cut
      generalize command : p.settings.defaultCommand = default at cut
      cases cut with
      | whole free =>
        rw [(CutAtSpace.space free).splitCommand_eq, ← command]
        exact .plain visible other (command ▸ free)
      | space free =>
        have whole : name ++ " " ++ remainder ++ " " ++ line =
            name ++ " " ++ (remainder ++ " " ++ line) := by simp only [String.append_assoc]
        rw [whole, (CutAtSpace.space free).splitCommand_eq]
        exact .spaced visible other free command

/-- A line from the user with a character that is not blank is shown and run: the line itself if it
starts with the trigger, and the line made of it for the default command if not. -/
lemma Prompt.submit_of_visible (p : Prompt α) {line : String} (s : Console α)
    (visible : ∃ c ∈ line.toList, isBlank c = false) :
    p.submit line s =
      p.loud (if p.settings.isCommand line then line else p.settings.defaultLine line) s := by
  rw [Prompt.submit, isBlankLine_eq_false_iff.2 visible, if_neg Bool.false_ne_true]
  split_ifs <;> rfl

/-- Lines have no other outcomes than those that they are to have. -/
lemma Prompt.Takes.enter_eq {p : Prompt α} {entry : Entry} {line : String} {s : Console α}
    {out : Outcome α ConsoleError Unit} (h : p.Takes entry line s out) :
    p.enter entry line s = out := by
  induction h with
  | run cut => rw [Prompt.enter, Prompt.run, cut.splitCommand_eq]
  | @silent c rest s out taken ih =>
    rw [Prompt.enter, Prompt.silent, withoutTrigger_singleton_append]
    exact ih
  | silentEmpty taken ih => exact ih
  | loud taken ih => exact ih
  | blank blank =>
    have whole : isBlankLine _ = true := List.all_eq_true.2 blank
    rw [Prompt.enter, Prompt.submit, if_pos whole]
  | @command line rest name parameter s visible starts cut =>
    have command : p.settings.isCommand line = true :=
      Settings.isCommand_iff.2 (by simp [starts])
    rw [Prompt.enter, p.submit_of_visible s visible, if_pos command, Prompt.loud, Prompt.silent,
      Prompt.run, starts, withoutTrigger_singleton_append, cut.splitCommand_eq]
  | @plain line s visible other free =>
    have plain : ¬p.settings.isCommand line = true := mt Settings.isCommand_iff.1 other
    rw [Prompt.enter, p.submit_of_visible s visible, if_neg plain, Prompt.loud, Prompt.silent,
      Prompt.run, withoutTrigger_defaultLine, (CutAtSpace.space free).splitCommand_eq]
    rfl
  | @spaced line name remainder s visible other free command =>
    have plain : ¬p.settings.isCommand line = true := mt Settings.isCommand_iff.1 other
    have whole : p.settings.defaultCommand ++ " " ++ line =
        name ++ " " ++ (remainder ++ " " ++ line) := by
      rw [command]
      simp only [String.append_assoc]
    rw [Prompt.enter, p.submit_of_visible s visible, if_neg plain, Prompt.loud, Prompt.silent,
      Prompt.run, withoutTrigger_defaultLine, whole, (CutAtSpace.space free).splitCommand_eq]
    rfl

/-! ## The echo -/

/-- A command that does nothing to the transcript but add lines to it. -/
def Command.OnlyLogs (command : Command α) : Prop :=
  ∀ payload (s : Console α), s.transcript <+: (command.run payload s).2.transcript

/-- A command that logs what it sends only adds to the transcript. -/
lemma Command.Mirrors.onlyLogs {command : Command α} (h : command.Mirrors) : command.OnlyLogs := by
  intro payload s
  obtain ⟨frames, -, lines, logged, -⟩ := h payload s
  exact ⟨lines, logged.symm⟩

/-- Where all commands only add to the transcript, running one by its name does so. -/
lemma Prompt.transcript_prefix_runCommand {p : Prompt α}
    (onlyLogs : ∀ name command, p.registry.find? name = some command → command.OnlyLogs)
    (name parameter : String) (s : Console α) :
    s.transcript <+: (p.runCommand name parameter s).2.transcript := by
  obtain ⟨done, dispatched⟩ := p.exists_dispatches name parameter s
  generalize p.runCommand name parameter s = out at dispatched
  cases dispatched with
  | unknown => exact List.prefix_rfl
  | verbatim found plain ran =>
    have logged := onlyLogs name _ found (.text parameter) s
    rwa [ran] at logged
  | malformed => exact List.prefix_rfl
  | failed => exact List.prefix_rfl
  | @evaluated command t bytes extra answer s' found takes read gives ran =>
    have logged := onlyLogs name _ found (.binary bytes) { s with extra := extra }
    rwa [ran] at logged

/-- Only a blank line from the user invokes nothing. -/
lemma Settings.invocation?_eq_none_iff {settings : Settings} {entry : Entry} {line : String} :
    settings.invocation? entry line = none ↔ entry = .submit ∧ isBlankLine line = true := by
  cases entry with
  | submit =>
    rw [Settings.invocation?]
    split_ifs with blank
    · simp [blank]
    · simp [blank]
    · simp [blank]
  | _ => simp [Settings.invocation?]

/-- **Taking lines**: for all settings, all commands and all readers of templates, these and no
others are the outcomes of a line, whichever way it is handed over. A line that is not blank has its
echo logged first, and where the commands do nothing to the transcript but add to it, the echo stays
in its place whatever comes of the line. -/
theorem Prompt.enter_iff_takes (p : Prompt α) (line : String) (s : Console α) :
    (∀ entry out, p.enter entry line s = out ↔ p.Takes entry line s out) ∧
      ((∀ name command, p.registry.find? name = some command → command.OnlyLogs) →
        ∀ entry, (entry = .submit → ∃ c ∈ line.toList, isBlank c = false) →
          s.transcript ++ p.settings.echo entry line <+:
            (p.enter entry line s).2.transcript) := by
  constructor
  · intro entry out
    constructor
    · rintro rfl
      exact p.takes_enter entry line s
    · exact Prompt.Takes.enter_eq
  · intro onlyLogs entry visible
    rw [Prompt.enter_eq]
    cases invoked : p.settings.invocation? entry line with
    | none =>
      obtain ⟨rfl, blank⟩ := Settings.invocation?_eq_none_iff.1 invoked
      rw [isBlankLine_eq_false_iff.2 (visible rfl)] at blank
      cases blank
    | some i =>
      have logged := p.transcript_prefix_runCommand onlyLogs i.name i.parameter (i.echoTo s)
      simp only [Settings.echoTo_of_invocation? invoked] at logged ⊢
      exact logged

/-- A default command with a space, and a trigger that is blank itself. The line fails, since no
session is open, and its echo stays. -/
theorem Prompt.enter_iff_takes_spaced :
    let p : Prompt Unit := { registry := .standard, settings := ⟨'\u3000', "send to:"⟩ }
    let s : Console Unit := Console.fresh 0 .empty ()
    (∃ c ∈ " you  and me".toList, isBlank c = false) ∧
      p.enter .submit " you  and me" s =
        p.runCommand "send" "to:  you  and me" (s.log .command "\u3000send to:  you  and me") ∧
      p.enter .submit "\u3000\u0020" s = (.ok (), s) ∧
      [⟨.command, "\u3000send to:  you  and me"⟩] <+:
        (p.enter .submit " you  and me" s).2.transcript := by
  intro p s
  have visible : ∃ c ∈ " you  and me".toList, isBlank c = false := ⟨'y', by decide, by decide⟩
  have onlyLogs : ∀ name command,
      p.registry.find? name = some command → command.OnlyLogs :=
    fun _ _ found => (Registry.mirrors_of_find?_standard found).onlyLogs
  have other : " you  and me".toList.head? ≠ some p.settings.trigger := by decide
  have blank : ∀ c ∈ "\u3000\u0020".toList, isBlank c = true := List.all_eq_true.1 (by decide)
  have command : "send to:" = "send" ++ " " ++ "to:" := by decide
  have parameter : "to:  you  and me" = "to:" ++ " " ++ " you  and me" := by decide
  have echo : "\u3000send to:  you  and me" =
      String.singleton '\u3000' ++ "send to:" ++ " " ++ " you  and me" := by decide
  have taken : p.Takes .submit " you  and me" s (p.runCommand "send"
      ("to:" ++ " " ++ " you  and me") (s.log .command
        (String.singleton '\u3000' ++ "send to:" ++ " " ++ " you  and me"))) :=
    .spaced visible other (by decide) command
  refine ⟨visible, ?_, ?_, ?_⟩
  · rw [parameter, echo]
    exact ((p.enter_iff_takes " you  and me" s).1 .submit _).2 taken
  · exact ((p.enter_iff_takes "\u3000\u0020" s).1 .submit _).2 (.blank blank)
  · have shown : s.transcript ++ p.settings.echo .submit " you  and me" =
        [⟨.command, "\u3000send to:  you  and me"⟩] := by decide
    have stays := (p.enter_iff_takes " you  and me" s).2 onlyLogs .submit fun _ => visible
    rwa [shown] at stays

end FrameConsole
