import FrameConsole.Proofs.Connection.Lines
import FrameConsole.Proofs.Prompt.Taking
import FrameConsole.Proofs.Template.Literals

/-!
# Opening a session

The command that opens a session takes the first word of its parameter as an address, and ignores the
rest. It goes wrong in three ways, of which the first one that applies is reported: there is no word,
the word is no address of a server, or a session is open. Then nothing else happens.

No other standard command opens a session, so over every run of lines the open address is the one of
the last session that was announced, and has the form that was checked then.

## Main definitions

* `FrameConsole.FirstWord` — the first word of a text.
* `FrameConsole.NamesScheme` — an address begins with one of the two schemes.
* `FrameConsole.Opening` — what the command comes to.
* `FrameConsole.Prompt.Reaches` — the consoles that lines lead to, with what was announced on the way.
* `FrameConsole.Announced` — a console has the session that was announced last, or none.

## Main results

* `FrameConsole.Announced.enter` — a line keeps the open session and the announcements together.
* `FrameConsole.Prompt.opening_announced` — the outcomes of the command, and the open address over
  every run.
-/

namespace FrameConsole

open Connection Grammar

variable {α : Type}

/-! ## Words and addresses -/

/-- The first word of a text: a longest run of characters that are not blank, with nothing but blanks
in front of it. -/
def FirstWord (text word : String) : Prop :=
  ∃ blanks rest, text.toList = blanks ++ (word.toList ++ rest) ∧ Blanks blanks ∧ word.toList ≠ [] ∧
    (∀ c ∈ word.toList, isBlank c = false) ∧ ∀ c, rest.head? = some c → isBlank c = true

/-- An address begins with one of the two schemes of servers. -/
def NamesScheme (url : String) : Prop :=
  "ws://".toList <+: url.toList ∨ "wss://".toList <+: url.toList

/-- An address of a server begins with one of the two schemes. -/
lemma isServerUrl_iff {url : String} : isServerUrl url = true ↔ NamesScheme url := by
  simp only [isServerUrl, NamesScheme, Bool.or_eq_true, List.isPrefixOf_iff_prefix]

/-- A text has no first word if all its characters are blank. -/
lemma firstWord?_eq_none_iff {text : String} :
    firstWord? text = none ↔ ∀ c ∈ text.toList, isBlank c = true := by
  rw [firstWord?, skipBlanks, ← List.dropWhile_eq_nil_iff]
  split
  · rename_i none
    exact iff_of_true rfl none
  · rename_i some
    exact iff_of_false (Option.some_ne_none _) (by simp [some])

/-- What is left when a class is dropped from the front stops it. -/
lemma stopsAt_dropWhile (p : Char → Bool) (cs : List Char) : StopsAt p (cs.dropWhile p) := by
  intro c head
  have stop := List.head?_dropWhile_not p cs
  rw [head] at stop
  exact stop

/-- The first word that is found is the first word.

**Proof sketch.** What is left of a text when its leading blanks are skipped begins with a character
that is not blank, and the word is the longest run of such characters there. Conversely, the blanks
in front of a first word are the leading ones, and the word is that longest run. -/
lemma firstWord?_eq_some_iff {text word : String} :
    firstWord? text = some word ↔ FirstWord text word := by
  constructor
  · intro found
    obtain ⟨blanks, blank, split⟩ := skipBlanks_sound text.toList
    rw [firstWord?] at found
    cases left : skipBlanks text.toList with
    | nil => simp [left] at found
    | cons c cs =>
      rw [left] at found split
      obtain rfl := Option.some.inj found
      have visible : isBlank c = false := by
        refine stopsAt_dropWhile isBlank text.toList c ?_
        rw [← skipBlanks, left, List.head?_cons]
      refine ⟨blanks, (c :: cs).dropWhile fun d => !isBlank d, ?_, blank, ?_, ?_, ?_⟩
      · rw [String.toList_ofList, List.takeWhile_append_dropWhile, split]
      · simp [visible]
      · intro d mem
        rw [String.toList_ofList] at mem
        simpa using List.mem_takeWhile_imp mem
      · intro d head
        simpa using stopsAt_dropWhile (fun d => !isBlank d) (c :: cs) d head
  · rintro ⟨blanks, rest, split, blank, nonempty, whole, stop⟩
    have visible : StopsAt isBlank (word.toList ++ rest) := by
      intro c head
      rw [List.head?_append_of_ne_nil _ nonempty] at head
      exact whole c (List.mem_of_mem_head? head)
    have run : (word.toList ++ rest).takeWhile (fun d => !isBlank d) = word.toList :=
      takeWhile_run (by simpa using whole) (fun c head => by simp [stop c head])
    rw [firstWord?, split, skipBlanks_append blank visible]
    cases both : word.toList ++ rest with
    | nil => simp [nonempty] at both
    | cons c cs =>
      rw [both] at run
      simp only [run, String.ofList_toList]

/-- A text has at most one first word. -/
lemma FirstWord.unique {text word word' : String} (h : FirstWord text word)
    (h' : FirstWord text word') : word = word' :=
  Option.some.inj ((firstWord?_eq_some_iff.2 h).symm.trans (firstWord?_eq_some_iff.2 h'))

/-! ## Outcomes -/

/-- What opening a session comes to. -/
inductive Opening (parameter : String) (s : Console α) : Outcome α ConsoleError Unit → Prop
  /-- There is no word. -/
  | missing (blank : ∀ c ∈ parameter.toList, isBlank c = true) :
    Opening parameter s (.error (.command (.missingArgument "connect" "a url")), s)
  /-- The first word is no address of a server. -/
  | invalid {word : String} (first : FirstWord parameter word) (other : ¬NamesScheme word) :
    Opening parameter s (.error (.command (.invalidUrl word)), s)
  /-- The first word is an address of a server, and a session is open. -/
  | already {word : String} {session : Session} (first : FirstWord parameter word)
    (scheme : NamesScheme word) (busy : s.connection.session = some session) :
    Opening parameter s (.error (.command (.alreadyConnected session.url)), s)
  /-- The first word is an address of a server, and no session is open. -/
  | opened {word : String} (first : FirstWord parameter word) (scheme : NamesScheme word)
    (idle : s.connection.session = none) :
    Opening parameter s (.ok (), { s with
      connection := ⟨some ⟨word, []⟩⟩
      transcript := s.transcript ++ [⟨.system, "Connecting to " ++ word⟩] })

section

variable {p : Prompt α} {parameter : String} {s : Console α}

/-- The name of the command runs it with the parameter as it was typed. -/
lemma Prompt.runCommand_connect (standard : p.registry = .standard) (parameter : String)
    (s : Console α) :
    p.runCommand "connect" parameter s = perform Command.connect (.text parameter) s := by
  rw [Prompt.runCommand, standard, Registry.find?_standard]
  rfl

/-- Opening a session comes to one of the outcomes. -/
lemma opening_perform (parameter : String) (s : Console α) :
    Opening parameter s (Prompt.perform Command.connect (.text parameter) s) := by
  simp only [Prompt.perform, Command.connect, Payload.toText]
  cases found : firstWord? parameter with
  | none => exact .missing (firstWord?_eq_none_iff.1 found)
  | some word =>
    have first := firstWord?_eq_some_iff.1 found
    by_cases server : isServerUrl word = true
    · have scheme := isServerUrl_iff.1 server
      cases busy : s.connection.session with
      | none =>
        simp only [server, if_true, Connection.connect, busy]
        exact .opened first scheme busy
      | some session =>
        simp only [server, if_true, Connection.connect, busy]
        exact .already first scheme busy
    · simp only [server]
      exact .invalid first (mt isServerUrl_iff.2 server)

/-- Opening a session comes to no other outcome. -/
lemma Opening.perform_eq {out : Outcome α ConsoleError Unit} (h : Opening parameter s out) :
    Prompt.perform Command.connect (.text parameter) s = out := by
  simp only [Prompt.perform, Command.connect, Payload.toText]
  cases h with
  | missing blank => rw [firstWord?_eq_none_iff.2 blank]
  | invalid first other =>
    have refused : ¬isServerUrl _ = true := mt isServerUrl_iff.1 other
    simp only [firstWord?_eq_some_iff.2 first, refused]
    rfl
  | already first scheme busy =>
    simp only [firstWord?_eq_some_iff.2 first, isServerUrl_iff.2 scheme, if_true,
      Connection.connect, busy]
  | opened first scheme idle =>
    simp only [firstWord?_eq_some_iff.2 first, isServerUrl_iff.2 scheme, if_true,
      Connection.connect, idle]
    rfl

/-- Running the command by its name comes to one of the outcomes, and to no other one. -/
lemma Prompt.runCommand_connect_eq_iff (standard : p.registry = .standard) (parameter : String)
    (s : Console α) (out : Outcome α ConsoleError Unit) :
    p.runCommand "connect" parameter s = out ↔ Opening parameter s out := by
  rw [Prompt.runCommand_connect standard]
  constructor
  · rintro rfl
    exact opening_perform parameter s
  · exact Opening.perform_eq

/-- A session is opened exactly where there is a first word that is an address of a server, and no
session is open. -/
lemma Opening.ok_iff {answer : Except ConsoleError Unit} {s' : Console α}
    (h : Opening parameter s (answer, s')) :
    answer = .ok () ↔
      ∃ word, FirstWord parameter word ∧ NamesScheme word ∧ s.connection.session = none := by
  cases h with
  | missing blank =>
    refine iff_of_false (by simp) ?_
    rintro ⟨word, first, -⟩
    simpa [firstWord?_eq_none_iff.2 blank] using firstWord?_eq_some_iff.2 first
  | invalid first other =>
    refine iff_of_false (by simp) ?_
    rintro ⟨word, first', scheme, -⟩
    exact other (first.unique first' ▸ scheme)
  | already first scheme busy => exact iff_of_false (by simp) (by simp [busy])
  | opened first scheme idle => exact iff_of_true rfl ⟨_, first, scheme, idle⟩

end

/-! ## Announcements -/

/-- The lines that opening a session logs when a line is handed over: those behind the echo, if the
line names the command for it. -/
def Prompt.announcements (p : Prompt α) (entry : Entry) (line : String) (s : Console α) : List Line :=
  match p.settings.invocation? entry line with
  | none => []
  | some i =>
    if i.name = "connect" then
      (p.enter entry line s).2.transcript.drop (i.echoTo s).transcript.length
    else []

/-- The consoles that lines lead to from a console, with the lines that opening sessions has logged on
the way. In between, frames are drained, time passes and variables change. -/
inductive Prompt.Reaches (p : Prompt α) (s : Console α) : List Line → Console α → Prop
  /-- Nothing has been done. -/
  | start : Reaches p s [] s
  /-- A line is handed over. -/
  | line {lines : List Line} {s' : Console α} (reached : Reaches p s lines s') (entry : Entry)
    (text : String) :
    Reaches p s (lines ++ p.announcements entry text s') (p.enter entry text s').2
  /-- The waiting frames are taken. -/
  | drain {lines : List Line} {s' : Console α} (reached : Reaches p s lines s') :
    Reaches p s lines { s' with connection := s'.connection.drain }
  /-- Time passes and variables change. -/
  | elsewhere {lines : List Line} {s' : Console α} (reached : Reaches p s lines s') (now : Nat)
    (vars : Variables) :
    Reaches p s lines { s' with now := now, vars := vars }

/-- Some lines of the transcript announce the addresses of sessions, the last of them the address of
the session that is open, if one is. -/
structure Announced (lines : List Line) (s : Console α) : Prop where
  /-- The lines are in the transcript. -/
  logged : lines.Sublist s.transcript
  /-- Each line announces an address. -/
  announce : ∀ line ∈ lines, ∃ url, line = ⟨.system, "Connecting to " ++ url⟩
  /-- The last line announces the open session, whose address begins with a scheme and is one word. -/
  last : ∀ url, s.connection.url? = some url → NamesScheme url ∧
    (∀ c ∈ url.toList, isBlank c = false) ∧
      lines.getLast? = some ⟨.system, "Connecting to " ++ url⟩

/-- A call other than for opening a session opens none. -/
lemma Served.url?_eq {c : Connection} {out : Outcome α ConsoleError Unit} {call : Option Call}
    (h : Served c out call) (other : ∀ url, call ≠ some (.connect url)) {url : String}
    (opened : out.2.connection.url? = some url) : c.url? = some url := by
  cases call with
  | none =>
    rw [← opened]
    exact congrArg Connection.url? h.symm
  | some call =>
    cases call with
    | connect word => exact absurd rfl (other word)
    | close =>
      obtain ⟨-, closed⟩ := h
      simp [closed, Connection.close, Connection.url?] at opened
    | send frame =>
      rcases c with ⟨_ | session⟩
      · obtain ⟨-, refused⟩ := h
        rwa [refused] at opened
      · obtain ⟨-, sent⟩ := h
        rwa [sent] at opened

/-- No command but the one for it asks for a session to be opened. -/
lemma Prompt.call?_ne_connect (p : Prompt α) {name : String} (other : name ≠ "connect")
    (parameter : String) (s : Console α) (url : String) :
    p.call? name parameter s ≠ some (.connect url) := by
  rw [Prompt.call?, if_neg other]
  split_ifs <;> simp

namespace Announced

variable {lines : List Line} {s s' : Console α} {p : Prompt α}

/-- Without a session nothing has to be announced. -/
lemma start (idle : s.connection = {}) : Announced [] s :=
  ⟨List.nil_sublist _, by simp, fun url opened => by simp [idle, Connection.url?] at opened⟩

/-- More lines in the transcript, and a session that is closed or changed in its frames, leave the
announcements as they are. -/
lemma mono (h : Announced lines s) (more : s.transcript <+: s'.transcript)
    (same : ∀ url, s'.connection.url? = some url → s.connection.url? = some url) :
    Announced lines s' :=
  ⟨h.logged.trans more.sublist, h.announce, fun url opened => h.last url (same url opened)⟩

/-- An echo announces nothing. -/
lemma echoTo (h : Announced lines s) (i : Invocation) : Announced lines (i.echoTo s) := by
  refine h.mono ?_ fun url opened => by rwa [i.connection_echoTo] at opened
  rw [Invocation.echoTo]
  split
  · exact List.prefix_append _ _
  · exact List.prefix_rfl

/-- What opening a session logs announces it, if it is opened.

**Proof sketch.** A session that is opened has the first word as its address, which names a scheme and
has no blanks, and the one line that is logged announces it. In all other cases nothing is logged, and
the session is the same as before. -/
lemma opening (h : Announced lines s) {parameter : String} {out : Outcome α ConsoleError Unit}
    (opening : Opening parameter s out) :
    Announced (lines ++ out.2.transcript.drop s.transcript.length) out.2 := by
  have unchanged : Announced (lines ++ s.transcript.drop s.transcript.length) s := by
    rwa [List.drop_length, List.append_nil]
  cases opening with
  | missing => exact unchanged
  | invalid => exact unchanged
  | already => exact unchanged
  | @opened word first scheme idle =>
    obtain ⟨-, -, -, -, -, whole, -⟩ := first
    rw [List.drop_left]
    refine ⟨h.logged.append (List.Sublist.refl _), ?_, ?_⟩
    · intro line mem
      rcases List.mem_append.1 mem with mem | mem
      · exact h.announce line mem
      · exact ⟨word, List.mem_singleton.1 mem⟩
    · intro url opened
      obtain rfl : word = url := Option.some.inj opened
      exact ⟨scheme, whole, by rw [List.getLast?_concat]⟩

/-- A line keeps the open session and the announcements together. -/
lemma enter (standard : p.registry = .standard) (h : Announced lines s) (entry : Entry)
    (text : String) :
    Announced (lines ++ p.announcements entry text s) (p.enter entry text s).2 := by
  rw [Prompt.announcements, Prompt.enter_eq]
  cases p.settings.invocation? entry text with
  | none => rwa [List.append_nil]
  | some i =>
    have echoed := h.echoTo i
    simp only
    split_ifs with opens
    · rw [opens]
      exact echoed.opening ((p.runCommand_connect_eq_iff standard _ _ _).1 rfl)
    · have logged := p.transcript_prefix_runCommand
        (fun name command found => (Registry.mirrors_of_find?_standard (standard ▸ found)).onlyLogs)
        i.name i.parameter (i.echoTo s)
      have served := p.served_runCommand standard i.name i.parameter (i.echoTo s)
      rw [List.append_nil]
      exact echoed.mono logged fun url =>
        served.url?_eq (p.call?_ne_connect opens i.parameter (i.echoTo s))

/-- The open session and the announcements stay together over every run. -/
lemma reaches (standard : p.registry = .standard) (idle : s.connection = {})
    (reached : p.Reaches s lines s') : Announced lines s' := by
  induction reached with
  | start => exact .start idle
  | line _ entry text ih => exact ih.enter standard entry text
  | @drain lines s' _ ih =>
    refine ih.mono List.prefix_rfl fun url opened => ?_
    rwa [Connection.url?, Connection.drain, Option.map_map] at opened
  | elsewhere _ now vars ih => exact ih.mono List.prefix_rfl fun url opened => opened

end Announced

/-- **Opening a session.** The command succeeds exactly if its parameter has a first word, which is an
address of a server, and no session is open, and then a session without frames is open on this word;
otherwise the first of these that does not hold is reported, and nothing else happens. Over every run of
lines from a console without a session, the open address begins with one of the two schemes, has no
blanks, and is the one that the last line logged by this command announces. -/
theorem Prompt.opening_announced {p : Prompt α} (standard : p.registry = .standard) :
    (∀ parameter s out, p.runCommand "connect" parameter s = out ↔ Opening parameter s out) ∧
      (∀ parameter s, (p.runCommand "connect" parameter s).1 = .ok () ↔
        ∃ word, FirstWord parameter word ∧ NamesScheme word ∧ s.connection.session = none) ∧
      ∀ s, s.connection = {} → ∀ lines s', p.Reaches s lines s' → Announced lines s' := by
  refine ⟨p.runCommand_connect_eq_iff standard, ?_, ?_⟩
  · intro parameter s
    exact ((p.runCommand_connect_eq_iff standard parameter s _).1 rfl).ok_iff
  · intro s idle lines s' reached
    exact .reaches standard idle reached

/-- A word between unusual blanks is an address, and a reference in it is none; a word that is no address
is reported before the session that is open; and a session that has been closed is followed by another
one, while a third one is refused. -/
theorem Prompt.opening_announced_again :
    let p : Prompt Unit := { registry := .standard }
    let s : Console Unit := Console.fresh 0 .empty ()
    let busy : Console Unit := { s with connection := ⟨some ⟨"ws://a", [.text "x"]⟩⟩ }
    p.runCommand "connect" "\u3000ws://$\x7bx\x7d\u2028y" s =
        (.ok (), { s with
          connection := ⟨some ⟨"ws://$\x7bx\x7d", []⟩⟩
          transcript := [⟨.system, "Connecting to ws://$\x7bx\x7d"⟩] }) ∧
      p.runCommand "connect" "http://b ws://b" busy =
        (.error (.command (.invalidUrl "http://b")), busy) ∧
      (p.runCommand "connect" "" s).1 ≠ .ok () ∧
      ∃ lines s', p.Reaches s lines s' ∧ s'.connection.url? = some "wss://b" ∧ lines.length = 2 ∧
        lines.getLast? = some ⟨.system, "Connecting to wss://b"⟩ := by
  intro p s busy
  obtain ⟨outcomes, succeeds, runs⟩ := Prompt.opening_announced (p := p) rfl
  have first : FirstWord "\u3000ws://$\x7bx\x7d\u2028y" "ws://$\x7bx\x7d" :=
    firstWord?_eq_some_iff.1 (by decide)
  have scheme : NamesScheme "ws://$\x7bx\x7d" := isServerUrl_iff.1 (by decide)
  have other : FirstWord "http://b ws://b" "http://b" := firstWord?_eq_some_iff.1 (by decide)
  have reached := ((((Prompt.Reaches.start (p := p) (s := s)).line .silent "/connect ws://a b").line
    .loud "/disconnect").line .submit "/connect wss://b").line .submit "/connect ws://c"
  refine ⟨(outcomes _ _ _).2 (.opened first scheme rfl),
    (outcomes _ _ _).2 (.invalid other (mt isServerUrl_iff.2 (by decide))), ?_,
    _, _, reached, rfl, rfl, ?_⟩
  · rw [ne_eq, succeeds]
    rintro ⟨word, none, -⟩
    cases firstWord?_eq_some_iff.2 none
  · exact ((runs s rfl _ _ reached).last "wss://b" rfl).2.2

end FrameConsole
