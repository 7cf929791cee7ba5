/-!
# Control sequences

The sequences by which a program tells a terminal about colours, titles and the like, and a text
without them. A sequence begins with the escape character and ends where its kind says: a command
after its last parameter, a title at the bell, a device string at the byte `9C`.

A tab or the end of a line or page interrupts a command and is shown, and so is what follows, up to
the next control character; behind that the command goes on, unless a character beyond ASCII has
ended it. In titles and strings nothing is shown.

## Main definitions

* `FrameConsole.ControlSequence.State` — how far a sequence has come.
* `FrameConsole.ControlSequence.strip` — a text without its control sequences.
-/

namespace FrameConsole.ControlSequence

/-- The escape character, which begins every sequence. -/
def escape : Char :=
  '\x1b'

/-- How far a sequence has come. -/
inductive State where
  /-- There is none. -/
  | plain
  /-- The escape character has come. -/
  | escape
  /-- The escape character and signs have come, and one more character ends the sequence. -/
  | escapeSigns
  /-- A command is in its parameters. -/
  | command
  /-- A title, or another setting of the terminal's system, has begun. -/
  | title
  /-- A device string has begun. -/
  | device
  /-- A device string is in its parameters. -/
  | deviceParameters
  /-- A device string is in its signs. -/
  | deviceSigns
  /-- A string has begun whose content is not looked at. -/
  | string
  deriving DecidableEq, Repr

namespace State

/-- Whether the bytes of a character contain `9C`, which ends a string. -/
def endsString (c : Char) : Bool :=
  (String.utf8EncodeChar c).contains 0x9C

/-- Whether a code point lies between two others. -/
def within (n first last : Nat) : Bool :=
  first ≤ n && n ≤ last

/-- What a character leads to from some state, unless it changes nothing. -/
def next? (s : State) (c : Char) : Option State :=
  let n := c.toNat
  if n = 0x1B then some escape
  else if n = 0x18 ∨ n = 0x1A then some plain
  else
    match s with
    | plain => if 0x80 ≤ n then some plain else none
    | escape =>
      if within n 0x20 0x2F then some escapeSigns
      else if c = '[' then some command
      else if c = ']' then some title
      else if c = 'P' then some device
      else if c = 'X' ∨ c = '^' ∨ c = '_' then some string
      else if within n 0x30 0x7E then some plain
      else none
    | escapeSigns => if within n 0x30 0x7E then some plain else none
    | command => if within n 0x40 0x7E then some plain else none
    | title => if n = 0x07 then some plain else none
    | device =>
      if within n 0x20 0x2F then some deviceSigns
      else if within n 0x30 0x3F then some deviceParameters
      else if within n 0x40 0x7E then some string
      else none
    | deviceParameters =>
      if within n 0x20 0x2F then some deviceSigns
      else if within n 0x3C 0x7E then some string
      else none
    | deviceSigns => if within n 0x30 0x7E then some string else none
    | string => if endsString c then some plain else none

/-- Whether a character is a tab or the end of a line or page. -/
def isInterruption (c : Char) : Bool :=
  c = '\t' || c = '\n' || c = '\x0C' || c = '\r'

/-- Whether a character is shown at some state: outside sequences all characters but the controls,
and tabs and the ends of lines and pages also within commands. -/
def shows (s : State) (c : Char) : Bool :=
  match s with
  | plain => within c.toNat 0x20 0x7E || 0x80 ≤ c.toNat || isInterruption c
  | escape | escapeSigns | command => isInterruption c
  | _ => false

end State

/-- A text that is being cleared of its sequences. -/
structure Clearing where
  /-- What is shown of the text so far, the last character first. -/
  kept : List Char := []
  /-- The sequence that has begun, which white space may have interrupted. -/
  state : State := .plain
  /-- Whether the last character was shown. -/
  showing : Bool := false
  deriving DecidableEq, Repr

/-- Takes the next character of a text. Behind a character that was shown it is judged as if there
were no sequence. -/
def Clearing.take (s : Clearing) (c : Char) : Clearing :=
  let here := if s.showing then .plain else s.state
  ⟨if here.shows c then c :: s.kept else s.kept, (here.next? c).getD s.state, here.shows c⟩

/-- A text without its control sequences. -/
def strip (text : String) : String :=
  String.ofList ((text.toList.foldl Clearing.take {}).kept.reverse)

end FrameConsole.ControlSequence
