import FrameConsole.Template.Reader

/-!
# Reading with a cursor

A cursor goes through the bytes of a source and holds nothing but its position among them. What is
ahead of it is cut off the source anew each time, so a position inside of a character, or behind the
end, could be cut at; positions are added to and subtracted from; numbers are made smaller and
negated; and loops take as many turns as they like. Whatever can go wrong there is an outcome of
reading: it stops with a crash, which is not one of the refusals that a source may bring about.

A cursor records where it has been, and the turns of its loops.

## Main definitions

* `FrameConsole.Cursor` — a position in a source, with its record.
* `FrameConsole.Crash` — what no source should bring about.
* `FrameConsole.Scan` — a computation that moves a cursor, and is refused or crashes.
* `FrameConsole.Template.scan` — reads a template with a cursor.
-/

namespace FrameConsole

/-! ### Cursors -/

/-- The loops of the reader. -/
inductive Loop where
  /-- One element of the source after the other. -/
  | elements
  /-- One argument of a call after the other. -/
  | arguments
  /-- One character of a string after the other. -/
  | characters
  /-- One blank after the other. -/
  | blanks
  deriving DecidableEq, Repr

/-- A turn of a loop that came to its end without an error. -/
structure Turn where
  /-- The loop. -/
  loop : Loop
  /-- The position of the cursor before the turn. -/
  start : Nat
  /-- The position of the cursor behind the turn. -/
  stop : Nat
  deriving DecidableEq, Repr

/-- A position in a source, with the record of how the cursor came there. -/
structure Cursor where
  /-- The source. -/
  source : String
  /-- The number of turns that a loop may take. -/
  bound : Nat
  /-- The number of bytes behind the cursor. -/
  position : Nat
  /-- All positions that the cursor has had, the last one first. -/
  trail : List Nat
  /-- All turns of loops that came to their ends, the last one first. -/
  turns : List Turn
  deriving DecidableEq, Repr

/-- The cursor at the start of a source. -/
def Cursor.start (source : String) (bound : Nat) : Cursor :=
  ⟨source, bound, 0, [0], []⟩

/-- What no source should bring about. -/
inductive Crash where
  /-- The source is cut at a position that is not between two characters. -/
  | cut (position : Nat)
  /-- A position would be below zero. -/
  | underflow (position less : Nat)
  /-- A number does not fit into a byte. -/
  | noByte (value : Nat)
  /-- A 64-bit integer has no negative. -/
  | overflow (value : Int64)
  /-- A loop takes more turns than it may. -/
  | endless (loop : Loop)
  deriving DecidableEq, Repr

/-- Why reading stops. -/
inductive Stop where
  /-- The source is refused. -/
  | refused (e : SyntaxError)
  /-- Reading crashes. -/
  | crashed (crash : Crash)
  deriving DecidableEq, Repr

/-- A computation that moves a cursor. The cursor stays where it is when the computation stops. -/
abbrev Scan := ExceptT Stop (StateM Cursor)

namespace Scan

/-! ### Steps -/

/-- Refuses the source for a fault at a position. -/
def refuse {α : Type} (fault : Fault) (position : Nat) : Scan α :=
  throw (.refused ⟨fault, position⟩)

/-- Crashes. -/
def crash {α : Type} (c : Crash) : Scan α :=
  throw (.crashed c)

/-- The position of the cursor. -/
def position : Scan Nat := do
  return (← get).position

/-- The number of turns that a loop may take. -/
def limit : Scan Nat := do
  return (← get).bound

/-- The characters ahead of the cursor. -/
def rest : Scan (List Char) := do
  let c ← get
  match c.source.pos? ⟨c.position⟩ with
  | some place => return (c.source.sliceFrom place).copy.toList
  | none => crash (.cut c.position)

/-- The character ahead of the cursor, if there is one. -/
def peek : Scan (Option Char) := do
  return (← rest).head?

/-- Moves the cursor by some bytes. -/
def advance (bytes : Nat) : Scan Unit :=
  modify fun c =>
    { c with position := c.position + bytes, trail := (c.position + bytes) :: c.trail }

/-- Moves the cursor over the character ahead, if there is one. -/
def next : Scan (Option Char) := do
  match ← peek with
  | none => return none
  | some c =>
    advance c.utf8Size
    return some c

/-- Moves the cursor over the character ahead if it is the given one, and tells whether it is. -/
def accept (c : Char) : Scan Bool := do
  if (← peek) = some c then
    advance c.utf8Size
    return true
  else return false

/-- The difference of a position and a number of bytes. -/
def minus (position less : Nat) : Scan Nat :=
  if less ≤ position then return position - less else crash (.underflow position less)

/-- A number as a byte. -/
def narrow (value : Nat) : Scan UInt8 :=
  if value < 256 then return UInt8.ofNat value else crash (.noByte value)

/-- The negative of a 64-bit integer. -/
def negate (value : Int64) : Scan Int64 :=
  if value = Int64.minValue then crash (.overflow value) else return -value

/-! ### Loops -/

/-- What a turn of a loop comes to. -/
inductive Next (σ β : Type) where
  /-- Another turn. -/
  | again (state : σ)
  /-- The result of the loop. -/
  | last (result : β)
  /-- The result of the loop, where the condition of the loop fails and there is no turn. -/
  | over (result : β)

/-- Records a turn that is at its end. -/
def record (loop : Loop) (start : Nat) : Scan Unit :=
  modify fun c => { c with turns := ⟨loop, start, c.position⟩ :: c.turns }

/-- Takes turns until one of them has a result. -/
def turnsWithin {σ β : Type} (loop : Loop) (turn : σ → Scan (Next σ β)) : (bound : Nat) → σ → Scan β
  | 0, _ => crash (.endless loop)
  | bound + 1, state => do
    let start ← position
    match ← turn state with
    | .again state =>
      record loop start
      turnsWithin loop turn bound state
    | .last result =>
      record loop start
      return result
    | .over result => return result

/-- Takes turns until one of them has a result, but not more than the cursor allows. -/
def turns {σ β : Type} (loop : Loop) (turn : σ → Scan (Next σ β)) (state : σ) : Scan β := do
  turnsWithin loop turn (← limit) state

/-- Moves the cursor over a blank, if one is ahead. -/
def blankTurn (_ : Unit) : Scan (Next Unit Unit) := do
  match ← peek with
  | none => return .over ()
  | some c =>
    if isBlank c then
      let _ ← next
      return .again ()
    else return .over ()

/-- Moves the cursor over all blanks ahead. -/
def passBlanks : Scan Unit :=
  turns .blanks blankTurn ()

/-! ### Escapes -/

/-- The number that some characters denote in a base, if all of them are digits of that base and the
number is below a limit. -/
def numberBelow? (base limit : Nat) (digits : List Char) : Option Nat :=
  if digits ≠ [] ∧ digits.all (fun c => (Hex.digit? c).any (· < base)) ∧
      Hex.valueIn base digits < limit then
    some (Hex.valueIn base digits)
  else none

/-- Reads hexadecimal digits as long as there are some, at least `least` and at most `most`. -/
def hexDigits (least most : Nat) : Scan Nat := do
  let start ← position
  let digits := ((← rest).take most).takeWhile Hex.isDigit
  if Utf8.length digits < least then refuse (.hexDigitsExpected least most) start
  else
    advance (Utf8.length digits)
    match numberBelow? 16 0x100000000 digits with
    | some value => return value
    | none => refuse (.custom "invalid hex digits") start

/-- Reads the number of a code point: four digits, or one to six of them between braces. -/
def codePoint : Scan Nat := do
  if ← accept '{' then
    let value ← hexDigits 1 6
    if ← accept '}' then return value
    else refuse .codePointNotClosed (← position)
  else hexDigits 4 4

/-- Reads what follows a backslash, which stands at `start`. -/
def escape (start : Nat) : Scan Element := do
  match ← next with
  | none => refuse .trailingBackslash start
  | some c =>
    match plainEscape? c with
    | some d => return .char d
    | none =>
      if c = 'x' then
        let value ← hexDigits 2 2
        return .particle (.byte (← narrow value))
      else if c = 'u' then
        let value ← codePoint
        if value.isValidChar then return .particle (.codepoint (Char.ofNat value))
        else refuse (.notAScalar value) start
      else refuse (.unknownEscape c) start

/-! ### Arguments -/

/-- Reads a character of a string that starts at `start`, or its closing quote; `done` holds the
characters read so far, the last one first. -/
def stringTurn (start : Nat) (done : List Char) : Scan (Next (List Char) String) := do
  match ← next with
  | none => refuse .stringNotClosed start
  | some c =>
    if c = '"' then return .last (String.ofList done.reverse)
    else if c = '\\' then
      match ← next with
      | none => refuse .stringNotClosed start
      | some d =>
        if d = '"' ∨ d = '\\' then return .again (d :: done)
        else refuse (.unknownStringEscape d) (← minus (← minus (← position) d.utf8Size) 1)
    else return .again (c :: done)

/-- Reads a string from its opening quote on. -/
def string : Scan String := do
  let start ← position
  let _ ← next
  turns .characters (stringTurn start) []

/-- Finds the base of an integer and its digits, and moves the cursor over the mark of the base. -/
def numeral : Scan (Nat × List Char) := do
  let ahead ← rest
  if ['0', 'x'].isPrefixOf ahead ∨ ['0', 'X'].isPrefixOf ahead then
    advance 2
    return (16, (← rest).takeWhile Hex.isDigit)
  else return (10, ahead.takeWhile Char.isDigit)

/-- Reads the digits of an integer that starts at `start`. The magnitude has to be a 64-bit integer
itself. -/
def signed (start : Nat) (negative : Bool) (base : Nat) (digits : List Char) : Scan Int64 := do
  if digits.isEmpty then refuse .digitsExpected (← position)
  else
    advance (Utf8.length digits)
    match numberBelow? base magnitudeBound digits with
    | none => refuse .integerOutOfRange start
    | some magnitude =>
      if negative then negate (Int64.ofNat magnitude) else return Int64.ofNat magnitude

/-- Reads an integer: a minus sign or none, then decimal digits, or hexadecimal ones behind `0x` or
`0X`. -/
def integer : Scan Int64 := do
  let start ← position
  let negative ← accept '-'
  let found ← numeral
  signed start negative found.1 found.2

/-- Reads an argument of the reference that starts at `start`. -/
def argument (start : Nat) : Scan Argument := do
  match ← peek with
  | none => refuse .referenceNotClosed start
  | some c =>
    if c = '"' then return .string (← string)
    else if c = '-' ∨ c.isDigit then return .integer (← integer)
    else refuse .argumentExpected (← position)

/-! ### References -/

/-- Reads an argument and what separates it from the next one, or closes the list. -/
def argumentTurn (start : Nat) (done : List Argument) :
    Scan (Next (List Argument) (List Argument)) := do
  passBlanks
  let a ← argument start
  passBlanks
  if ← accept ',' then return .again (a :: done)
  else if ← accept ')' then return .last (a :: done).reverse
  else
    match ← peek with
    | none => refuse .referenceNotClosed start
    | some _ => refuse .separatorExpected (← position)

/-- Reads the arguments of a call from behind its opening parenthesis. -/
def arguments (start : Nat) : Scan (List Argument) := do
  passBlanks
  if ← accept ')' then return []
  else turns .arguments (argumentTurn start) []

/-- Reads a name as far as it goes, where one starts. -/
def name? : Scan (Option String) := do
  match ← peek with
  | none => return none
  | some c =>
    if isNameStart c then
      let name := (← rest).takeWhile isNamePart
      advance (Utf8.length name)
      return some (String.ofList name)
    else return none

/-- Reads the closing brace of a reference that gives the particle `p`. -/
def closeReference (start : Nat) (p : Particle) : Scan Element := do
  if ← accept '}' then return .particle p
  else
    match ← peek with
    | none => refuse .referenceNotClosed start
    | some _ => refuse .closingBraceExpected (← position)

/-- Reads a reference that starts at `start`, from behind its opening brace. -/
def reference (start : Nat) : Scan Element := do
  passBlanks
  match ← name? with
  | none =>
    match ← peek with
    | none => refuse .referenceNotClosed start
    | some _ => refuse .nameExpected (← position)
  | some name =>
    passBlanks
    if ← accept '(' then
      let args ← arguments start
      passBlanks
      closeReference start (.call name args)
    else closeReference start (.variable name)

/-! ### Templates -/

/-- The particles read so far, and the text that is to become the next one. -/
structure Gathered where
  /-- The particles read so far. -/
  particles : List Particle
  /-- The characters behind them, the last one first. -/
  text : List Char

/-- Makes a particle of the text, if there is any. -/
def Gathered.flush (gathered : Gathered) : Gathered :=
  ⟨gathered.particles ++ textOf gathered.text, []⟩

/-- Adds what was read: a character to the text, or a particle behind the text. -/
def Gathered.append (gathered : Gathered) : Element → Gathered
  | .char c => { gathered with text := c :: gathered.text }
  | .particle p => ⟨gathered.flush.particles ++ [p], []⟩

/-- Reads the element that starts with `c`, the character ahead. -/
def element (c : Char) : Scan Element := do
  if c = '\\' then
    let start ← position
    let _ ← next
    escape start
  else if c = '$' ∧ ['$', '{'].isPrefixOf (← rest) then
    let start ← position
    advance 2
    reference start
  else
    let _ ← next
    return .char c

/-- Reads an element of the source, unless the source is at its end. -/
def elementTurn (gathered : Gathered) : Scan (Next Gathered Template) := do
  match ← peek with
  | none => return .over ⟨gathered.flush.particles⟩
  | some c => return .again (gathered.append (← element c))

/-- Reads the elements of a source. -/
def template : Scan Template :=
  turns .elements elementTurn ⟨[], []⟩

end Scan

/-- Reads a template with a cursor whose loops take a limited number of turns each. -/
def Template.scan (source : String) (bound : Nat) : Except Stop Template × Cursor :=
  Scan.template (Cursor.start source bound)

end FrameConsole
