import FrameConsole.Template.Basic
import FrameConsole.Template.Fault
import FrameConsole.Text.Blank
import FrameConsole.Text.Utf8

/-!
# Reading templates

The source of a template is a sequence of elements: characters that stand for themselves, escapes
that start with a backslash, and references between `$` and a brace. Elements are read one after
another; then each maximal run of characters becomes one text particle.

A reader takes the rest of the source and gives what it read with what is left. A refusal carries
the part of the source that starts at the fault, so that its offset is the length of the source
less the length of that part: no position is counted while reading.

## Main definitions

* `FrameConsole.Element` — what is read at a time.
* `FrameConsole.readElement`, `FrameConsole.readElements` — one element, and all of them.
* `FrameConsole.Particle.ofElements` — the particles of a sequence of elements.
* `FrameConsole.Template.parse` — the template that a source spells.

## Main results

* `FrameConsole.readElement_suffix` — what an element leaves is a suffix of what follows its first
  character, hence shorter than the source, which is why reading ends.
-/

namespace FrameConsole

/-! ### Elements and refusals -/

/-- What is read at a time: a character of text, or a particle that stands on its own. -/
inductive Element where
  /-- A character of text. -/
  | char (c : Char)
  /-- A particle that is no text. -/
  | particle (p : Particle)
  deriving DecidableEq, Repr

/-- A fault with the part of the source that starts where it lies. -/
structure Refusal where
  /-- What is wrong. -/
  fault : Fault
  /-- The source from the place of the fault on. -/
  rest : List Char
  deriving DecidableEq, Repr

/-- What a reader gives: a value and the rest of the source, or a refusal. -/
abbrev Reading (α : Type) := Except Refusal (α × List Char)

/-- The reading that fails at a place. -/
def refuse {α : Type} (fault : Fault) (rest : List Char) : Except Refusal α :=
  .error ⟨fault, rest⟩

/-! ### Escapes -/

/-- Reads hexadecimal digits as long as there are some, at least `least` and at most `most`. -/
def readHex (least most : Nat) (cs : List Char) : Reading Nat :=
  let digits := (cs.take most).takeWhile Hex.isDigit
  if digits.length < least then refuse (.hexDigitsExpected least most) cs
  else .ok (Hex.valueIn 16 digits, cs.drop digits.length)

/-- Reads the number of a code point: four digits, or one to six of them between braces. -/
def readCodePoint (cs : List Char) : Reading Nat :=
  match cs with
  | '{' :: digits =>
    match readHex 1 6 digits with
    | .ok (value, '}' :: rest) => .ok (value, rest)
    | .ok (_, rest) => refuse .codePointNotClosed rest
    | .error e => .error e
  | _ => readHex 4 4 cs

/-- The character that a letter after a backslash stands for, where it stands for one. -/
def plainEscape? (c : Char) : Option Char :=
  if c = '\\' ∨ c = '$' then some c
  else if c = 'n' then some '\n'
  else if c = 'r' then some '\r'
  else if c = 't' then some '\t'
  else if c = '0' then some '\x00'
  else none

/-- Reads what follows a backslash; `start` is the source from that backslash on. -/
def readEscape (start cs : List Char) : Reading Element :=
  match cs with
  | [] => refuse .trailingBackslash start
  | c :: rest =>
    match plainEscape? c with
    | some d => .ok (.char d, rest)
    | none =>
      if c = 'x' then
        match readHex 2 2 rest with
        | .ok (value, rest) => .ok (.particle (.byte (UInt8.ofNat value)), rest)
        | .error e => .error e
      else if c = 'u' then
        match readCodePoint rest with
        | .ok (value, rest) =>
          if value.isValidChar then .ok (.particle (.codepoint (Char.ofNat value)), rest)
          else refuse (.notAScalar value) start
        | .error e => .error e
      else refuse (.unknownEscape c) start

/-! ### Arguments -/

/-- Reads a string from behind its opening quote; `start` is the source from that quote on, and
`done` holds the characters read so far, the last one first. -/
def readString (start done : List Char) : List Char → Reading String
  | [] => refuse .stringNotClosed start
  | c :: rest =>
    if c = '"' then .ok (String.ofList done.reverse, rest)
    else if c = '\\' then
      match rest with
      | [] => refuse .stringNotClosed start
      | d :: rest =>
        if d = '"' ∨ d = '\\' then readString start (d :: done) rest
        else refuse (.unknownStringEscape d) (c :: d :: rest)
    else readString start (c :: done) rest

/-- The least magnitude that no integer literal has, the 63rd power of two. -/
def magnitudeBound : Nat := 0x8000000000000000

/-- Reads the digits of an integer in a base. The magnitude has to be below the bound; `start` is
the source from the first character of the integer on. -/
def readMagnitude (start : List Char) (negative : Bool) (base : Nat) (isDigit : Char → Bool)
    (cs : List Char) : Reading Int64 :=
  let digits := cs.takeWhile isDigit
  if digits.isEmpty then refuse .digitsExpected cs
  else
    let magnitude := Hex.valueIn base digits
    if magnitude < magnitudeBound then
      .ok (Int64.ofInt (if negative then -magnitude else magnitude), cs.dropWhile isDigit)
    else refuse .integerOutOfRange start

/-- Reads the part of an integer that follows its sign. -/
def readUnsigned (start : List Char) (negative : Bool) (cs : List Char) : Reading Int64 :=
  match cs with
  | '0' :: 'x' :: digits => readMagnitude start negative 16 Hex.isDigit digits
  | '0' :: 'X' :: digits => readMagnitude start negative 16 Hex.isDigit digits
  | _ => readMagnitude start negative 10 Char.isDigit cs

/-- Reads an integer: a minus sign or none, then decimal digits, or hexadecimal ones behind `0x`
or `0X`. -/
def readInteger (cs : List Char) : Reading Int64 :=
  match cs with
  | '-' :: rest => readUnsigned cs true rest
  | _ => readUnsigned cs false cs

/-- Reads an argument; `start` is the source from the reference it belongs to. -/
def readArgument (start cs : List Char) : Reading Argument :=
  match cs with
  | [] => refuse .referenceNotClosed start
  | c :: rest =>
    if c = '"' then
      match readString cs [] rest with
      | .ok (value, rest) => .ok (.string value, rest)
      | .error e => .error e
    else if c = '-' ∨ c.isDigit then
      match readInteger cs with
      | .ok (value, rest) => .ok (.integer value, rest)
      | .error e => .error e
    else refuse .argumentExpected cs

/-! ### Readers leave suffixes -/

/-- Digits are taken from the front. -/
theorem readHex_suffix {least most : Nat} {cs rest : List Char} {value : Nat}
    (h : readHex least most cs = .ok (value, rest)) : rest <:+ cs := by
  unfold readHex at h
  simp only at h
  split at h
  · cases h
  · cases h
    exact List.drop_suffix _ _

/-- The number of a code point is taken from the front. -/
theorem readCodePoint_suffix {cs rest : List Char} {value : Nat}
    (h : readCodePoint cs = .ok (value, rest)) : rest <:+ cs := by
  unfold readCodePoint at h
  split at h
  · rename_i digits
    split at h
    · rename_i hex
      cases h
      exact ((List.suffix_cons _ _).trans (readHex_suffix hex)).trans (List.suffix_cons _ _)
    · cases h
    · cases h
  · exact readHex_suffix h

/-- An escape is taken from the front. -/
theorem readEscape_suffix {start cs rest : List Char} {e : Element}
    (h : readEscape start cs = .ok (e, rest)) : rest <:+ cs := by
  unfold readEscape at h
  split at h
  · cases h
  · split at h
    · cases h
      exact List.suffix_cons _ _
    · split at h
      · split at h
        · rename_i hex
          cases h
          exact (readHex_suffix hex).trans (List.suffix_cons _ _)
        · cases h
      · split at h
        · split at h
          · rename_i code
            split at h
            · cases h
              exact (readCodePoint_suffix code).trans (List.suffix_cons _ _)
            · cases h
          · cases h
        · cases h

/-- A string is taken from the front. -/
theorem readString_suffix {start done cs rest : List Char} {value : String}
    (h : readString start done cs = .ok (value, rest)) : rest <:+ cs := by
  fun_induction readString start done cs with
  | case1 => cases h
  | case2 =>
    cases h
    exact List.suffix_cons _ _
  | case3 => cases h
  | case4 _ _ _ _ _ ih =>
    exact ((ih h).trans (List.suffix_cons _ _)).trans (List.suffix_cons _ _)
  | case5 => cases h
  | case6 _ _ _ _ _ ih => exact (ih h).trans (List.suffix_cons _ _)

/-- The digits of an integer are taken from the front. -/
theorem readMagnitude_suffix {start cs rest : List Char} {negative : Bool} {base : Nat}
    {isDigit : Char → Bool} {value : Int64}
    (h : readMagnitude start negative base isDigit cs = .ok (value, rest)) : rest <:+ cs := by
  unfold readMagnitude at h
  simp only at h
  split at h
  · cases h
  · split at h
    · cases h
      exact List.dropWhile_suffix _
    · cases h

/-- The part of an integer that follows its sign is taken from the front. -/
theorem readUnsigned_suffix {start cs rest : List Char} {negative : Bool} {value : Int64}
    (h : readUnsigned start negative cs = .ok (value, rest)) : rest <:+ cs := by
  unfold readUnsigned at h
  split at h
  · exact ((readMagnitude_suffix h).trans (List.suffix_cons _ _)).trans (List.suffix_cons _ _)
  · exact ((readMagnitude_suffix h).trans (List.suffix_cons _ _)).trans (List.suffix_cons _ _)
  · exact readMagnitude_suffix h

/-- An integer is taken from the front. -/
theorem readInteger_suffix {cs rest : List Char} {value : Int64}
    (h : readInteger cs = .ok (value, rest)) : rest <:+ cs := by
  unfold readInteger at h
  split at h
  · exact (readUnsigned_suffix h).trans (List.suffix_cons _ _)
  · exact readUnsigned_suffix h

/-- An argument is taken from the front. -/
theorem readArgument_suffix {start cs rest : List Char} {a : Argument}
    (h : readArgument start cs = .ok (a, rest)) : rest <:+ cs := by
  unfold readArgument at h
  split at h
  · cases h
  · split at h
    · split at h
      · rename_i string
        cases h
        exact (readString_suffix string).trans (List.suffix_cons _ _)
      · cases h
    · split at h
      · split at h
        · rename_i integer
          cases h
          exact readInteger_suffix integer
        · cases h
      · cases h

/-- Skipping blanks leaves a suffix. -/
theorem skipBlanks_suffix (cs : List Char) : skipBlanks cs <:+ cs :=
  List.dropWhile_suffix _

/-! ### References -/

/-- Reads one argument or more, up to the closing parenthesis; `start` is the source from the
reference on, and `done` holds the arguments read so far, the last one first. -/
def readArgumentsOnto (start : List Char) (done : List Argument) (cs : List Char) :
    Reading (List Argument) :=
  match _hArg : readArgument start (skipBlanks cs) with
  | .error e => .error e
  | .ok (a, rest) =>
    match _hSep : skipBlanks rest with
    | [] => refuse .referenceNotClosed start
    | c :: after =>
      if c = ',' then readArgumentsOnto start (a :: done) after
      else if c = ')' then .ok ((a :: done).reverse, after)
      else refuse .separatorExpected (c :: after)
  termination_by cs.length
  decreasing_by
    have hTaken := ((readArgument_suffix _hArg).trans (skipBlanks_suffix cs)).length_le
    have hBlanks := (skipBlanks_suffix rest).length_le
    rw [_hSep, List.length_cons] at hBlanks
    omega

/-- Reads the arguments of a call from behind its opening parenthesis. -/
def readArguments (start cs : List Char) : Reading (List Argument) :=
  match skipBlanks cs with
  | ')' :: rest => .ok ([], rest)
  | rest => readArgumentsOnto start [] rest

/-- Names start with a letter of the ASCII alphabet or an underscore. -/
def isNameStart (c : Char) : Bool :=
  c.isAlpha || c == '_'

/-- Names go on with such letters, underscores and digits. -/
def isNamePart (c : Char) : Bool :=
  c.isAlphanum || c == '_'

/-- Reads a name as far as it goes, where one starts. -/
def readName? (cs : List Char) : Option (String × List Char) :=
  match cs with
  | [] => none
  | c :: _ =>
    if isNameStart c then some (String.ofList (cs.takeWhile isNamePart), cs.dropWhile isNamePart)
    else none

/-- Reads the closing brace of a reference that gives the particle `p`. -/
def closeReference (start : List Char) (p : Particle) (cs : List Char) : Reading Element :=
  match cs with
  | [] => refuse .referenceNotClosed start
  | c :: rest =>
    if c = '}' then .ok (.particle p, rest) else refuse .closingBraceExpected cs

/-- Reads a reference from behind its opening brace; `start` is the source from its `$` on. -/
def readReference (start cs : List Char) : Reading Element :=
  match readName? (skipBlanks cs) with
  | none =>
    if (skipBlanks cs).isEmpty then refuse .referenceNotClosed start
    else refuse .nameExpected (skipBlanks cs)
  | some (name, rest) =>
    match skipBlanks rest with
    | '(' :: args =>
      match readArguments start args with
      | .ok (args, rest) => closeReference start (.call name args) (skipBlanks rest)
      | .error e => .error e
    | rest => closeReference start (.variable name) rest

/-! ### Elements -/

/-- Reads the element that starts with `c`. A `$` that no brace follows stands for itself. -/
def readElement (c : Char) (cs : List Char) : Reading Element :=
  if c = '\\' then readEscape (c :: cs) cs
  else if c = '$' then
    match cs with
    | '{' :: rest => readReference (c :: cs) rest
    | _ => .ok (.char c, cs)
  else .ok (.char c, cs)

/-- The arguments of a list are taken from the front. -/
theorem readArgumentsOnto_suffix {start cs rest : List Char} {done args : List Argument}
    (h : readArgumentsOnto start done cs = .ok (args, rest)) : rest <:+ cs := by
  fun_induction readArgumentsOnto start done cs with
  | case1 => cases h
  | case2 => cases h
  | case3 done cs a rest' hArg after hSep ih =>
    have hAfter : after <:+ rest' :=
      (List.suffix_cons _ _).trans (hSep ▸ skipBlanks_suffix rest')
    exact (ih h).trans ((hAfter.trans (readArgument_suffix hArg)).trans (skipBlanks_suffix cs))
  | case4 done cs a rest' hArg after hSep =>
    cases h
    have hAfter : rest <:+ rest' :=
      (List.suffix_cons _ _).trans (hSep ▸ skipBlanks_suffix rest')
    exact (hAfter.trans (readArgument_suffix hArg)).trans (skipBlanks_suffix cs)
  | case5 => cases h

/-- The arguments of a call are taken from the front. -/
theorem readArguments_suffix {start cs rest : List Char} {args : List Argument}
    (h : readArguments start cs = .ok (args, rest)) : rest <:+ cs := by
  unfold readArguments at h
  split at h
  · rename_i blanks
    cases h
    exact (List.suffix_cons _ _).trans (blanks ▸ skipBlanks_suffix cs)
  · exact (readArgumentsOnto_suffix h).trans (skipBlanks_suffix cs)

/-- A name is taken from the front. -/
theorem readName?_suffix {cs rest : List Char} {name : String}
    (h : readName? cs = some (name, rest)) : rest <:+ cs := by
  unfold readName? at h
  split at h
  · cases h
  · split at h
    · cases h
      exact List.dropWhile_suffix _
    · cases h

/-- A closing brace is taken from the front. -/
theorem closeReference_suffix {start cs rest : List Char} {p : Particle} {e : Element}
    (h : closeReference start p cs = .ok (e, rest)) : rest <:+ cs := by
  unfold closeReference at h
  split at h
  · cases h
  · split at h
    · cases h
      exact List.suffix_cons _ _
    · cases h

/-- A reference is taken from the front. -/
theorem readReference_suffix {start cs rest : List Char} {e : Element}
    (h : readReference start cs = .ok (e, rest)) : rest <:+ cs := by
  unfold readReference at h
  split at h
  · split at h <;> cases h
  · rename_i name after hName
    have hAfter : skipBlanks after <:+ cs :=
      ((skipBlanks_suffix after).trans (readName?_suffix hName)).trans (skipBlanks_suffix cs)
    split at h
    · rename_i args hOpen
      split at h
      · rename_i hArgs
        have hInner := (readArguments_suffix hArgs).trans (List.suffix_cons '(' args)
        exact (((closeReference_suffix h).trans (skipBlanks_suffix _)).trans hInner).trans
          (hOpen ▸ hAfter)
      · cases h
    · exact (closeReference_suffix h).trans hAfter

/-- What an element leaves is a suffix of what follows its first character. -/
theorem readElement_suffix {c : Char} {cs rest : List Char} {e : Element}
    (h : readElement c cs = .ok (e, rest)) : rest <:+ cs := by
  unfold readElement at h
  split at h
  · exact readEscape_suffix h
  · split at h
    · split at h
      · exact (readReference_suffix h).trans (List.suffix_cons _ _)
      · cases h
        exact List.suffix_refl _
    · cases h
      exact List.suffix_refl _

/-- Reads elements to the end of the source and puts them after those `done`, which stand in
reverse. -/
def readElementsOnto (done : List Element) : List Char → Except Refusal (List Element)
  | [] => .ok done.reverse
  | c :: cs =>
    match _hElement : readElement c cs with
    | .error e => .error e
    | .ok (e, rest) => readElementsOnto (e :: done) rest
  termination_by cs => cs.length
  decreasing_by
    have := (readElement_suffix _hElement).length_le
    simp only [List.length_cons]
    omega

/-- The elements of a source, in order. -/
def readElements (cs : List Char) : Except Refusal (List Element) :=
  readElementsOnto [] cs

/-! ### Particles -/

/-- The text particle of a run of characters, of which the last one stands first; there is none
for an empty run. -/
def textOf (run : List Char) : List Particle :=
  if run.isEmpty then [] else [.text (String.ofList run.reverse)]

/-- The particles of a sequence of elements that follows the characters of `run`, of which the
last one stands first. -/
def Particle.ofElementsAfter (run : List Char) : List Element → List Particle
  | [] => textOf run
  | .char c :: elements => ofElementsAfter (c :: run) elements
  | .particle p :: elements => textOf run ++ p :: ofElementsAfter [] elements

/-- The particles of a sequence of elements: each maximal run of characters makes one text. -/
def Particle.ofElements (elements : List Element) : List Particle :=
  ofElementsAfter [] elements

/-! ### Templates -/

/-- Where a refusal lies in its source: the number of bytes before the part that it carries. -/
def Refusal.toSyntaxError (source : List Char) (r : Refusal) : SyntaxError :=
  ⟨r.fault, Utf8.length source - Utf8.length r.rest⟩

/-- The template that a source spells. -/
def Template.parse (source : String) : Except SyntaxError Template :=
  match readElements source.toList with
  | .ok elements => .ok ⟨Particle.ofElements elements⟩
  | .error r => .error (r.toSyntaxError source.toList)

end FrameConsole
