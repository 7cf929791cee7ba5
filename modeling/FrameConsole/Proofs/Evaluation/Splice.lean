import FrameConsole.Proofs.Evaluation.Meaning
import FrameConsole.Proofs.Template.Concatenation
import FrameConsole.Proofs.Template.RoundTrip

/-!
# Spliced data stays data

What a variable holds or a function gives is never read as a template. A reference to a variable can
be replaced by the bytes that the variable holds, each written as an escape, whatever these bytes
are and whatever stands around the reference. A string between quotes reaches the function as it was
before it was escaped, and what the function gives stands in the bytes as it is.

One thing has to be kept in mind: if nothing is put in place of a reference, then what stands before
it and behind it meet, and a `$` may meet a brace.

## Main definitions

* `FrameConsole.Grammar.ByteEscapes` — bytes written as escapes.
* `FrameConsole.escapedText` — a text as a source.
* `FrameConsole.Value.content?` — the bytes that a reference to a value stands for.
* `FrameConsole.variableSource`, `FrameConsole.callSource` — references.

## Main results

* `FrameConsole.Scope.evaluate_byteEscapes`, `FrameConsole.Scope.evaluate_escapedText` — bytes and
  texts as sources give themselves.
* `FrameConsole.Scope.evaluate_between` — a source between two others gives its own bytes there.
* `FrameConsole.Scope.evaluate_splice` — spliced data is never read as a template.
-/

namespace FrameConsole

open Grammar

/-! ## Bytes as escapes -/

/-- A sequence of bytes, each written as a byte escape with two digits of either case. -/
inductive Grammar.ByteEscapes : List Char → Bytes → Prop
  /-- No bytes. -/
  | nil : ByteEscapes [] []
  /-- A byte and those behind it. -/
  | cons {digits word : List Char} {b : UInt8} {bytes : Bytes} (two : digits.length = 2)
      (spelled : Numeral IsHexDigit 16 digits b.toNat) (rest : ByteEscapes word bytes) :
      ByteEscapes ('\\' :: 'x' :: digits ++ word) (b :: bytes)

/-- The elements of bytes written as escapes are these bytes. -/
lemma Grammar.ByteEscapes.elements {word : List Char} {bytes : Bytes} (h : ByteEscapes word bytes) :
    Elements word (bytes.map fun b => .particle (.byte b)) := by
  induction h with
  | nil => exact .nil
  | cons two spelled _ ih => exact .escape (.byte two spelled) ih

/-- The written forms of bytes one after another are escapes of these bytes. -/
lemma byteEscapes_render (bytes : Bytes) :
    ByteEscapes (bytes.flatMap fun b => Particle.render (.byte b)) bytes := by
  induction bytes with
  | nil => exact .nil
  | cons b bytes ih => exact .cons rfl (numeral_encodeByte b) ih

/-- Bytes that stand on their own are not merged. -/
lemma merged_bytes (bytes : Bytes) :
    Merged (bytes.map fun b => .particle (.byte b)) (bytes.map .byte) := by
  induction bytes with
  | nil => exact .nil
  | cons b bytes ih => exact .particle ih

/-- Bytes that stand on their own give themselves. -/
lemma Template.eval_bytes (scope : Scope) (bytes : Bytes) :
    Template.eval scope ⟨bytes.map .byte⟩ = .ok bytes := by
  induction bytes with
  | nil => rfl
  | cons b bytes ih =>
    rw [List.map_cons, Template.eval_cons, ih]
    rfl

/-- Bytes written as escapes are read as these bytes. -/
lemma Template.parse_byteEscapes {source : String} {bytes : Bytes}
    (h : ByteEscapes source.toList bytes) : Template.parse source = .ok ⟨bytes.map .byte⟩ :=
  Template.parse_of_elements h.elements (merged_bytes bytes)

/-- A source of bytes written as escapes gives these bytes in every scope. -/
lemma Scope.evaluate_byteEscapes (scope : Scope) {source : String} {bytes : Bytes}
    (h : ByteEscapes source.toList bytes) : scope.evaluate source = .ok bytes := by
  rw [Scope.evaluate, Template.parse_byteEscapes h]
  simp only [Template.eval_bytes]
  rfl

/-- No `$` stands in bytes written as escapes. -/
lemma Grammar.ByteEscapes.dollar_notMem {word : List Char} {bytes : Bytes}
    (h : ByteEscapes word bytes) : '$' ∉ word := by
  induction h with
  | nil => simp
  | @cons digits word b bytes two spelled _ ih =>
    have all := (numeral_hex_iff.1 spelled).1
    have free : '$' ∉ digits := fun mem => absurd (all '$' mem) (by decide)
    simp [free, ih]

/-- In front of bytes written as escapes stands a backslash, unless there are none. -/
lemma Grammar.ByteEscapes.eq_nil_of_head {word rest : List Char} {bytes : Bytes}
    (h : ByteEscapes word bytes) (brace : (word ++ rest).head? = some '{') :
    bytes = [] ∧ rest.head? = some '{' := by
  cases h with
  | nil => exact ⟨rfl, brace⟩
  | cons => cases brace

/-! ## Texts as sources -/

/-- A text as a source, with its backslashes and dollar signs escaped. -/
def escapedText (text : String) : String :=
  String.ofList (text.toList.flatMap escapeText)

/-- An escaped text gives the bytes of the text in every scope. -/
lemma Scope.evaluate_escapedText (scope : Scope) (text : String) :
    scope.evaluate (escapedText text) = .ok (Utf8.encode text) := by
  by_cases empty : text = ""
  · have parsed : Template.parse (escapedText text) = .ok ⟨[]⟩ := by
      rw [empty]
      exact Template.canonical_nil.parse_render
    rw [Scope.evaluate, parsed, empty]
    rfl
  · have canonical : Template.Canonical ⟨[.text text]⟩ :=
      Template.canonical_cons_iff.2 ⟨empty, by simp, Template.canonical_nil⟩
    have written : Template.render ⟨[.text text]⟩ = escapedText text := by
      simp [Template.render, Particle.render, escapedText]
    rw [Scope.evaluate, ← written, canonical.parse_render]
    simp only [Template.eval_singleton]
    rfl

/-! ## References -/

/-- The bytes that a reference to a value stands for: the UTF-8 form of a text, and bytes as they
are. -/
def Value.content? : Value → Option Bytes
  | .text value => some value.toUTF8.data.toList
  | .binary value => some value
  | .function _ => none

/-- The source that refers to a variable. -/
def variableSource (name : String) : String :=
  "$\x7b" ++ name ++ "\x7d"

/-- The source that calls a function with a string, whose quotes and backslashes are escaped. -/
def callSource (name argument : String) : String :=
  "$\x7b" ++ name ++ "(\"" ++ String.ofList (argument.toList.flatMap escapeString) ++ "\")\x7d"

/-- The source that refers to a variable is the written form of that reference. -/
lemma Template.parse_variableSource {name : String} (named : IsName name) :
    Template.parse (variableSource name) = .ok ⟨[.variable name]⟩ := by
  have canonical : Template.Canonical ⟨[.variable name]⟩ :=
    Template.canonical_cons_iff.2 ⟨named, by simp, Template.canonical_nil⟩
  have written : Template.render ⟨[.variable name]⟩ = variableSource name := by
    rw [← String.toList_inj]
    simp [Template.render, Particle.render, variableSource]
  rw [← written]
  exact canonical.parse_render

/-- The source that calls a function is the written form of that call. -/
lemma Template.parse_callSource {name : String} (named : IsName name) (argument : String) :
    Template.parse (callSource name argument) = .ok ⟨[.call name [.string argument]]⟩ := by
  have arguments : ∀ a ∈ [Argument.string argument], a.Canonical := by
    simp [Argument.Canonical]
  have canonical : Template.Canonical ⟨[.call name [.string argument]]⟩ :=
    Template.canonical_cons_iff.2 ⟨⟨named, arguments⟩, by simp, Template.canonical_nil⟩
  have written : Template.render ⟨[.call name [.string argument]]⟩ = callSource name argument := by
    rw [← String.toList_inj]
    simp [Template.render, Particle.render, renderArguments, Argument.render, callSource]
  rw [← written]
  exact canonical.parse_render

/-- A source of one particle gives what the particle evaluates to. -/
lemma Scope.evaluate_singleton (scope : Scope) {source : String} {p : Particle}
    (parsed : Template.parse source = .ok ⟨[p]⟩) :
    scope.evaluate source = (p.eval scope).mapError .evaluation := by
  rw [Scope.evaluate, parsed]
  exact congrArg (Except.mapError ConsoleError.evaluation) (Template.eval_singleton scope p)

/-- A reference to a variable gives the bytes of its value. -/
lemma Scope.evaluate_variableSource (scope : Scope) {name : String} (named : IsName name)
    {value : Value} (bound : scope.value? name = some value) {bytes : Bytes}
    (content : value.content? = some bytes) :
    scope.evaluate (variableSource name) = .ok bytes := by
  have gives : (Particle.variable name).eval scope = .ok bytes := by
    cases value with
    | text value =>
      obtain rfl := Option.some.inj content
      exact (Particle.Means.textVariable bound).eval_eq
    | binary value =>
      obtain rfl := Option.some.inj content
      exact (Particle.Means.binaryVariable bound).eval_eq
    | function f => cases content
  rw [scope.evaluate_singleton (Template.parse_variableSource named), gives]
  rfl

/-- A call gives what the function gives for the string as it was before it was escaped. -/
lemma Scope.evaluate_callSource (scope : Scope) {name : String} (named : IsName name)
    {f : FunctionValue} (bound : scope.value? name = some (.function f)) (argument : String) :
    scope.evaluate (callSource name argument) =
      match f.body scope.now [.string argument] with
      | .error cause => .error (.evaluation (.function cause))
      | .ok output => .ok output.bytes := by
  rw [scope.evaluate_singleton (Template.parse_callSource named argument), Particle.eval,
    Scope.call, bound]
  simp only
  cases f.body scope.now [.string argument] <;> rfl

/-! ## Sources between others -/

/-- A source between two others gives its own bytes between theirs, unless a `$` meets a brace at
one of its ends. -/
lemma Scope.evaluate_between (scope : Scope) {a m b : String} {first middle last : Template}
    (parsed : Template.parse a = .ok first) (parsed' : Template.parse m = .ok middle)
    (parsed'' : Template.parse b = .ok last)
    (seam : ¬(EndsInDollar a.toList ∧ (m ++ b).toList.head? = some '{'))
    (seam' : ¬(EndsInDollar m.toList ∧ b.toList.head? = some '{')) :
    scope.evaluate (a ++ m ++ b) = do
      let front ← scope.evaluate a
      let inside ← scope.evaluate m
      let back ← scope.evaluate b
      return front ++ inside ++ back := by
  have tail := Template.parse_append_of_ok parsed' seam' parsed''
  have whole := Template.parse_append_of_ok parsed seam tail
  rw [String.append_assoc, scope.evaluate_append parsed tail whole,
    scope.evaluate_append parsed' parsed'' tail]
  simp only [bind_assoc, pure_bind, List.append_assoc]

/-- A reference between two sources gives its own bytes between theirs: it starts with a `$` and ends
with a brace. -/
lemma Scope.evaluate_reference_between (scope : Scope) {a m b : String}
    {first middle last : Template} (parsed : Template.parse a = .ok first)
    (parsed' : Template.parse m = .ok middle) (parsed'' : Template.parse b = .ok last)
    (opened : m.toList.head? = some '$') (closed : m.toList.getLast? = some '}') :
    scope.evaluate (a ++ m ++ b) = do
      let front ← scope.evaluate a
      let inside ← scope.evaluate m
      let back ← scope.evaluate b
      return front ++ inside ++ back := by
  have seam : ¬(EndsInDollar a.toList ∧ (m ++ b).toList.head? = some '{') := by
    simp [opened]
  have seam' : ¬(EndsInDollar m.toList ∧ b.toList.head? = some '{') :=
    fun h => not_endsInDollar (by simp [closed]) h.1
  exact scope.evaluate_between parsed parsed' parsed'' seam seam'

/-- A reference to a variable between two sources gives the bytes of its value between theirs. -/
lemma Scope.evaluate_variable_between (scope : Scope) {a b : String} {first last : Template}
    (parsed : Template.parse a = .ok first) (parsed' : Template.parse b = .ok last)
    {name : String} (named : IsName name) {value : Value} (bound : scope.value? name = some value)
    {bytes : Bytes} (content : value.content? = some bytes) :
    scope.evaluate (a ++ variableSource name ++ b) = do
      let front ← scope.evaluate a
      let back ← scope.evaluate b
      return front ++ bytes ++ back := by
  have closed : (variableSource name).toList.getLast? = some '}' := by
    rw [variableSource, String.toList_append, List.getLast?_append]
    rfl
  rw [scope.evaluate_reference_between parsed (Template.parse_variableSource named) parsed'
    (by simp [variableSource]) closed, scope.evaluate_variableSource named bound content]
  rfl

/-- A call between two sources gives its own bytes between theirs. -/
lemma Scope.evaluate_call_between (scope : Scope) {a b : String} {first last : Template}
    (parsed : Template.parse a = .ok first) (parsed' : Template.parse b = .ok last)
    {name : String} (named : IsName name) (argument : String) :
    scope.evaluate (a ++ callSource name argument ++ b) = do
      let front ← scope.evaluate a
      let inside ← scope.evaluate (callSource name argument)
      let back ← scope.evaluate b
      return front ++ inside ++ back := by
  have closed : (callSource name argument).toList.getLast? = some '}' := by
    rw [callSource, String.toList_append, List.getLast?_append]
    rfl
  exact scope.evaluate_reference_between parsed (Template.parse_callSource named argument) parsed'
    (by simp [callSource]) closed

/-- Bytes written as escapes between two sources stand between their bytes, unless there are none
and a `$` meets a brace. -/
lemma Scope.evaluate_byteEscapes_between (scope : Scope) {a b : String} {first last : Template}
    (parsed : Template.parse a = .ok first) (parsed' : Template.parse b = .ok last)
    {source : String} {bytes : Bytes} (spelled : ByteEscapes source.toList bytes)
    (apart : ¬(bytes = [] ∧ EndsInDollar a.toList ∧ b.toList.head? = some '{')) :
    scope.evaluate (a ++ source ++ b) = do
      let front ← scope.evaluate a
      let back ← scope.evaluate b
      return front ++ bytes ++ back := by
  have seam : ¬(EndsInDollar a.toList ∧ (source ++ b).toList.head? = some '{') := by
    -- An escape starts with a backslash, so the brace can only be the one at the start of `b`.
    rintro ⟨dollar, brace⟩
    rw [String.toList_append] at brace
    obtain ⟨empty, brace⟩ := spelled.eq_nil_of_head brace
    exact apart ⟨empty, dollar, brace⟩
  have seam' : ¬(EndsInDollar source.toList ∧ b.toList.head? = some '{') := by
    rintro ⟨dollar, -⟩
    exact not_endsInDollar (fun h => spelled.dollar_notMem (List.mem_of_getLast? h)) dollar
  rw [scope.evaluate_between parsed (Template.parse_byteEscapes spelled) parsed' seam seam',
    scope.evaluate_byteEscapes spelled]
  rfl

/-- **Spliced data is never read as a template**: between any two sources, a reference to a variable
comes to the same as the bytes of its value written as escapes, with the one exception that no bytes
at all let a `$` meet a brace. A call with a string gives the function that string and nothing else,
and the bytes of what the function gives, or its failure, take the place of the call. -/
theorem Scope.evaluate_splice (scope : Scope) {a b : String} {first last : Template}
    (parsed : Template.parse a = .ok first) (parsed' : Template.parse b = .ok last) :
    (∀ (name : String) (value : Value) (bytes : Bytes) (spelled : String), IsName name →
        scope.value? name = some value → value.content? = some bytes →
        ByteEscapes spelled.toList bytes →
        ¬(bytes = [] ∧ EndsInDollar a.toList ∧ b.toList.head? = some '{') →
        scope.evaluate (a ++ variableSource name ++ b) = scope.evaluate (a ++ spelled ++ b)) ∧
      ∀ (name argument : String) (f : FunctionValue), IsName name →
        scope.value? name = some (.function f) →
        (scope.evaluate (callSource name argument) =
          match f.body scope.now [.string argument] with
          | .error cause => .error (.evaluation (.function cause))
          | .ok output => .ok output.bytes) ∧
        scope.evaluate (a ++ callSource name argument ++ b) = do
          let front ← scope.evaluate a
          let inside ← scope.evaluate (callSource name argument)
          let back ← scope.evaluate b
          return front ++ inside ++ back := by
  constructor
  · intro name value bytes spelled named bound content escapes apart
    rw [scope.evaluate_variable_between parsed parsed' named bound content,
      scope.evaluate_byteEscapes_between parsed parsed' escapes apart]
  · intro name argument f named bound
    exact ⟨scope.evaluate_callSource named bound argument,
      scope.evaluate_call_between parsed parsed' named argument⟩

/-- A variable whose text looks like a reference to the same variable, between a `$` and a brace,
and a function that gives back a string with such a text, a quote and a backslash. -/
theorem Scope.evaluate_splice_lookalike :
    let echo : FunctionBody := fun _ args => match args with
      | [.string argument] => .ok (.text argument)
      | _ => .error (.arityMismatch "echo" 1 1 args.length)
    let scope : Scope := ⟨0, fun name =>
      if name = "v" then some (.text "$\x7bv\x7d")
      else if name = "f" then some (.function ⟨"echo", 0, echo⟩)
      else none⟩
    ByteEscapes "\\x24\\x7b\\x76\\x7d".toList [0x24, 0x7b, 0x76, 0x7d] ∧
      scope.evaluate ("$" ++ variableSource "v" ++ "\x7bv\x7d") =
        scope.evaluate ("$" ++ "\\x24\\x7b\\x76\\x7d" ++ "\x7bv\x7d") ∧
      scope.evaluate (callSource "f" "$\x7bv\x7d\"\\") = .ok (Utf8.encode "$\x7bv\x7d\"\\") := by
  intro echo scope
  have parsed : Template.parse "$" = .ok ⟨[.text "$"]⟩ := by cbv
  have parsed' : Template.parse "\x7bv\x7d" = .ok ⟨[.text "\x7bv\x7d"]⟩ := by cbv
  have named : IsName "v" := ⟨'v', [], by decide, by decide, by simp⟩
  have named' : IsName "f" := ⟨'f', [], by decide, by decide, by simp⟩
  have escapes : ByteEscapes "\\x24\\x7b\\x76\\x7d".toList [0x24, 0x7b, 0x76, 0x7d] := by
    have written : "\\x24\\x7b\\x76\\x7d".toList =
        [0x24, 0x7b, 0x76, 0x7d].flatMap fun b => Particle.render (.byte b) := by decide
    rw [written]
    exact byteEscapes_render _
  obtain ⟨references, calls⟩ := scope.evaluate_splice parsed parsed'
  refine ⟨escapes, ?_, ?_⟩
  · exact references "v" (.text "$\x7bv\x7d") _ _ named rfl (by decide) escapes (by simp)
  · exact (calls "f" "$\x7bv\x7d\"\\" ⟨"echo", 0, echo⟩ named' rfl).1

end FrameConsole
