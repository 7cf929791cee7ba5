import FrameConsole.Proofs.Text.Numeral
import FrameConsole.Template.Reader
import FrameConsole.Template.Written

/-!
# Grammar of templates

Which texts are templates and what they spell, as inductive relations between words and what they
stand for. No order of reading is laid down: a word stands for something if it can be cut into
parts that stand for its parts. The only look at what follows a word is the one that the syntax
itself asks for, behind a `$` that stands for itself.

## Main definitions

* `FrameConsole.Grammar.Literal` — the arguments of calls.
* `FrameConsole.Grammar.Reference` — variables and calls, from behind the opening brace.
* `FrameConsole.Grammar.Escape` — what may stand behind a backslash.
* `FrameConsole.Grammar.Elements` — sequences of elements.
* `FrameConsole.Grammar.EndsInDollar` — the sources behind which a brace would be read differently.
* `FrameConsole.Grammar.Merged` — the particles of a sequence of elements.
* `FrameConsole.Grammar.Derives` — a text spells a template.
-/

namespace FrameConsole.Grammar

/-! ## Literals -/

/-- A run of blanks, which may be empty. -/
def Blanks (word : List Char) : Prop :=
  ∀ c ∈ word, isBlank c = true

/-- No blanks are a run of blanks. -/
lemma Blanks.nil : Blanks [] := by
  simp [Blanks]

/-- A space is a run of blanks. -/
lemma Blanks.space : Blanks [' '] := by
  intro c mem
  rw [List.mem_singleton.1 mem]
  decide

/-- Digits that spell a magnitude: decimal ones, or hexadecimal ones behind `0x` or `0X`. -/
inductive Magnitude : List Char → ℕ → Prop
  /-- Decimal digits. -/
  | decimal {digits : List Char} {n : ℕ} (nonempty : digits ≠ [])
      (spelled : Numeral IsDecimalDigit 10 digits n) : Magnitude digits n
  /-- Hexadecimal digits. -/
  | hex {x : Char} {digits : List Char} {n : ℕ} (marker : x = 'x' ∨ x = 'X')
      (nonempty : digits ≠ []) (spelled : Numeral IsHexDigit 16 digits n) : Magnitude ('0' :: x :: digits) n

/-- An integer: a magnitude with a minus sign or without one. -/
inductive Integer : List Char → ℤ → Prop
  /-- A magnitude of its own. -/
  | plain {word : List Char} {n : ℕ} (magnitude : Magnitude word n) : Integer word n
  /-- A magnitude behind a minus sign. -/
  | minus {word : List Char} {n : ℕ} (magnitude : Magnitude word n) : Integer ('-' :: word) (-n)

/-- What stands between the quotes of a string, and the characters that it stands for. -/
inductive StringBody : List Char → List Char → Prop
  /-- Nothing. -/
  | nil : StringBody [] []
  /-- A character that is neither a quote nor a backslash. -/
  | plain {c : Char} {word value : List Char} (quote : c ≠ '"') (backslash : c ≠ '\\')
      (rest : StringBody word value) : StringBody (c :: word) (c :: value)
  /-- A quote or a backslash behind a backslash. -/
  | escaped {c : Char} {word value : List Char} (special : c = '"' ∨ c = '\\')
      (rest : StringBody word value) : StringBody ('\\' :: c :: word) (c :: value)

/-- An argument: an integer whose magnitude is below the 63rd power of two, or a string. -/
inductive Literal : List Char → Argument → Prop
  /-- An integer. -/
  | integer {word : List Char} {value : Int64} (spelled : Integer word value.toInt)
      (range : value.toInt.natAbs ≤ 2 ^ 63 - 1) : Literal word (.integer value)
  /-- A string. -/
  | string {word value : List Char} (spelled : StringBody word value) :
      Literal ('"' :: word ++ ['"']) (.string (String.ofList value))

/-! ## References -/

/-- One argument or more with commas between them. Blanks may follow an argument and a comma. -/
inductive ArgumentRow : List Char → List Argument → Prop
  /-- The last argument. -/
  | last {word blanks : List Char} {a : Argument} (literal : Literal word a)
      (after : Blanks blanks) : ArgumentRow (word ++ blanks) [a]
  /-- An argument and those behind its comma. -/
  | more {word blanks blanks' row : List Char} {a : Argument}
      {args : List Argument} (literal : Literal word a) (after : Blanks blanks)
      (before : Blanks blanks') (rest : ArgumentRow row args) :
      ArgumentRow (word ++ blanks ++ ',' :: blanks' ++ row) (a :: args)

/-- What stands between the parentheses of a call. -/
inductive ArgumentList : List Char → List Argument → Prop
  /-- No arguments. -/
  | empty {blanks : List Char} (inside : Blanks blanks) : ArgumentList blanks []
  /-- Some arguments. -/
  | row {blanks row : List Char} {args : List Argument} (before : Blanks blanks)
      (rest : ArgumentRow row args) : ArgumentList (blanks ++ row) args

/-- What stands behind the opening brace of a reference, the closing brace included. -/
inductive Reference : List Char → Particle → Prop
  /-- A bare name, which refers to a variable. -/
  | bare {blanks₁ blanks₂ : List Char} {name : String} (before : Blanks blanks₁)
      (named : IsName name) (after : Blanks blanks₂) :
      Reference (blanks₁ ++ name.toList ++ blanks₂ ++ ['}']) (.variable name)
  /-- The name of a function and its arguments. -/
  | call {blanks₁ blanks₂ inner blanks₃ : List Char} {name : String}
      {args : List Argument} (before : Blanks blanks₁) (named : IsName name)
      (after : Blanks blanks₂) (arguments : ArgumentList inner args) (closing : Blanks blanks₃) :
      Reference (blanks₁ ++ name.toList ++ blanks₂ ++ '(' :: inner ++ ')' :: blanks₃ ++ ['}'])
        (.call name args)

/-! ## Elements -/

/-- What stands behind a backslash, and the element that it makes with it. -/
inductive Escape : List Char → Element → Prop
  /-- A backslash. -/
  | backslash : Escape ['\\'] (.char '\\')
  /-- A dollar sign. -/
  | dollar : Escape ['$'] (.char '$')
  /-- A line feed. -/
  | lineFeed : Escape ['n'] (.char '\n')
  /-- A carriage return. -/
  | carriageReturn : Escape ['r'] (.char '\r')
  /-- A tabulator. -/
  | tab : Escape ['t'] (.char '\t')
  /-- The null character. -/
  | null : Escape ['0'] (.char '\x00')
  /-- A byte by two digits. -/
  | byte {digits : List Char} {b : UInt8} (two : digits.length = 2)
      (spelled : Numeral IsHexDigit 16 digits b.toNat) :
      Escape ('x' :: digits) (.particle (.byte b))
  /-- A code point by four digits. -/
  | four {digits : List Char} {c : Char} (four : digits.length = 4)
      (spelled : Numeral IsHexDigit 16 digits c.toNat) :
      Escape ('u' :: digits) (.particle (.codepoint c))
  /-- A code point by one to six digits between braces. -/
  | braces {digits : List Char} {c : Char} (nonempty : 1 ≤ digits.length) (six : digits.length ≤ 6)
      (spelled : Numeral IsHexDigit 16 digits c.toNat) :
      Escape ('u' :: '{' :: digits ++ ['}']) (.particle (.codepoint c))

/-- A text is a sequence of elements. -/
inductive Elements : List Char → List Element → Prop
  /-- No elements. -/
  | nil : Elements [] []
  /-- A character that stands for itself. No backslash does, and a `$` does where no opening brace
  follows it. -/
  | literal {c : Char} {rest : List Char} {es : List Element} (backslash : c ≠ '\\')
      (dollar : c = '$' → rest.head? ≠ some '{') (elements : Elements rest es) :
      Elements (c :: rest) (.char c :: es)
  /-- A backslash and what it escapes. -/
  | escape {word rest : List Char} {e : Element} {es : List Element} (escaped : Escape word e)
      (elements : Elements rest es) : Elements ('\\' :: word ++ rest) (e :: es)
  /-- A reference. -/
  | reference {word rest : List Char} {p : Particle} {es : List Element}
      (referred : Reference word p) (elements : Elements rest es) :
      Elements ('$' :: '{' :: word ++ rest) (.particle p :: es)

/-- The last element of a source is a `$` that stands for itself: what stands before it is a
sequence of elements on its own. -/
def EndsInDollar (source : List Char) : Prop :=
  ∃ before es, source = before ++ ['$'] ∧ Elements before es

/-! ## Templates -/

/-- The particles of a sequence of elements: those that stand on their own in their order, and one
text for each maximal run of characters between them. -/
inductive Merged : List Element → List Particle → Prop
  /-- No elements. -/
  | nil : Merged [] []
  /-- A particle that stands on its own. -/
  | particle {p : Particle} {es : List Element} {ps : List Particle} (rest : Merged es ps) :
      Merged (.particle p :: es) (p :: ps)
  /-- A run of characters. No character follows it. -/
  | run {cs : List Char} {es : List Element} {ps : List Particle} (nonempty : cs ≠ [])
      (maximal : ∀ c, es.head? ≠ some (.char c)) (rest : Merged es ps) :
      Merged (cs.map .char ++ es) (.text (String.ofList cs) :: ps)

/-- A text spells a template. -/
def Derives (source : List Char) (t : Template) : Prop :=
  ∃ elements, Elements source elements ∧ Merged elements t.particles

end FrameConsole.Grammar
