import FrameConsole.Proofs.Bindings.Changes
import FrameConsole.Proofs.Commands.Payload
import FrameConsole.Proofs.Program.Batch
import FrameConsole.Proofs.Text.HexPairs

/-!
# Variables given as arguments

The way of a variable from the arguments of the program to the queue of a session. An assignment is cut
at its first equals sign. Assignments of texts come before assignments of bytes, whatever their order
among the arguments, and behind the four built-in functions; a later definition of a name takes the
place of an earlier one. Bytes are given by an even number of digits of either case, and the program
ends before it runs any line if some are not. A reference to a variable sends exactly the bytes given.

## Main definitions

* `FrameConsole.Assigns` — arguments, and the assignments and lines in them.
* `FrameConsole.Decoded` — digits and the bytes that they stand for, under one name.
* `FrameConsole.Program.prelude` — the built-in functions under their names.
* `FrameConsole.Program.definitions` — all definitions in the order in which they are made.

## Main results

* `FrameConsole.readAssignment_eq_ok_iff` — where an assignment is cut.
* `FrameConsole.Assigns.ofArguments_eq` — the options that such arguments come to.
* `FrameConsole.Program.varsOf_eq_ok_iff` — the variables of a run.
* `FrameConsole.Program.varsOf_eq_error` — the first wrong digits are reported.
* `FrameConsole.Program.bindings_varsOf` — the names and values of a run.
* `FrameConsole.Program.launch_assignments` — from the arguments to the queue.
-/

namespace FrameConsole

/-! ## Assignments -/

/-- What stands before the first equals sign of a text, and what stands from there on. -/
lemma cut_at_equals {front : List Char} (free : '=' ∉ front) (behind : List Char) :
    (front ++ '=' :: behind).takeWhile (· ≠ '=') = front ∧
      (front ++ '=' :: behind).dropWhile (· ≠ '=') = '=' :: behind := by
  have other : ∀ c ∈ front, decide (c ≠ '=') = true :=
    fun c mem => decide_eq_true fun equals => free (equals ▸ mem)
  have stop : StopsAt (· ≠ '=') ('=' :: behind) := by
    rintro c ⟨⟩
    decide
  exact ⟨takeWhile_run other stop, dropWhile_run other stop⟩

/-- An assignment is cut at its first equals sign, and has a name before it. -/
lemma readAssignment_eq_ok_iff {raw name value : String} :
    readAssignment raw = .ok (name, value) ↔
      raw = name ++ "=" ++ value ∧ name ≠ "" ∧ '=' ∉ name.toList := by
  constructor
  · intro read
    have whole : raw.toList.takeWhile (· ≠ '=') ++ raw.toList.dropWhile (· ≠ '=') = raw.toList :=
      List.takeWhile_append_dropWhile
    have free : '=' ∉ raw.toList.takeWhile (· ≠ '=') := fun mem => by
      simpa using List.mem_takeWhile_imp mem
    have sign := List.head?_dropWhile_not (· ≠ '=') raw.toList
    unfold readAssignment at read
    generalize raw.toList.takeWhile (· ≠ '=') = front at read whole free
    generalize raw.toList.dropWhile (· ≠ '=') = back at read whole sign
    cases back with
    | nil => cases read
    | cons c content =>
      obtain rfl : c = '=' := by simpa using sign
      cases front with
      | nil => cases read
      | cons d front =>
        cases read
        refine ⟨?_, ?_, by rwa [String.toList_ofList]⟩
        · rw [← String.toList_inj, ← whole]
          simp
        · intro empty
          replace empty := congrArg String.toList empty
          simp at empty
  · rintro ⟨rfl, nonempty, free⟩
    obtain ⟨front, back⟩ := cut_at_equals free value.toList
    have written : (name ++ "=" ++ value).toList = name.toList ++ '=' :: value.toList := by simp
    unfold readAssignment
    rw [written, front, back]
    simp only
    split
    · rename_i empty
      exact absurd (String.toList_eq_nil_iff.1 empty) nonempty
    · rw [String.ofList_toList, String.ofList_toList]

/-- Arguments that define variables and give lines: the names and texts of the one kind of assignments,
the names and digits of the other, and the lines, all in their order. -/
inductive Assigns :
    List String → List (String × String) → List (String × String) → List String → Prop
  /-- No arguments. -/
  | nil : Assigns [] [] [] []
  /-- An assignment of a text. -/
  | text {raw name value : String} {arguments lines : List String}
      {texts binaries : List (String × String)} (read : readAssignment raw = .ok (name, value))
      (rest : Assigns arguments texts binaries lines) :
      Assigns (("--var=" ++ raw) :: arguments) ((name, value) :: texts) binaries lines
  /-- An assignment of bytes. -/
  | binary {raw name digits : String} {arguments lines : List String}
      {texts binaries : List (String × String)} (read : readAssignment raw = .ok (name, digits))
      (rest : Assigns arguments texts binaries lines) :
      Assigns (("--bytes=" ++ raw) :: arguments) texts ((name, digits) :: binaries) lines
  /-- A line to run. -/
  | line (line : String) {arguments lines : List String} {texts binaries : List (String × String)}
      (rest : Assigns arguments texts binaries lines) :
      Assigns (("--eval=" ++ line) :: arguments) texts binaries (line :: lines)

/-- An option with its value behind an equals sign is taken for what it is. -/
lemma Word.ofArgument_long {argument word value : String} (free : '=' ∉ word.toList)
    (written : argument.toList = '-' :: '-' :: (word.toList ++ '=' :: value.toList)) :
    Word.ofArgument argument = .long word (some value) := by
  obtain ⟨front, back⟩ := cut_at_equals free value.toList
  obtain ⟨c, cs, starts⟩ : ∃ c cs, word.toList ++ '=' :: value.toList = c :: cs :=
    List.exists_cons_of_ne_nil (by simp)
  unfold Word.ofArgument
  rw [starts] at written front back
  rw [written]
  show Word.long (String.ofList ((c :: cs).takeWhile (· ≠ '='))) _ = _
  rw [front, back]
  simp only [String.ofList_toList]

/-- An option with its value behind an equals sign is added where no other option is pending. -/
lemma Request.ofArgumentsAfter_option (o : Options) {argument value : String} {name : OptionName}
    (written : argument.toList = '-' :: '-' :: (name.word.toList ++ '=' :: value.toList))
    (arguments : List String) {o' : Options} (added : o.add name value = .ok o') :
    ofArgumentsAfter o .nothing (argument :: arguments) = ofArgumentsAfter o' .nothing arguments := by
  have free : '=' ∉ name.word.toList := by cases name <;> decide
  have known : OptionName.ofWord? name.word = some name := by cases name <;> rfl
  rw [ofArgumentsAfter.eq_def]
  simp only [Word.ofArgument_long free written, known, Pending.settle, added]

/-- Such arguments come to their assignments and lines, behind those that were given before.

**Proof sketch.** Induction on the arguments. Each of them adds one entry to one of the lists, and may be
given again. -/
lemma Assigns.ofArgumentsAfter_eq {arguments lines : List String}
    {texts binaries : List (String × String)} (h : Assigns arguments texts binaries lines)
    (o : Options) :
    Request.ofArgumentsAfter o .nothing arguments =
      .ok (.run { o with
        textVariables := o.textVariables ++ texts
        binaryVariables := o.binaryVariables ++ binaries
        lines := o.lines ++ lines }) := by
  induction h generalizing o with
  | nil => simp [Request.ofArgumentsAfter, Pending.settle, Except.map]
  | @text raw name value arguments lines texts binaries read rest ih =>
    have added : o.add .textVariable raw =
        .ok { o with textVariables := o.textVariables ++ [(name, value)] } := by
      simp [Options.add, Options.addBy, OptionName.isRepeatable, read]
    rw [Request.ofArgumentsAfter_option o (by simp [OptionName.word]) arguments added, ih]
    simp
  | @binary raw name digits arguments lines texts binaries read rest ih =>
    have added : o.add .binaryVariable raw =
        .ok { o with binaryVariables := o.binaryVariables ++ [(name, digits)] } := by
      simp [Options.add, Options.addBy, OptionName.isRepeatable, read]
    rw [Request.ofArgumentsAfter_option o (by simp [OptionName.word]) arguments added, ih]
    simp
  | @line line arguments lines texts binaries rest ih =>
    have added : o.add .line line = .ok { o with lines := o.lines ++ [line] } := by
      simp [Options.add, OptionName.isRepeatable]
    rw [Request.ofArgumentsAfter_option o (by simp [OptionName.word]) arguments added, ih]
    simp

/-- Such arguments ask for a run with their assignments and lines. -/
lemma Assigns.ofArguments_eq {arguments lines : List String} {texts binaries : List (String × String)}
    (h : Assigns arguments texts binaries lines) :
    Request.ofArguments arguments =
      .ok (.run { textVariables := texts, binaryVariables := binaries, lines := lines }) :=
  h.ofArgumentsAfter_eq {}

/-! ## Variables of a run -/

/-- Digits and the bytes that they stand for, under one name. -/
def Decoded (given : String × String) (content : String × Bytes) : Prop :=
  content.1 = given.1 ∧ DigitPairs given.2.toList content.2

/-- There are bytes for all digits exactly if all of them are texts of digits. -/
lemma exists_decoded_iff {binaries : List (String × String)} :
    (∃ contents, List.Forall₂ Decoded binaries contents) ↔ ∀ a ∈ binaries, IsHexText a.2 := by
  induction binaries with
  | nil => simp
  | cons a binaries ih =>
    rw [List.forall_mem_cons, ← ih, ← exists_digitPairs_iff]
    constructor
    · rintro ⟨contents, h⟩
      cases h with
      | cons first rest => exact ⟨⟨_, first.2⟩, _, rest⟩
    · rintro ⟨⟨bytes, first⟩, contents, rest⟩
      exact ⟨(a.1, bytes) :: contents, .cons ⟨rfl, first⟩ rest⟩

/-- A name has digits where it has bytes, and the last digits given for it stand for its last bytes. -/
lemma lookup_decoded {binaries : List (String × String)} {contents : List (String × Bytes)}
    (h : List.Forall₂ Decoded binaries contents) (name : String) :
    binaries.lookup name = none ∧ contents.lookup name = none ∨
      ∃ digits bytes, binaries.lookup name = some digits ∧ contents.lookup name = some bytes ∧
        DigitPairs digits.toList bytes := by
  induction h with
  | nil => exact .inl ⟨rfl, rfl⟩
  | @cons given content binaries contents first rest ih =>
    obtain ⟨key, digits⟩ := given
    obtain ⟨key', bytes⟩ := content
    obtain ⟨rfl, pairs⟩ : key' = key ∧ DigitPairs digits.toList bytes := first
    rw [lookup_cons_eq_ite, lookup_cons_eq_ite]
    by_cases same : name = key'
    · rw [if_pos same, if_pos same]
      exact .inr ⟨digits, bytes, rfl, rfl, pairs⟩
    · rw [if_neg same, if_neg same]
      exact ih

/-- Other values are found under the same names. -/
lemma lookup_map_snd {β γ : Type} (f : β → γ) (entries : List (String × β)) (name : String) :
    (entries.map fun entry => (entry.1, f entry.2)).lookup name = (entries.lookup name).map f := by
  induction entries with
  | nil => rfl
  | cons entry entries ih =>
    obtain ⟨key, value⟩ := entry
    rw [List.map_cons, lookup_cons_eq_ite, lookup_cons_eq_ite, ih]
    by_cases same : name = key <;> simp [same]

/-- The variables after some definitions, one after the other. -/
def Variables.defineAll (vars : Variables) (entries : List (String × Value)) : Variables :=
  entries.foldl (fun vars entry => vars.define entry.1 entry.2) vars

/-- Definitions change the bindings and nothing else. -/
lemma Variables.bindings_defineAll (vars : Variables) (entries : List (String × Value)) :
    (vars.defineAll entries).bindings = vars.bindings.insertAll entries := by
  induction entries generalizing vars with
  | nil => rfl
  | cons entry entries ih =>
    rw [defineAll, List.foldl_cons, ← defineAll, ih]
    rfl

namespace Program

/-- The built-in functions under their names, as each run starts with them. -/
def prelude : List (String × Value) :=
  [("byteRange", .function ⟨"byteRange", 0, byteRange⟩),
    ("charRange", .function ⟨"charRange", 1, charRange⟩),
    ("repeat", .function ⟨"repeat", 2, repeatText⟩),
    ("time", .function ⟨"time", 3, currentTime⟩)]

/-- The definitions of a run in the order in which they are made: the built-in functions, texts, and
bytes. -/
def definitions (texts : List (String × String)) (contents : List (String × Bytes)) :
    List (String × Value) :=
  prelude ++ (texts.map fun a => (a.1, .text a.2)) ++ contents.map fun c => (c.1, .binary c.2)

/-- The last definition of a name is the last one with bytes, or else the last one with a text, or else
that of a built-in function. -/
lemma lookup_definitions (texts : List (String × String)) (contents : List (String × Bytes))
    (name : String) :
    (definitions texts contents).reverse.lookup name =
      ((contents.reverse.lookup name).map .binary).or
        (((texts.reverse.lookup name).map .text).or (prelude.reverse.lookup name)) := by
  rw [definitions, List.reverse_append, List.reverse_append, List.lookup_append, List.lookup_append,
    ← List.map_reverse, ← List.map_reverse, lookup_map_snd, lookup_map_snd]

/-- The variables that a run starts with hold the built-in functions and nothing else. -/
lemma bindings_initial : Variables.initial.bindings = Bindings.empty.insertAll prelude := by
  rfl

/-- Text variables are defined one after the other. -/
lemma bindTexts_eq (vars : Variables) (texts : List (String × String)) :
    bindTexts vars texts = vars.defineAll (texts.map fun a => (a.1, .text a.2)) := by
  rw [bindTexts, Variables.defineAll, List.foldl_map]

/-- Binary variables are defined one after the other, where all digits stand for bytes. -/
lemma bindBinaries_eq_ok_iff {vars vars' : Variables} {binaries : List (String × String)} :
    bindBinaries vars binaries = .ok vars' ↔
      ∃ contents, List.Forall₂ Decoded binaries contents ∧
        vars' = vars.defineAll (contents.map fun c => (c.1, .binary c.2)) := by
  induction binaries generalizing vars with
  | nil =>
    constructor
    · rintro ⟨⟩
      exact ⟨[], .nil, rfl⟩
    · rintro ⟨_, ⟨⟩, rfl⟩
      rfl
  | cons a binaries ih =>
    obtain ⟨name, digits⟩ := a
    rw [bindBinaries]
    constructor
    · intro bound
      split at bound
      · rename_i bytes decoded
        obtain ⟨contents, rest, rfl⟩ := ih.1 bound
        exact ⟨(name, bytes) :: contents, .cons ⟨rfl, decode_eq_ok_iff.1 decoded⟩ rest, rfl⟩
      · cases bound
    · rintro ⟨_, decoded, rfl⟩
      cases decoded with
      | @cons _ content _ contents first rest =>
        obtain ⟨name', bytes⟩ := content
        obtain ⟨rfl, pairs⟩ : name' = name ∧ DigitPairs digits.toList bytes := first
        rw [decode_eq_ok_iff.2 pairs]
        exact ih.2 ⟨contents, rest, rfl⟩

/-- The first wrong digits are reported, under their name. -/
lemma bindBinaries_eq_error (vars : Variables) {front behind : List (String × String)}
    {name digits : String} (good : ∀ a ∈ front, IsHexText a.2) (bad : ¬IsHexText digits) :
    ∃ cause, bindBinaries vars (front ++ (name, digits) :: behind) =
      .error ⟨"invalid hex for binary variable `" ++ name ++ "`", some cause⟩ := by
  induction front generalizing vars with
  | nil =>
    rw [List.nil_append, bindBinaries]
    split
    · rename_i bytes decoded
      exact absurd (exists_digitPairs_iff.1 ⟨bytes, decode_eq_ok_iff.1 decoded⟩) bad
    · exact ⟨_, rfl⟩
  | cons a front ih =>
    obtain ⟨first, good⟩ := List.forall_mem_cons.1 good
    obtain ⟨bytes, pairs⟩ := exists_digitPairs_iff.2 first
    rw [List.cons_append, bindBinaries, decode_eq_ok_iff.2 pairs]
    exact ih _ good

/-- The variables of a run are the built-in functions, behind which the definitions of its options are
made. -/
lemma varsOf_eq_ok_iff {o : Options} {vars : Variables} :
    varsOf o = .ok vars ↔
      ∃ contents, List.Forall₂ Decoded o.binaryVariables contents ∧
        vars = (Variables.initial.defineAll (o.textVariables.map fun a => (a.1, .text a.2))).defineAll
          (contents.map fun c => (c.1, .binary c.2)) := by
  rw [varsOf, bindBinaries_eq_ok_iff, bindTexts_eq]

/-- The first wrong digits among the options are reported. -/
lemma varsOf_eq_error {o : Options} {front behind : List (String × String)} {name digits : String}
    (whole : o.binaryVariables = front ++ (name, digits) :: behind)
    (good : ∀ a ∈ front, IsHexText a.2) (bad : ¬IsHexText digits) :
    ∃ cause, varsOf o =
      .error ⟨"invalid hex for binary variable `" ++ name ++ "`", some cause⟩ := by
  rw [varsOf, whole]
  exact bindBinaries_eq_error _ good bad

/-- The variables of a run are those that are defined, each where it first comes, and the last
definition of a name gives its value. -/
lemma bindings_varsOf {o : Options} {vars : Variables} (made : varsOf o = .ok vars) :
    ∃ contents, List.Forall₂ Decoded o.binaryVariables contents ∧
      vars.bindings.names =
        ((definitions o.textVariables contents).map Prod.fst).eraseDups ∧
      ∀ name, vars.get? name = (definitions o.textVariables contents).reverse.lookup name := by
  obtain ⟨contents, decoded, rfl⟩ := varsOf_eq_ok_iff.1 made
  have whole : ((Variables.initial.defineAll (o.textVariables.map fun a => (a.1, .text a.2))).defineAll
      (contents.map fun c => (c.1, .binary c.2))).bindings =
        Bindings.empty.insertAll (definitions o.textVariables contents) := by
    rw [Variables.bindings_defineAll, Variables.bindings_defineAll, bindings_initial]
    simp only [definitions, Bindings.insertAll, List.foldl_append]
  refine ⟨contents, decoded, ?_, fun name => ?_⟩
  · have none : (Bindings.empty : Bindings Value).names = [].eraseDups := rfl
    rw [whole]
    exact Bindings.names_insertAll _ none
  · rw [Variables.get?, whole, Bindings.get?_insertAll]
    exact Option.or_none

/-- A name with digits has the bytes that its last digits stand for. -/
lemma get?_of_digits {o : Options} {vars : Variables} (made : varsOf o = .ok vars)
    {name digits : String} (last : o.binaryVariables.reverse.lookup name = some digits) :
    ∃ bytes, DigitPairs digits.toList bytes ∧ vars.get? name = some (.binary bytes) := by
  obtain ⟨contents, decoded, -, got⟩ := bindings_varsOf made
  rcases lookup_decoded (List.forall₂_reverse_iff.2 decoded) name with
    ⟨none, -⟩ | ⟨digits', bytes, last', content, pairs⟩
  · cases none.symm.trans last
  · obtain rfl : digits' = digits := Option.some.inj (last'.symm.trans last)
    refine ⟨bytes, pairs, ?_⟩
    rw [got, lookup_definitions, content]
    rfl

/-- A name without digits has its last text. -/
lemma get?_of_text {o : Options} {vars : Variables} (made : varsOf o = .ok vars)
    {name text : String} (absent : o.binaryVariables.reverse.lookup name = none)
    (last : o.textVariables.reverse.lookup name = some text) :
    vars.get? name = some (.text text) := by
  obtain ⟨contents, decoded, -, got⟩ := bindings_varsOf made
  rcases lookup_decoded (List.forall₂_reverse_iff.2 decoded) name with
    ⟨-, absent'⟩ | ⟨digits, bytes, last', -, -⟩
  · rw [got, lookup_definitions, absent', last]
    rfl
  · cases absent.symm.trans last'

/-! ## References to variables -/

/-- A line that sends the bytes of a variable names a command. -/
lemma isCommandLine_binary {o : Options} (usual : o.trigger = none) (source : String) :
    o.settings.IsCommandLine ("/binary " ++ source) where
  visible := by
    refine isBlankLine_eq_false_iff.2 ⟨'/', by simp, by decide⟩
  command := by
    refine Settings.isCommand_iff.2 ?_
    simp [Options.settings, usual]

/-- A reference to a variable sends its bytes, from a line that is given as from one that is typed. -/
lemma sends_variable {o : Options} (usual : o.trigger = none) {s : Console Unit} {session : Session}
    (opened : s.connection.session = some session) {name : String} (named : IsName name)
    {value : Value} (bound : s.vars.get? name = some value) {bytes : Bytes}
    (content : value.content? = some bytes) :
    let line := "/binary " ++ variableSource name
    (prompt o).silent line s = (.ok (), s.queued session (.binary bytes) (binaryLine bytes)) ∧
      (prompt o).submit line s =
        (.ok (), (s.log .command line).queued session (.binary bytes) (binaryLine bytes)) := by
  have silent : ∀ s' : Console Unit, s'.vars = s.vars → s'.connection = s.connection →
      (prompt o).silent ("/binary " ++ variableSource name) s' =
        (.ok (), s'.queued session (.binary bytes) (binaryLine bytes)) := by
    intro s' vars connection
    have evaluated : s'.scope.evaluate (variableSource name) = .ok bytes :=
      s'.scope.evaluate_variableSource named ((congrArg (·.get? name) vars).trans bound) content
    exact Prompt.silent_binary (connection ▸ opened) evaluated
  refine ⟨silent s rfl rfl, ?_⟩
  rw [submit_eq (isCommandLine_binary usual _)]
  exact silent _ rfl rfl

/-- **Variables of the command line reach the wire**: let arguments assign texts and bytes. Each
assignment is cut at its first equals sign. There are variables exactly if all digits come in pairs;
otherwise the first wrong ones are reported, and no line is run. The names are those of the four
built-in functions, of the texts and of the bytes, each where it first comes, and the last definition in
that order gives its value. The program starts with these variables, and with nothing else. On an open
session a reference to a name sends the bytes that its last digits stand for, and shows these digits in
lower case; it sends the UTF-8 form of its last text if there are no digits for it. -/
theorem launch_assignments (now : ℕ) {arguments lines : List String}
    {texts binaries : List (String × String)} (given : Assigns arguments texts binaries lines) :
    let o : Options := { textVariables := texts, binaryVariables := binaries, lines := lines }
    let p : Prompt Unit := { registry := .standard, settings := ⟨'/', "send"⟩ }
    (∀ raw name value, readAssignment raw = .ok (name, value) ↔
        raw = name ++ "=" ++ value ∧ name ≠ "" ∧ '=' ∉ name.toList) ∧
      ((∃ vars, varsOf o = .ok vars) ↔ ∀ a ∈ binaries, IsHexText a.2) ∧
      (∀ front name digits behind, binaries = front ++ (name, digits) :: behind →
        (∀ a ∈ front, IsHexText a.2) → ¬IsHexText digits → ∃ cause,
          let message := "invalid hex for binary variable `" ++ name ++ "`"
          varsOf o = .error ⟨message, some cause⟩ ∧
            launch now arguments = .ended ⟨.failure, "",
              some ("Error: " ++ message ++ "\n\nCaused by:\n" ++ indented cause)⟩) ∧
      ∀ vars, varsOf o = .ok vars →
        (∃ contents, List.Forall₂ Decoded binaries contents ∧
          let made : List (String × Value) :=
            [("byteRange", .function ⟨"byteRange", 0, byteRange⟩),
              ("charRange", .function ⟨"charRange", 1, charRange⟩),
              ("repeat", .function ⟨"repeat", 2, repeatText⟩),
              ("time", .function ⟨"time", 3, currentTime⟩)] ++
            (texts.map fun a => (a.1, .text a.2)) ++ contents.map fun c => (c.1, .binary c.2)
          vars.bindings.names = (made.map Prod.fst).eraseDups ∧
            ∀ name, vars.get? name = made.reverse.lookup name) ∧
          (let fresh : Console Unit :=
            { now := now, vars := vars, connection := ⟨none⟩, transcript := [], extra := () }
          launch now arguments =
            if lines = [] then
              .waiting p { fresh with
                transcript := [⟨.system, "Type /connect <url> to open a session, Ctrl-D to quit"⟩] }
            else .running p lines fresh) ∧
          ∀ (s : Console Unit) session name, s.vars = vars → s.connection.session = some session →
            IsName name →
              let line := "/binary " ++ variableSource name
              let echoed : Console Unit :=
                { s with transcript := s.transcript ++ [⟨.command, line⟩] }
              let sends (bytes : Bytes) (shown : String) :=
                p.silent line s = (.ok (), s.queued session (.binary bytes) shown) ∧
                  p.submit line s = (.ok (), echoed.queued session (.binary bytes) shown)
              (∀ digits, binaries.reverse.lookup name = some digits →
                ∃ bytes, DigitPairs digits.toList bytes ∧
                  sends bytes ("<" ++ toString bytes.length ++ "B> " ++
                    String.ofList (digits.toList.map Char.toLower))) ∧
                ∀ text, binaries.reverse.lookup name = none →
                  texts.reverse.lookup name = some text →
                    sends text.toUTF8.data.toList (binaryLine text.toUTF8.data.toList) := by
  intro o p
  have launched : launch now arguments = launchWith now o := by
    rw [launch, given.ofArguments_eq]
  refine ⟨fun _ _ _ => readAssignment_eq_ok_iff, ?_, ?_, ?_⟩
  · rw [← exists_decoded_iff]
    constructor
    · rintro ⟨vars, made⟩
      obtain ⟨contents, decoded, -⟩ := varsOf_eq_ok_iff.1 made
      exact ⟨contents, decoded⟩
    · rintro ⟨contents, decoded⟩
      exact ⟨_, varsOf_eq_ok_iff.2 ⟨contents, decoded, rfl⟩⟩
  · intro front name digits behind whole good bad
    have inOptions : o.binaryVariables = front ++ (name, digits) :: behind := whole
    obtain ⟨cause, failed⟩ := varsOf_eq_error inOptions good bad
    refine ⟨cause, failed, ?_⟩
    rw [launched, launchWith, failed]
    rfl
  · intro vars made
    refine ⟨bindings_varsOf made, ?_, ?_⟩
    · intro fresh
      have begun : launch now arguments = start now o vars := by rw [launched, launchWith, made]
      rw [begun]
      cases lines with
      | nil => exact (if_pos rfl).symm
      | cons line lines => exact (if_neg (List.cons_ne_nil line lines)).symm
    intro s session name vars opened named line echoed sends
    constructor
    · intro digits last
      obtain ⟨bytes, pairs, bound⟩ := get?_of_digits made last
      refine ⟨bytes, pairs, ?_⟩
      rw [← pairs.encode_eq]
      exact sends_variable (o := o) rfl opened named (vars ▸ bound) rfl
    · intro text absent last
      exact sends_variable (o := o) rfl opened named (vars ▸ get?_of_text made absent last) rfl

/-- A name with digits of both cases sends their bytes, although it has a text too; another name sends
the UTF-8 form of its text, which ends with a second equals sign. Two names of built-in functions keep
their places, one of them with its function and the other one with a text. -/
theorem launch_assignments_redefined :
    let arguments :=
      ["--bytes=" ++ "a=0aFF", "--var=" ++ "a=x=y", "--eval=" ++ "/vars", "--var=" ++ "b=ü=",
        "--var=" ++ "time=noon"]
    let o : Options := {
      textVariables := [("a", "x=y"), ("b", "ü="), ("time", "noon")]
      binaryVariables := [("a", "0aFF")]
      lines := ["/vars"] }
    let session : Session := ⟨"ws://host", []⟩
    Assigns arguments o.textVariables o.binaryVariables o.lines ∧
      ∃ vars, varsOf o = .ok vars ∧
        vars.bindings.names = ["byteRange", "charRange", "repeat", "time", "a", "b"] ∧
        vars.get? "repeat" = some (.function ⟨"repeat", 2, repeatText⟩) ∧
        vars.get? "time" = some (.text "noon") ∧
        launch 0 arguments = .running (prompt o) ["/vars"]
          { now := 0, vars := vars, connection := ⟨none⟩, transcript := [], extra := () } ∧
        let s : Console Unit := { Console.fresh 0 vars () with connection := ⟨some session⟩ }
        (prompt o).silent ("/binary " ++ variableSource "a") s =
            (.ok (), s.queued session (.binary [0x0A, 0xFF]) "<2B> 0aff") ∧
          (prompt o).silent ("/binary " ++ variableSource "b") s =
            (.ok (), s.queued session (.binary [0xC3, 0xBC, 0x3D]) "<3B> c3bc3d") := by
  intro arguments o session
  have digits : readAssignment "a=0aFF" = .ok ("a", "0aFF") := by rfl
  have equation : readAssignment "a=x=y" = .ok ("a", "x=y") := by rfl
  have umlaut : readAssignment "b=ü=" = .ok ("b", "ü=") := by rfl
  have noon : readAssignment "time=noon" = .ok ("time", "noon") := by rfl
  have given : Assigns arguments o.textVariables o.binaryVariables o.lines :=
    .binary digits (.text equation (.line "/vars" (.text umlaut (.text noon .nil))))
  have hex : Hex.decode (Utf8.encode "0aFF") = .ok [0x0A, 0xFF] := by rfl
  have named : ∀ c, c.isAlpha = true → IsName (String.singleton c) :=
    fun c letter => ⟨c, [], by simp, .inl letter, by simp⟩
  obtain ⟨-, made, -, all⟩ := launch_assignments 0 given
  obtain ⟨vars, ok⟩ := made.2 fun a mem => by
    obtain rfl := List.mem_singleton.1 mem
    exact exists_digitPairs_iff.1 ⟨_, decode_eq_ok_iff.1 hex⟩
  obtain ⟨⟨contents, decoded, names, values⟩, launched, sent⟩ := all vars ok
  obtain ⟨bytes, rfl⟩ : ∃ bytes, contents = [("a", bytes)] := by
    obtain ⟨⟨name, bytes⟩, rest, ⟨same, -⟩, rest', rfl⟩ := List.forall₂_cons_left_iff.1 decoded
    rw [List.forall₂_nil_left_iff.1 rest']
    exact ⟨bytes, congrArg (fun name => [(name, bytes)]) same⟩
  refine ⟨given, vars, ok, names, values "repeat", values "time", launched, ?_⟩
  intro s
  obtain ⟨digits, -⟩ := sent s session "a" rfl rfl (named 'a' (by decide))
  obtain ⟨-, text⟩ := sent s session "b" rfl rfl (named 'b' (by decide))
  obtain ⟨bytes, pairs, silent, -⟩ := digits "0aFF" rfl
  obtain rfl : bytes = [0x0A, 0xFF] := Except.ok.inj ((decode_eq_ok_iff.2 pairs).symm.trans hex)
  exact ⟨silent, (text "ü=" rfl rfl).1⟩

end Program

end FrameConsole
