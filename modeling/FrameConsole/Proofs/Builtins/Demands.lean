import FrameConsole.Proofs.Builtins.Answers

/-!
# What the built-in functions demand

A built-in function has a row of demands on its arguments: on their number, then on each from left to
right, its kind before its size, and last on how they are ordered. A call that meets all of them is
answered; any other one fails with the error of the first demand that it violates.

The argument that an error blames is one that the call has, with one exception: a range of characters
of which only the start is given, above the end that it has by default, blames the end.

## Main definitions

* `FrameConsole.Demand`, `FrameConsole.Demand.Violated` — demands, and the errors for violating them.
* `FrameConsole.FirstViolated` — the error for the first violated one of some demands.
* `FrameConsole.Obeys` — a function answers acceptable calls and refuses the others by its demands.

## Main results

* `FrameConsole.builtins_refuse_first_violated` — the calls that the built-in functions answer, and
  the errors of all others.
* `FrameConsole.builtins_blame_given` — which errors blame an argument that is there.
-/

namespace FrameConsole

/-! ## Demands -/

/-- What a function demands of its arguments. -/
inductive Demand where
  /-- The number of arguments lies between two bounds. -/
  | arity (least most : ℕ)
  /-- The argument at a position, if there is one, is an integer. -/
  | integer (index : ℕ)
  /-- The argument at a position, if there is one, is a string. -/
  | string (index : ℕ)
  /-- The integer at a position, if there is one, lies between two bounds. -/
  | within (index : ℕ) (least greatest : ℤ)
  /-- The second integer, or its default, is not below the first one, or its default. -/
  | ordered (start stop : ℤ)

/-- Arguments violate a demand of a function, and this is the error for it. -/
def Demand.Violated (name : String) (args : List Argument) : Demand → FunctionError → Prop
  | .arity least most, e =>
    (args.length < least ∨ most < args.length) ∧ e = .arityMismatch name least most args.length
  | .integer index, e =>
    (∃ text, args[index]? = some (.string text)) ∧ e = .invalidArgument name index .integerExpected
  | .string index, e =>
    (∃ value, args[index]? = some (.integer value)) ∧ e = .invalidArgument name index .stringExpected
  | .within index least greatest, e =>
    ∃ value, args[index]? = some (.integer value) ∧
      (value.toInt < least ∨ greatest < value.toInt) ∧
      e = .invalidArgument name index (.outOfRange value.toInt least greatest)
  | .ordered start stop, e =>
    integerOr args 1 stop < integerOr args 0 start ∧
      e = .invalidArgument name 1 (.endBeforeStart (integerOr args 1 stop) (integerOr args 0 start))

/-- The error for the first one of some demands that arguments violate. -/
inductive FirstViolated (name : String) (args : List Argument) : List Demand → FunctionError → Prop
  /-- The first demand is violated. -/
  | here {d : Demand} {ds : List Demand} {e : FunctionError} (violated : d.Violated name args e) :
    FirstViolated name args (d :: ds) e
  /-- The first demand is met. -/
  | later {d : Demand} {ds : List Demand} {e : FunctionError}
    (met : ∀ e', ¬d.Violated name args e') (rest : FirstViolated name args ds e) :
    FirstViolated name args (d :: ds) e

variable {name : String} {args : List Argument} {index : ℕ} {e : FunctionError}

/-- No demand is violated where there are none. -/
@[simp] lemma firstViolated_nil : ¬FirstViolated name args [] e :=
  nofun

/-- The first violated demand is the first one, or it is met and the others have it. -/
@[simp] lemma firstViolated_cons_iff {d : Demand} {ds : List Demand} :
    FirstViolated name args (d :: ds) e ↔
      d.Violated name args e ∨ (∀ e', ¬d.Violated name args e') ∧ FirstViolated name args ds e := by
  constructor
  · rintro (violated | ⟨met, rest⟩)
    · exact .inl violated
    · exact .inr ⟨met, rest⟩
  · rintro (violated | ⟨met, rest⟩)
    · exact .here violated
    · exact .later met rest

/-- The first violated demand is in the first part of a row, or all of that is met and the second part
has it. -/
lemma firstViolated_append_iff {ds ds' : List Demand} :
    FirstViolated name args (ds ++ ds') e ↔
      FirstViolated name args ds e ∨
        (∀ e', ¬FirstViolated name args ds e') ∧ FirstViolated name args ds' e := by
  induction ds with
  | nil => simp
  | cons d ds ih =>
    simp only [List.cons_append, firstViolated_cons_iff, ih, not_or, not_and, forall_and]
    tauto

/-- The first violated demand is one of the row. -/
lemma FirstViolated.exists_violated {ds : List Demand} (h : FirstViolated name args ds e) :
    ∃ d ∈ ds, d.Violated name args e := by
  induction h with
  | here violated => exact ⟨_, List.mem_cons_self, violated⟩
  | later _ _ ih =>
    obtain ⟨d, mem, violated⟩ := ih
    exact ⟨d, List.mem_cons_of_mem _ mem, violated⟩

/-! ## Checks -/

/-- A computation fails with the error of the first violated demand, and where none is violated it
succeeds. -/
def Checks {β : Type} (name : String) (args : List Argument) (ds : List Demand)
    (x : Except FunctionError β) : Prop :=
  ∀ e, x = .error e ↔ FirstViolated name args ds e

namespace Checks

variable {β γ : Type} {ds ds' : List Demand}

/-- A computation that gives something checks nothing. -/
lemma ok (b : β) : Checks name args [] (.ok b) := by
  simp [Checks]

/-- One computation after another checks the demands of both in this order. -/
lemma bind {x : Except FunctionError β} {f : β → Except FunctionError γ}
    (first : Checks name args ds x) (second : ∀ b, x = .ok b → Checks name args ds' (f b)) :
    Checks name args (ds ++ ds') (x >>= f) := by
  intro e
  rw [firstViolated_append_iff]
  cases x with
  | error e' =>
    have violated : FirstViolated name args ds e' := (first e').1 rfl
    rw [or_iff_left fun met => met.1 e' violated, ← first e]
    show Except.error e' = .error e ↔ _
    simp only [Except.error.injEq]
  | ok b =>
    have met : ∀ e', ¬FirstViolated name args ds e' := fun e' violated => by
      simpa using (first e').2 violated
    rw [or_iff_right (met e), and_iff_right met]
    exact second b rfl e

/-- The number of arguments is checked against its bounds. -/
lemma checkArity (least most : ℕ) :
    Checks name args [.arity least most] (checkArity name least most args) := by
  intro e
  rw [FrameConsole.checkArity]
  split_ifs with other
  · simp [Demand.Violated, other, eq_comm]
  · simp [Demand.Violated, other]

/-- An argument is checked to be an integer, and then to be within bounds. -/
lemma integerAt (index : ℕ) (default least greatest : ℤ) :
    Checks name args [.integer index, .within index least greatest]
      (integerAt name args index default least greatest) := by
  intro e
  rw [FrameConsole.integerAt]
  cases given : args[index]? with
  | none => simp [Demand.Violated, given]
  | some a =>
    cases a with
    | string value => simp [Demand.Violated, given, eq_comm]
    | integer value =>
      simp only
      split_ifs with inside
      · simp [Demand.Violated, given]
        omega
      · simp [Demand.Violated, given, eq_comm]
        omega

/-- An argument that is there is checked to be a string. -/
lemma stringAt {index : ℕ} (there : index < args.length) :
    Checks name args [.string index] (stringAt name args index) := by
  intro e
  rw [FrameConsole.stringAt]
  cases given : args[index]? with
  | none => simp at given; omega
  | some a =>
    cases a with
    | string value => simp [Demand.Violated, given]
    | integer value => simp [Demand.Violated, given, eq_comm]

/-- A natural number is a number of times, which needs no check. -/
lemma countOf {value : ℤ} (natural : 0 ≤ value) : Checks name args [] (countOf name index value) := by
  rw [FrameConsole.countOf, if_pos natural]
  exact ok _

/-- The end of a range is checked not to be before its start. -/
lemma ordered (start stop : ℤ) :
    Checks name args [.ordered start stop]
      (if integerOr args 1 stop < integerOr args 0 start then
        .error (.invalidArgument name 1
          (.endBeforeStart (integerOr args 1 stop) (integerOr args 0 start)))
      else .ok (integerOr args 0 start, integerOr args 1 stop)) := by
  intro e
  split_ifs with reversed
  · simp [Demand.Violated, reversed, eq_comm]
  · simp [Demand.Violated, reversed]

end Checks

/-! ## Rows of demands -/

/-- What a range demands, with the defaults of its bounds. -/
def rangeDemands (start stop greatest : ℤ) : List Demand :=
  [.arity 0 2, .integer 0, .within 0 0 greatest, .integer 1, .within 1 0 greatest,
    .ordered start stop]

/-- What repeating a text demands. -/
def repeatDemands : List Demand :=
  [.arity 2 2, .string 0, .integer 1, .within 1 0 65535]

/-- The bounds of a range are checked against its demands. -/
lemma checks_rangeOf (start stop greatest : ℤ) :
    Checks name args (rangeDemands start stop greatest) (rangeOf name args start stop greatest) := by
  refine (Checks.checkArity 0 2).bind fun _ _ => ?_
  refine (Checks.integerAt 0 start 0 greatest).bind fun _ first => ?_
  refine (Checks.integerAt 1 stop 0 greatest).bind fun _ second => ?_
  obtain ⟨-, rfl⟩ := integerAt_eq_ok_iff.1 first
  obtain ⟨-, rfl⟩ := integerAt_eq_ok_iff.1 second
  exact Checks.ordered start stop

/-- The demands of a range of bytes. -/
lemma checks_byteRange (now : ℕ) :
    Checks "byteRange" args (rangeDemands 0 255 255) (byteRange now args) :=
  (checks_rangeOf 0 255 255).bind fun _ _ => Checks.ok _

/-- The demands of a range of characters. -/
lemma checks_charRange (now : ℕ) :
    Checks "charRange" args (rangeDemands 32 126 0x10FFFF) (charRange now args) :=
  (checks_rangeOf 32 126 0x10FFFF).bind fun _ _ => Checks.ok _

/-- The demands of repeating a text. -/
lemma checks_repeatText (now : ℕ) :
    Checks "repeat" args repeatDemands (repeatText now args) := by
  refine (Checks.checkArity 2 2).bind fun _ arity => ?_
  obtain ⟨two, -⟩ := checkArity_eq_ok_iff.1 arity
  refine (Checks.stringAt (by omega)).bind fun _ _ => ?_
  refine (Checks.integerAt 1 0 0 65535).bind fun _ second => ?_
  obtain ⟨within, rfl⟩ := integerAt_eq_ok_iff.1 second
  have natural := (integerOr_bounds within le_rfl (by decide)).1
  exact (Checks.countOf natural).bind fun _ _ => Checks.ok _

/-- The demand of the time. -/
lemma checks_currentTime (now : ℕ) : Checks "time" args [.arity 0 0] (currentTime now args) :=
  (Checks.checkArity 0 0).bind fun _ _ => Checks.ok _

/-- A function under a name answers the acceptable calls, and refuses all others with the error of the
first demand that they violate. -/
structure Obeys (name : String) (body : FunctionBody) (ds : List Demand)
    (Acceptable : List Argument → Prop) : Prop where
  /-- The calls that are answered. -/
  answers : ∀ now args, (∃ output, body now args = .ok output) ↔ Acceptable args
  /-- The errors of the other ones. -/
  refuses : ∀ now args e, body now args = .error e ↔ FirstViolated name args ds e

/-- Each built-in function has a row of demands under its own name. -/
lemma exists_checks_of_mem_builtins {builtin : String × FunctionBody} (mem : builtin ∈ builtins) :
    ∃ ds, ∀ now args, Checks builtin.1 args ds (builtin.2 now args) := by
  simp only [builtins, List.mem_cons, List.not_mem_nil, or_false] at mem
  rcases mem with rfl | rfl | rfl | rfl
  · exact ⟨_, fun now _ => checks_byteRange now⟩
  · exact ⟨_, fun now _ => checks_charRange now⟩
  · exact ⟨_, fun now _ => checks_repeatText now⟩
  · exact ⟨_, fun now _ => checks_currentTime now⟩

/-- No violated demand is that an argument is missing, or that an integer is no number of times. -/
lemma FirstViolated.fault_ne {ds : List Demand} {name' : String} {fault : ArgumentFault}
    (h : FirstViolated name args ds (.invalidArgument name' index fault)) :
    fault ≠ .missing ∧ fault ≠ .noCount := by
  obtain ⟨d, -, violated⟩ := h.exists_violated
  cases d with
  | arity least most => cases violated.2
  | integer i => cases violated.2; simp
  | string i => cases violated.2; simp
  | within i least greatest => obtain ⟨_, _, _, ⟨⟩⟩ := violated; simp
  | ordered start stop => cases violated.2; simp

/-- An argument that is blamed is there, unless it is the end of a range. -/
lemma FirstViolated.blames {ds : List Demand} {name' : String} {fault : ArgumentFault}
    (h : FirstViolated name args ds (.invalidArgument name' index fault)) :
    index < args.length ∨ index = 1 ∧ ∃ start stop, .ordered start stop ∈ ds := by
  obtain ⟨d, mem, violated⟩ := h.exists_violated
  have there {a : Argument} {i : ℕ} (given : args[i]? = some a) : i < args.length :=
    (List.getElem?_eq_some_iff.1 given).1
  cases d with
  | arity least most => cases violated.2
  | integer i => obtain ⟨⟨_, given⟩, ⟨⟩⟩ := violated; exact .inl (there given)
  | string i => obtain ⟨⟨_, given⟩, ⟨⟩⟩ := violated; exact .inl (there given)
  | within i least greatest => obtain ⟨_, given, _, ⟨⟩⟩ := violated; exact .inl (there given)
  | ordered start stop => cases violated.2; exact .inr ⟨rfl, _, _, mem⟩

/-- A range whose demands are violated blames an argument that is there, unless only its start is
given, above the end that it has by default.

**Proof sketch.** With two arguments every position that is ever blamed is there, and with none the
defaults meet all demands. One argument meets the demands on it, and then the order is violated if it
is above the default, or it violates them and is blamed itself. -/
lemma FirstViolated.blames_range {start stop greatest : ℤ} (low : 0 ≤ start) (defaults : start ≤ stop)
    {name' : String} {fault : ArgumentFault}
    (h : FirstViolated name args (rangeDemands start stop greatest)
      (.invalidArgument name' index fault)) :
    index < args.length ↔ ¬∃ value : Int64,
      args = [.integer value] ∧ stop < value.toInt ∧ value.toInt ≤ greatest := by
  rcases args with _ | ⟨a, _ | ⟨b, _ | ⟨c, rest⟩⟩⟩
  · have reversed : stop < start := by
      simp [rangeDemands, Demand.Violated, integerOr] at h
      exact h.1
    omega
  · cases a with
    | string text =>
      have first : index = 0 := by
        simp [rangeDemands, Demand.Violated] at h
        exact h.2.1
      exact iff_of_true (by simp [first]) (by simp)
    | integer value =>
      have blamed : (value.toInt < 0 ∨ greatest < value.toInt) ∧ index = 0 ∨
          value.toInt ≤ greatest ∧ stop < value.toInt ∧ index = 1 := by
        simp [rangeDemands, Demand.Violated, integerOr] at h
        tauto
      rcases blamed with ⟨outside, rfl⟩ | ⟨most, above, rfl⟩
      · have refused : ¬(stop < value.toInt ∧ value.toInt ≤ greatest) := by omega
        exact iff_of_true Nat.one_pos (by simpa using refused)
      · exact iff_of_false (Nat.lt_irrefl 1) (by simp [above, most])
  · have there : index < [a, b].length := by
      rcases h.blames with there | ⟨rfl, -⟩
      · exact there
      · exact Nat.one_lt_two
    exact iff_of_true there (by simp)
  · simp [rangeDemands, Demand.Violated] at h

/-- The calls for a repetition that are answered are those with a string and a number of times. -/
lemma isRepetition_iff (now : ℕ) :
    (∃ output, repeatText now args = .ok output) ↔ IsRepetition args := by
  simp only [repeatText_eq_ok_iff, IsRepetition, Argument.IsIntegerIn]
  constructor
  · rintro ⟨_, text, n, count, rfl, same, most, -⟩
    exact ⟨text, _, rfl, count, rfl, by omega, by omega⟩
  · rintro ⟨text, _, rfl, count, rfl, least, most⟩
    exact ⟨_, text, count.toInt.toNat, count, rfl, by omega, by omega, rfl⟩

/-! ## Main results -/

/-- **Acceptance and errors of the built-in functions.** Each answers exactly the calls that it takes,
and fails with the error of the first demand that the others violate, under its own name. No call fails
because an argument is missing where its number has been checked, or because an integer that is within
its bounds is no number of times; and the elements of a range are the integers that they are made of. -/
theorem builtins_refuse_first_violated :
    Obeys "byteRange" byteRange (rangeDemands 0 255 255) (IsRange 0 255 255) ∧
      Obeys "charRange" charRange (rangeDemands 32 126 0x10FFFF) (IsRange 32 126 0x10FFFF) ∧
      Obeys "repeat" repeatText repeatDemands IsRepetition ∧
      Obeys "time" currentTime [.arity 0 0] (· = []) ∧
      (∀ builtin ∈ builtins, ∀ now args name index fault,
        builtin.2 now args = .error (.invalidArgument name index fault) →
          fault ≠ .missing ∧ fault ≠ .noCount) ∧
      (∀ now args output, byteRange now args = .ok output → ∃ bytes : Bytes,
        output = .binary bytes ∧ bytes.map (fun b => (b.toNat : ℤ)) =
          integersFromTo (integerOr args 0 0) (integerOr args 1 255)) ∧
      ∀ now args output, charRange now args = .ok output → ∃ text : String,
        output = .text text ∧ text.toList.map (fun c => (c.toNat : ℤ)) =
          (integersFromTo (integerOr args 0 32) (integerOr args 1 126)).filter
            (fun z => ¬IsSurrogate z) := by
  refine ⟨⟨?_, fun now args => checks_byteRange now⟩, ⟨?_, fun now args => checks_charRange now⟩,
    ⟨fun now args => isRepetition_iff now, fun now args => checks_repeatText now⟩,
    ⟨?_, fun now args => checks_currentTime now⟩, ?_, ?_, ?_⟩
  · intro now args
    simp [byteRange_eq_ok_iff]
  · intro now args
    simp [charRange_eq_ok_iff]
  · intro now args
    simp [currentTime_eq_ok_iff]
  · intro builtin mem now args name index fault refused
    obtain ⟨ds, checks⟩ := exists_checks_of_mem_builtins mem
    exact ((checks now args _).1 refused).fault_ne
  · intro now args output answer
    obtain ⟨range, rfl⟩ := byteRange_eq_ok_iff.1 answer
    refine ⟨_, rfl, map_toNat_ofInt ?_⟩
    exact range.elements le_rfl (by decide) le_rfl
  · intro now args output answer
    obtain ⟨range, rfl⟩ := charRange_eq_ok_iff.1 answer
    refine ⟨_, rfl, ?_⟩
    rw [String.toList_ofList, map_toNat_scalar?]
    exact range.elements (by decide) (by decide) (by decide)

/-- Each demand in its turn: a third argument comes before everything, a string before the size of what
is behind it, a size before a string behind it, and the order comes last; and the widest range of
bytes. -/
theorem builtins_refuse_first_violated_each :
    byteRange 0 [.integer 300, .string "x", .integer 1] =
        .error (.arityMismatch "byteRange" 0 2 3) ∧
      byteRange 0 [.string "x", .integer 300] =
        .error (.invalidArgument "byteRange" 0 .integerExpected) ∧
      charRange 0 [.integer (-1), .string "x"] =
        .error (.invalidArgument "charRange" 0 (.outOfRange (-1) 0 0x10FFFF)) ∧
      charRange 0 [.integer 5, .integer 4] =
        .error (.invalidArgument "charRange" 1 (.endBeforeStart 4 5)) ∧
      repeatText 0 [.integer 1, .integer 65536] =
        .error (.invalidArgument "repeat" 0 .stringExpected) ∧
      currentTime 0 [.integer 1] = .error (.arityMismatch "time" 0 0 1) ∧
      (∃ output, repeatText 0 [.string "x", .integer 65535] = .ok output) ∧
      ∃ bytes : Bytes, byteRange 0 [] = .ok (.binary bytes) ∧
        bytes.map (fun b => (b.toNat : ℤ)) = integersFromTo 0 255 := by
  obtain ⟨bytes, chars, repeats, time, -, values, -⟩ := builtins_refuse_first_violated
  obtain ⟨output, answer⟩ := (bytes.answers 0 []).2 ⟨by decide, by simp, by decide⟩
  obtain ⟨content, rfl, same⟩ := values 0 [] output answer
  refine ⟨?_, ?_, ?_, ?_, ?_, ?_, ?_, content, answer, same⟩
  · exact (bytes.refuses _ _ _).2 (.here ⟨by decide, rfl⟩)
  · exact (bytes.refuses _ _ _).2 (.later (by simp [Demand.Violated]) (.here ⟨⟨_, rfl⟩, rfl⟩))
  · refine (chars.refuses _ _ _).2 (.later ?_ (.later ?_ (.here ⟨_, rfl, by decide, rfl⟩)))
    · simp [Demand.Violated]
    · simp [Demand.Violated]
  · exact (chars.refuses _ _ _).2 (by simp [rangeDemands, Demand.Violated, integerOr])
  · exact (repeats.refuses _ _ _).2 (.later (by simp [Demand.Violated]) (.here ⟨⟨_, rfl⟩, rfl⟩))
  · exact (time.refuses _ _ _).2 (.here ⟨by decide, rfl⟩)
  · exact (repeats.answers _ _).2 ⟨_, _, rfl, _, rfl, by decide, by decide⟩

/-- **The arguments that errors blame.** An error of a built-in function blames an argument that the
call has, unless the call is for a range of characters with only a start that lies above the end that
the range has by default. -/
theorem builtins_blame_given {builtin : String × FunctionBody} (mem : builtin ∈ builtins) (now : ℕ)
    {fault : ArgumentFault}
    (refused : builtin.2 now args = .error (.invalidArgument name index fault)) :
    index < args.length ↔ ¬(builtin.1 = "charRange" ∧
      ∃ start : Int64, args = [.integer start] ∧ 126 < start.toInt ∧ start.toInt ≤ 0x10FFFF) := by
  simp only [builtins, List.mem_cons, List.not_mem_nil, or_false] at mem
  rcases mem with rfl | rfl | rfl | rfl
  · have violated := (checks_byteRange now _).1 refused
    rw [violated.blames_range le_rfl (by decide)]
    exact iff_of_true (by rintro ⟨_, _, above, most⟩; omega) (by simp)
  · have violated := (checks_charRange now _).1 refused
    rw [violated.blames_range (by decide) (by decide)]
    simp
  · have violated := (checks_repeatText now _).1 refused
    exact iff_of_true (violated.blames.resolve_right (by simp [repeatDemands])) (by simp)
  · have violated := (checks_currentTime now _).1 refused
    exact iff_of_true (violated.blames.resolve_right (by simp)) (by simp)

/-- The end of a range of characters is blamed where it is there. -/
theorem builtins_blame_given_end :
    charRange 0 [.integer 200, .integer 126] =
        .error (.invalidArgument "charRange" 1 (.endBeforeStart 126 200)) ∧
      1 < [Argument.integer 200, .integer 126].length := by
  have refused : charRange 0 [.integer 200, .integer 126] =
      .error (.invalidArgument "charRange" 1 (.endBeforeStart 126 200)) := rfl
  have mem : ("charRange", charRange) ∈ builtins := by simp [builtins]
  exact ⟨refused, (builtins_blame_given mem 0 refused).2 (by rintro ⟨-, _, ⟨⟩, -⟩)⟩

/-- A range of characters of which only the start is given blames an end that is not there. -/
theorem charRange_blames_absent :
    charRange 0 [.integer 200] =
        .error (.invalidArgument "charRange" 1 (.endBeforeStart 126 200)) ∧
      ¬1 < [Argument.integer 200].length :=
  ⟨rfl, by decide⟩

end FrameConsole
