import FrameConsole.Proofs.Evaluation.Splice
import FrameConsole.Proofs.Variables.History

/-!
# What evaluation reads

Evaluation reads what the names that a template mentions stand for, and nothing else: not the other
names, not the order in which names are listed, not how values are kept, and not what a function is
called or which identity it has. So no template tells variables from an unordered table of the same
values, and what was done to a name matters to a template only if it mentions that name. The time
matters only where a function that reads the clock is mentioned, and one of the built-in functions
does.

## Main definitions

* `FrameConsole.mentionedIn` — the names in a source.
* `FrameConsole.Value.meaning`, `FrameConsole.Scope.meaning?` — all that evaluation gets from a value.
* `FrameConsole.Store` — variables or an unordered table.
* `FrameConsole.Variables.stepsOn` — the steps of a history that change a name.
* `FrameConsole.Bindings.tableAfter` — the unordered table that some changes lead to.

## Main results

* `FrameConsole.Scope.evaluate_congr` — scopes in which the mentioned names mean the same.
* `FrameConsole.Variables.meaning?_run` — what a name means after a history comes from the steps that
  change the name.
* `FrameConsole.Scope.evaluate_mentioned` — evaluation depends on the mentioned names alone.
-/

namespace FrameConsole

open Bindings

/-! ## Mentioned names -/

/-- The name of the variable or the function that a particle mentions. -/
def Particle.name? : Particle → Option String
  | .variable name => some name
  | .call name _ => some name
  | _ => none

/-- The names that a template mentions. -/
def Template.names (t : Template) : List String :=
  t.particles.filterMap Particle.name?

/-- The names that a source mentions; a source that cannot be read mentions none. -/
def mentionedIn (source : String) : List String :=
  match Template.parse source with
  | .error _ => []
  | .ok template => template.names

/-! ## What values mean -/

/-- What a value is to evaluation. -/
inductive Meaning where
  /-- Bytes to be put in place of a reference. -/
  | bytes (value : Bytes)
  /-- What a function answers to a list of arguments. -/
  | answers (answer : List Argument → Except FunctionError Output)

/-- What a value means at some time. -/
def Value.meaning (now : Nat) : Value → Meaning
  | .text value => .bytes (Utf8.encode value)
  | .binary value => .bytes value
  | .function f => .answers (f.body now)

/-- Whether a value means the same at all times. -/
def Value.Timeless (value : Value) : Prop :=
  ∀ now now', value.meaning now = value.meaning now'

/-- What a name means in a scope. -/
def Scope.meaning? (scope : Scope) (name : String) : Option Meaning :=
  (scope.value? name).map (Value.meaning scope.now)

/-- The content of a variable is read off what its name means. -/
lemma Scope.content_eq (scope : Scope) (name : String) :
    scope.content name =
      match scope.meaning? name with
      | none => .error (.unknownVariable name)
      | some (.bytes value) => .ok value
      | some (.answers _) => .error (.invalidDataType name [.string, .binary]) := by
  unfold Scope.content Scope.meaning?
  rcases scope.value? name with _ | _ | _ | _ <;> rfl

/-- What a call gives is read off what the name of the function means. -/
lemma Scope.call_eq (scope : Scope) (name : String) (args : List Argument) :
    scope.call name args =
      match scope.meaning? name with
      | none => .error (.unknownInstruction name)
      | some (.answers answer) => (answer args).mapError EvalError.function
      | some (.bytes _) => .error (.invalidDataType name [.function]) := by
  unfold Scope.call Scope.meaning?
  rcases scope.value? name with _ | _ | _ | f
  · rfl
  · rfl
  · rfl
  · simp only [Option.map_some, Value.meaning]
    cases f.body scope.now args <;> rfl

/-! ## Scopes that agree -/

/-- A particle evaluates to the same where the name in it means the same. -/
lemma Particle.eval_congr {scope scope' : Scope} {p : Particle}
    (agree : ∀ name ∈ p.name?, scope.meaning? name = scope'.meaning? name) :
    p.eval scope = p.eval scope' := by
  cases p with
  | text value => rfl
  | byte value => rfl
  | codepoint value => rfl
  | «variable» name =>
    show scope.content name = scope'.content name
    rw [Scope.content_eq, Scope.content_eq, agree name rfl]
  | call name args =>
    show (scope.call name args).map Output.bytes = (scope'.call name args).map Output.bytes
    rw [Scope.call_eq, Scope.call_eq, agree name rfl]

/-- A template evaluates to the same, bytes or error, where the names in it mean the same.

**Proof sketch.** Induction on the particles, of which the first is evaluated first in both scopes. -/
lemma Template.eval_congr {scope scope' : Scope} {t : Template}
    (agree : ∀ name ∈ t.names, scope.meaning? name = scope'.meaning? name) :
    t.eval scope = t.eval scope' := by
  obtain ⟨ps⟩ := t
  induction ps with
  | nil => rfl
  | cons p ps ih =>
    have first : p.eval scope = p.eval scope' := by
      apply Particle.eval_congr
      intro name mentioned
      exact agree name (List.mem_filterMap.2 ⟨p, List.mem_cons_self, mentioned⟩)
    have others : Template.eval scope ⟨ps⟩ = Template.eval scope' ⟨ps⟩ := by
      apply ih
      intro name mentioned
      obtain ⟨q, mem, named⟩ := List.mem_filterMap.1 mentioned
      exact agree name (List.mem_filterMap.2 ⟨q, List.mem_cons_of_mem p mem, named⟩)
    rw [Template.eval_cons, Template.eval_cons, first, others]

/-- A source evaluates to the same, bytes or error, where the names in it mean the same. -/
lemma Scope.evaluate_congr {scope scope' : Scope} {source : String}
    (agree : ∀ name ∈ mentionedIn source, scope.meaning? name = scope'.meaning? name) :
    scope.evaluate source = scope'.evaluate source := by
  unfold Scope.evaluate
  cases parsed : Template.parse source with
  | error e => rfl
  | ok template =>
    have mentioned : mentionedIn source = template.names := by
      rw [mentionedIn, parsed]
    rw [mentioned] at agree
    simp only [Template.eval_congr agree]

/-! ## Stores -/

/-- What values are kept in. -/
inductive Store where
  /-- Variables, which have an order. -/
  | ordered (vars : Variables)
  /-- A table without an order. -/
  | table (entries : Std.HashMap String Value)

/-- The value that a store has under a name. -/
def Store.value? (store : Store) (name : String) : Option Value :=
  match store with
  | .ordered vars => vars.get? name
  | .table entries => entries[name]?

/-- The scope of a store at some time. -/
def Store.scope (store : Store) (now : Nat) : Scope :=
  match store with
  | .ordered vars => vars.scope now
  | .table entries => Scope.ofHashMap entries now

/-- A name means in the scope of a store what its value means. -/
lemma Store.meaning?_scope (store : Store) (now : Nat) (name : String) :
    (store.scope now).meaning? name = (store.value? name).map (Value.meaning now) := by
  cases store <;> rfl

/-- The table after a change. -/
def Bindings.changeTable {β : Type} (table : Std.HashMap String β) :
    Change β → Std.HashMap String β
  | .bound name value => table.insert name value
  | .removed name => table.erase name

/-- The table after some changes, when it was empty before. -/
def Bindings.tableAfter {β : Type} (changes : List (Change β)) : Std.HashMap String β :=
  changes.foldl changeTable ∅

/-- A table holds what its changes say.

**Proof sketch.** Induction on the changes, from the last one. -/
lemma Bindings.getElem?_tableAfter {β : Type} (changes : List (Change β)) (name : String) :
    (tableAfter changes)[name]? = valueAfter changes name := by
  induction changes using List.reverseRecOn with
  | nil => exact Std.HashMap.getElem?_empty
  | append_singleton changes e ih =>
    have last : tableAfter (changes ++ [e]) = changeTable (tableAfter changes) e := by
      rw [tableAfter, List.foldl_concat]
      rfl
    rw [last, valueAfter_concat, ← ih]
    cases e with
    | bound key value =>
      simp only [changeTable, Std.HashMap.getElem?_insert, beq_iff_eq, eq_comm (a := key)]
      rfl
    | removed key =>
      simp only [changeTable, Std.HashMap.getElem?_erase, beq_iff_eq, eq_comm (a := key)]
      rfl

/-! ## Histories -/

namespace Variables

/-- The names that a step changes. -/
def Step.names : Step → List String
  | .define name _ => [name]
  | .defineFunction f => [f.name]
  | .loadBuiltins => builtins.map Prod.fst
  | .remove name => [name]

/-- The steps that change a name, in their order. -/
def stepsOn (name : String) (steps : List Step) : List Step :=
  steps.filter fun step => name ∈ step.names

/-- The changes of a step, in which values are replaced by what they mean at some time. -/
def Step.effects (now : Nat) (step : Step) : List (Change Meaning) :=
  (step.changes 0).map (Change.map (Value.meaning now))

/-- Which identities the functions get does not matter to what they mean. -/
lemma Step.map_changes (now identity : Nat) (step : Step) :
    (step.changes identity).map (Change.map (Value.meaning now)) = step.effects now := by
  cases step <;> rfl

/-- The same holds of all steps. -/
lemma map_changesFrom (now identity : Nat) (steps : List Step) :
    (changesFrom identity steps).map (Change.map (Value.meaning now)) =
      steps.flatMap (Step.effects now) := by
  induction steps generalizing identity with
  | nil => rfl
  | cons step steps ih =>
    rw [changesFrom, List.map_append, Step.map_changes, ih, List.flatMap_cons]

/-- The names of a step are those that its changes are about. -/
lemma Step.map_name_effects (now : Nat) (step : Step) :
    (step.effects now).map Change.name = step.names := by
  cases step <;> rfl

/-- Only the steps that change a name have effects on it.

**Proof sketch.** Induction on the steps. None of the effects of a step on other names is one on this
name. -/
lemma filter_effects_stepsOn (now : Nat) (name : String) (steps : List Step) :
    ((stepsOn name steps).flatMap (Step.effects now)).filter (fun e => e.name = name) =
      (steps.flatMap (Step.effects now)).filter fun e => e.name = name := by
  induction steps with
  | nil => rfl
  | cons step steps ih =>
    rw [List.flatMap_cons, List.filter_append, ← ih]
    by_cases changes : name ∈ step.names
    · rw [stepsOn, List.filter_cons_of_pos (by simpa using changes), List.flatMap_cons,
        List.filter_append]
      rfl
    · have none : (step.effects now).filter (fun e => e.name = name) = [] := by
        rw [List.filter_eq_nil_iff]
        intro e mem same
        apply changes
        rw [← step.map_name_effects now, ← of_decide_eq_true same]
        exact List.mem_map_of_mem mem
      rw [stepsOn, List.filter_cons_of_neg (by simpa using changes), none, List.nil_append]
      rfl

/-- What a name means after a history comes from the steps that change the name. -/
lemma meaning?_run (steps : List Step) (now : Nat) (name : String) :
    ((empty.run steps).scope now).meaning? name =
      valueAfter ((stepsOn name steps).flatMap (Step.effects now)) name := by
  show ((empty.run steps).get? name).map (Value.meaning now) = _
  rw [get?_run, ← valueAfter_map, map_changesFrom, ← valueAfter_filter, ← filter_effects_stepsOn,
    valueAfter_filter]

/-- Two steps on different names can change places. -/
lemma stepsOn_swap {first second : Step} (apart : ∀ name ∈ first.names, name ∉ second.names)
    (name : String) (before after : List Step) :
    stepsOn name (before ++ first :: second :: after) =
      stepsOn name (before ++ second :: first :: after) := by
  simp only [stepsOn, List.filter_append, List.filter_cons, decide_eq_true_eq]
  by_cases mem : name ∈ first.names
  · simp [apart name mem]
  · simp [mem]

/-- A step on other names can be left out. -/
lemma stepsOn_drop {step : Step} {name : String} (other : name ∉ step.names)
    (before after : List Step) :
    stepsOn name (before ++ step :: after) = stepsOn name (before ++ after) := by
  simp [stepsOn, List.filter_append, other]

end Variables

/-- Of the built-in functions only that for the time reads the clock. -/
lemma timeless_builtin {builtin : String × FunctionBody} (mem : builtin ∈ builtins)
    (other : builtin.1 ≠ "time") (identity : Nat) :
    Value.Timeless (.function ⟨builtin.1, identity, builtin.2⟩) := by
  intro now now'
  simp only [builtins, List.mem_cons, List.not_mem_nil, or_false] at mem
  rcases mem with rfl | rfl | rfl | rfl
  · rfl
  · rfl
  · rfl
  · exact absurd rfl other

/-- **Evaluation depends on the mentioned names alone**: a source gives the same bytes or the same
error in any two stores, variables or tables, that have the same values under the names in the source.
The time makes no difference unless one of these values depends on it, and of the built-in functions
only that for the time does.

So variables with any history give the same as any table that has the value of each name's last
definition, unless a removal follows it; the table that goes through the same changes is one, and that
of the variables' own entries is another. Two histories give the same if each mentioned name goes
through the same steps in both. That is so where two steps on different names change places, and where
a step on names that are not mentioned is left out. -/
theorem Scope.evaluate_mentioned (source : String) :
    (∀ (a b : Store) (now : Nat),
        (∀ name ∈ mentionedIn source, a.value? name = b.value? name) →
        (a.scope now).evaluate source = (b.scope now).evaluate source) ∧
      (∀ (store : Store) (now now' : Nat),
        (∀ name ∈ mentionedIn source, ∀ value ∈ store.value? name, value.Timeless) →
        (store.scope now).evaluate source = (store.scope now').evaluate source) ∧
      (∀ builtin ∈ builtins, builtin.1 ≠ "time" → ∀ identity,
        Value.Timeless (.function ⟨builtin.1, identity, builtin.2⟩)) ∧
      ∀ now : Nat,
        let after (steps : List Variables.Step) : Except ConsoleError Bytes :=
          ((Variables.empty.run steps).scope now).evaluate source
        (∀ (steps : List Variables.Step) (table : Std.HashMap String Value),
          (∀ name, table[name]? = valueAfter (Variables.changesFrom 0 steps) name) →
          after steps = (Scope.ofHashMap table now).evaluate source) ∧
        (∀ steps name,
          (tableAfter (Variables.changesFrom 0 steps))[name]? =
              valueAfter (Variables.changesFrom 0 steps) name ∧
            (Variables.empty.run steps).toHashMap[name]? =
              valueAfter (Variables.changesFrom 0 steps) name) ∧
        (∀ steps steps',
          (∀ name ∈ mentionedIn source,
            Variables.stepsOn name steps = Variables.stepsOn name steps') →
          after steps = after steps') ∧
        (∀ before first second others, (∀ name ∈ first.names, name ∉ second.names) →
          after (before ++ first :: second :: others) =
            after (before ++ second :: first :: others)) ∧
        ∀ before step others, (∀ name ∈ step.names, name ∉ mentionedIn source) →
          after (before ++ step :: others) = after (before ++ others) := by
  have agreeing (a b : Store) (now : Nat)
      (agree : ∀ name ∈ mentionedIn source, a.value? name = b.value? name) :
      (a.scope now).evaluate source = (b.scope now).evaluate source := by
    apply Scope.evaluate_congr
    intro name mentioned
    rw [Store.meaning?_scope, Store.meaning?_scope, agree name mentioned]
  refine ⟨agreeing, ?_, fun builtin mem other identity => timeless_builtin mem other identity, ?_⟩
  · intro store now now' timeless
    apply Scope.evaluate_congr
    intro name mentioned
    rw [Store.meaning?_scope, Store.meaning?_scope]
    exact Option.map_congr fun value bound => timeless name mentioned value bound now now'
  intro now after
  have congr (steps steps' : List Variables.Step)
      (same : ∀ name ∈ mentionedIn source,
        Variables.stepsOn name steps = Variables.stepsOn name steps') :
      after steps = after steps' := by
    apply Scope.evaluate_congr
    intro name mentioned
    rw [Variables.meaning?_run, Variables.meaning?_run, same name mentioned]
  refine ⟨?_, ?_, congr, ?_, ?_⟩
  · intro steps table holds
    apply agreeing (.ordered (Variables.empty.run steps)) (.table table)
    intro name _
    exact (Variables.get?_run steps name).trans (holds name).symm
  · intro steps name
    refine ⟨getElem?_tableAfter _ name, ?_⟩
    rw [Variables.getElem?_toHashMap, Variables.get?_run]
  · intro before first second others apart
    apply congr
    intro name _
    exact Variables.stepsOn_swap apart name before others
  · intro before step others unmentioned
    apply congr
    intro name mentioned
    exact Variables.stepsOn_drop (fun mem => unmentioned name mem mentioned) before others

/-- A source that refers to one variable, in variables and in a table that have other names besides,
and after histories in which the built-in functions are loaded and another name comes and goes. -/
theorem Scope.evaluate_mentioned_reference :
    let source := variableSource "x"
    let x : Variables.Step := .define "x" (.text "1")
    let y : Variables.Step := .define "y" (.binary [0])
    let vars := Variables.empty.run [y, x]
    let table := tableAfter [.bound "x" (.text "1"), .bound "z" (.text "")]
    let after (steps : List Variables.Step) : Except ConsoleError Bytes :=
      ((Variables.empty.run steps).scope 7).evaluate source
    mentionedIn source = ["x"] ∧
      (vars.scope 7).evaluate source = .ok [49] ∧
      ((Store.ordered vars).scope 7).evaluate source = ((Store.table table).scope 7).evaluate source ∧
      ((Store.ordered vars).scope 7).evaluate source = ((Store.ordered vars).scope 8).evaluate source ∧
      Value.Timeless (.function ⟨"byteRange", 0, byteRange⟩) ∧
      after [y, x] =
        (Scope.ofHashMap (tableAfter (Variables.changesFrom 0 [y, x])) 7).evaluate source ∧
      after [y, x, .remove "y"] = after [.loadBuiltins, x] ∧
      after [y, x, .remove "y", .loadBuiltins] = after [y, .remove "y", x, .loadBuiltins] ∧
      after [x, .loadBuiltins, y] = after [x, y] := by
  intro source x y vars table after
  have named : IsName "x" := ⟨'x', [], by decide, by decide, by simp⟩
  have mentioned : mentionedIn source = ["x"] := by
    rw [mentionedIn, Template.parse_variableSource named]
    rfl
  have bound : vars.get? "x" = some (.text "1") := by rfl
  have bound' : table["x"]? = some (.text "1") := getElem?_tableAfter _ "x"
  obtain ⟨stores, times, reads, histories⟩ := Scope.evaluate_mentioned source
  obtain ⟨tables, lookups, steps, swap, drop⟩ := histories 7
  refine ⟨mentioned, (vars.scope 7).evaluate_variableSource named bound (by decide), ?_, ?_, ?_, ?_, ?_,
    ?_, ?_⟩
  · apply stores
    simp only [mentioned, List.mem_singleton, forall_eq]
    exact bound.trans bound'.symm
  · apply times
    simp only [mentioned, List.mem_singleton, forall_eq]
    intro value mem now now'
    obtain rfl : .text "1" = value := Option.some.inj (bound.symm.trans mem)
    rfl
  · exact reads ("byteRange", byteRange) (by simp [builtins]) (by decide) 0
  · exact tables [y, x] _ fun name => (lookups [y, x] name).1
  · apply steps
    simp only [mentioned, List.mem_singleton, forall_eq]
    rfl
  · exact swap [y] x (.remove "y") [.loadBuiltins] (by simp [x, Variables.Step.names])
  · apply drop [x] .loadBuiltins [y]
    simp [mentioned, Variables.Step.names, builtins]

end FrameConsole
