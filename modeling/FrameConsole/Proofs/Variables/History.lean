import FrameConsole.Proofs.Bindings.Changes
import FrameConsole.Proofs.Commands.Standard
import Mathlib.Data.List.Forall2

/-!
# Histories of variables

What variables hold after any steps, said of the steps alone. A step comes to some changes of names:
one for a definition or a removal, and one for each built-in function that is loaded, in the order in
which these are made. A name that is bound already keeps its place when it is defined again, also by
the built-in function of that name; a removal leaves the order of all other names; and a name that is
defined again behind its removal goes to the end. The listing of the variables is in that order, with
one line for each name.

## Main definitions

* `FrameConsole.Variables.Step`, `FrameConsole.Variables.run` — what is done to variables.
* `FrameConsole.Variables.changesFrom` — the changes that steps come to.
* `FrameConsole.Variables.OfKind`, `FrameConsole.Variables.ListedAs` — a name with its value, and its
  line in a listing.

## Main results

* `FrameConsole.Variables.step_eq`, `FrameConsole.Variables.bindings_run` — a step makes its
  changes, and so do all steps.
* `FrameConsole.Variables.run_records` — variables and their listing over whole histories.
-/

namespace FrameConsole

open Bindings

variable {α : Type}

namespace Variables

/-! ## Steps -/

/-- What is done to variables. -/
inductive Step where
  /-- A value is bound to a name. -/
  | define (name : String) (value : Value)
  /-- A function is bound to its own name. -/
  | defineFunction (f : FunctionValue)
  /-- The built-in functions are made and bound to their names. -/
  | loadBuiltins
  /-- A name is removed. -/
  | remove (name : String)

/-- The variables after a step. -/
def step (vars : Variables) : Step → Variables
  | .define name value => vars.define name value
  | .defineFunction f => vars.defineFunction f
  | .loadBuiltins => vars.loadBuiltins
  | .remove name => (vars.take name).2

/-- The variables after some steps. -/
def run (vars : Variables) (steps : List Step) : Variables :=
  steps.foldl step vars

/-- The functions made of some bodies one after the other, of which the first gets a given
identity. -/
def madeFrom (identity : Nat) (bodies : List (String × FunctionBody)) : List FunctionValue :=
  (bodies.zipIdx identity).map fun made => ⟨made.1.1, made.2, made.1.2⟩

/-- The change that binds a function to its own name. -/
def bindsFunction (f : FunctionValue) : Change Value :=
  .bound f.name (.function f)

/-- The number of functions that a step makes. -/
def Step.made : Step → Nat
  | .loadBuiltins => builtins.length
  | _ => 0

/-- The changes that a step comes to, where the next function made gets a given identity. -/
def Step.changes (identity : Nat) : Step → List (Change Value)
  | .define name value => [.bound name value]
  | .defineFunction f => [bindsFunction f]
  | .loadBuiltins => (madeFrom identity builtins).map bindsFunction
  | .remove name => [.removed name]

/-- The changes that some steps come to, where the next function made gets a given identity. -/
def changesFrom (identity : Nat) : List Step → List (Change Value)
  | [] => []
  | step :: steps => step.changes identity ++ changesFrom (identity + step.made) steps

/-! ## Steps make their changes -/

/-- Functions that are made and bound one after the other have identities one after the other.

**Proof sketch.** Induction on the bodies. The first function takes the next identity. -/
lemma foldl_defineNew (bodies : List (String × FunctionBody)) (vars : Variables) :
    bodies.foldl (fun vars body => vars.defineNew body.1 body.2) vars =
      ⟨((madeFrom vars.nextIdentity bodies).map bindsFunction).foldl change vars.bindings,
        vars.nextIdentity + bodies.length⟩ := by
  induction bodies generalizing vars with
  | nil => rfl
  | cons body bodies ih =>
    rw [List.foldl_cons, ih, List.length_cons]
    congr 1
    simp only [defineNew, defineFunction, define, makeFunction]
    omega

/-- A step makes its changes, and its functions take the next identities. -/
lemma step_eq (vars : Variables) (step : Step) :
    vars.step step =
      ⟨(step.changes vars.nextIdentity).foldl change vars.bindings,
        vars.nextIdentity + step.made⟩ := by
  cases step with
  | define name value => rfl
  | defineFunction f => rfl
  | loadBuiltins => exact foldl_defineNew builtins vars
  | remove name =>
    rw [Variables.step, take_eq]
    rfl

/-- Steps make their changes one after the other. -/
lemma bindings_run (vars : Variables) (steps : List Step) :
    (vars.run steps).bindings =
      (changesFrom vars.nextIdentity steps).foldl change vars.bindings := by
  induction steps generalizing vars with
  | nil => rfl
  | cons step steps ih =>
    rw [run, List.foldl_cons, ← run, ih, changesFrom, List.foldl_append, step_eq]

/-- Variables that started empty hold what their changes say. -/
lemma records_run (steps : List Step) :
    (empty.run steps).bindings.Records (changesFrom 0 steps) := by
  rw [bindings_run]
  exact records_after (changesFrom 0 steps)

/-- The value under a name is that of its last change. -/
lemma get?_run (steps : List Step) (name : String) :
    (empty.run steps).get? name = valueAfter (changesFrom 0 steps) name :=
  (records_run steps).get?_eq name

/-! ## Names -/

/-- Names that are bound one after the other come behind those that were bound before, unless they were
among them.

**Proof sketch.** Induction on the functions. Since their names are distinct, none of them is bound by
an earlier one. -/
lemma names_bindFunctions {fs : List FunctionValue} (distinct : (fs.map FunctionValue.name).Nodup)
    (bs : Bindings Value) :
    ((fs.map bindsFunction).foldl change bs).names =
      bs.names ++ (fs.map FunctionValue.name).filter (· ∉ bs.names) := by
  induction fs generalizing bs with
  | nil => simp
  | cons f fs ih =>
    obtain ⟨apart, distinct⟩ := List.nodup_cons.1 distinct
    rw [List.map_cons, List.foldl_cons, ih distinct, List.map_cons]
    simp only [bindsFunction, Bindings.change, names_insert]
    by_cases old : f.name ∈ bs.names
    · rw [if_pos old, List.filter_cons_of_neg (by simp [old])]
    · have same : (fs.map FunctionValue.name).filter (· ∉ bs.names ++ [f.name]) =
          (fs.map FunctionValue.name).filter (· ∉ bs.names) := by
        refine List.filter_congr fun name mem => ?_
        have other : name ≠ f.name := fun e => apart (e ▸ mem)
        simp [other]
      rw [if_neg old, same, List.filter_cons_of_pos (by simp [old]), List.append_assoc]
      rfl

/-- Functions have the names that come with their bodies. -/
lemma names_madeFrom (identity : Nat) (bodies : List (String × FunctionBody)) :
    (madeFrom identity bodies).map FunctionValue.name = bodies.map Prod.fst := by
  have named : FunctionValue.name ∘ (fun made : (String × FunctionBody) × Nat =>
      (⟨made.1.1, made.2, made.1.2⟩ : FunctionValue)) = Prod.fst ∘ Prod.fst := rfl
  rw [madeFrom, List.map_map, named, ← List.map_map, List.zipIdx_map_fst]

/-- The built-in functions that are new come last, and all others stay in their places. -/
lemma names_loadBuiltins (vars : Variables) :
    vars.loadBuiltins.bindings.names =
      vars.bindings.names ++ (builtins.map Prod.fst).filter (· ∉ vars.bindings.names) := by
  have distinct : ((madeFrom vars.nextIdentity builtins).map FunctionValue.name).Nodup := by
    rw [names_madeFrom]
    decide
  rw [← names_madeFrom vars.nextIdentity builtins, ← names_bindFunctions distinct]
  exact congrArg (Bindings.names ∘ Variables.bindings) (foldl_defineNew builtins vars)

/-! ## Listing -/

/-- A value, and the word for its kind in a listing. -/
inductive OfKind : Value → String → Prop
  /-- Texts. -/
  | text (value : String) : OfKind (.text value) "STRING"
  /-- Byte sequences. -/
  | binary (value : Bytes) : OfKind (.binary value) "BINARY"
  /-- Functions. -/
  | function (f : FunctionValue) : OfKind (.function f) "FUNCTION"

/-- A name with its value, and its line in a listing: the name, filled up with spaces to a width of
twelve, and the word for the kind of the value. -/
def ListedAs (entry : String × Value) (text : String) : Prop :=
  ∃ kind, OfKind entry.2 kind ∧
    text = entry.1 ++ String.ofList (List.replicate (12 - entry.1.length) ' ') ++ " " ++ kind

/-- Each value is of the kind of its data type. -/
lemma ofKind_dataType (value : Value) : OfKind value value.dataType.name := by
  cases value with
  | text value => exact .text value
  | binary value => exact .binary value
  | function f => exact .function f

/-- The line of a variable is its line in a listing. -/
lemma listedAs_variableLine (entry : String × Value) :
    ListedAs entry (variableLine entry.1 entry.2) := by
  refine ⟨_, ofKind_dataType entry.2, ?_⟩
  rw [variableLine, List.rightpad, String.ofList_append, String.ofList_toList]
  rfl

/-- The command that lists the variables logs them, or that there are none. -/
lemma runCommand_vars (read : String → α → Except SyntaxError Template × α) (settings : Settings)
    (parameter : String) (s : Console α) :
    Prompt.runCommand ⟨.standard, read, settings⟩ "vars" parameter s =
      (.ok (), { s with
        transcript := s.transcript ++
          if s.vars.bindings.names = [] then [⟨.system, "No variables defined"⟩]
          else (s.vars.bindings.entries.map fun entry => variableLine entry.1 entry.2).map
            fun text => ⟨.system, text⟩ }) := by
  have found : (Registry.standard : Registry α).find? "vars" = some .listVariables := rfl
  simp only [Prompt.runCommand, found, Command.listVariables, Bool.false_eq_true, if_false,
    Prompt.perform, Console.log]
  by_cases none : s.vars.bindings.names = []
  · have isEmpty : s.vars.bindings.isEmpty = true := by
      simpa [Bindings.isEmpty, Bindings.names] using none
    rw [if_pos none, if_pos isEmpty]
    rfl
  · have isEmpty : ¬s.vars.bindings.isEmpty = true := by
      simpa [Bindings.isEmpty, Bindings.names] using none
    rw [if_neg none, if_neg isEmpty]
    rfl

/-- **Histories of variables**: over every history, what is looked up, asked for or taken under a name
is the value of its last definition that no removal follows. Each name that has a value is listed once,
and names are listed in the order of the definitions that first bound them since their last removals.
So a name that is defined again keeps its place, also when the built-in functions are loaded; a removal
keeps the order of all others; and what is defined again behind its removal comes last. The command that
lists the variables logs one line for each of them, in that order. -/
theorem run_records (steps : List Step) :
    let vars := empty.run steps
    let history := changesFrom 0 steps
    let names := vars.bindings.names
    (∀ name, vars.get? name = valueAfter history name ∧
        vars.bindings.contains name = (valueAfter history name).isSome ∧
        (vars.take name).1 = valueAfter history name) ∧
      names.Nodup ∧
      (∀ name value,
        (name, value) ∈ vars.bindings.entries ↔ valueAfter history name = some value) ∧
      names.Pairwise (fun a b => (standing history b).length < (standing history a).length) ∧
      (∀ name value, (vars.define name value).bindings.names =
        if (valueAfter history name).isSome then names else names ++ [name]) ∧
      vars.loadBuiltins.bindings.names =
        names ++ ["byteRange", "charRange", "repeat", "time"].filter (· ∉ names) ∧
      (∀ name, (vars.take name).2.bindings.names = names.filter (· ≠ name) ∧
        ∀ value, ((vars.take name).2.define name value).bindings.names =
          names.filter (· ≠ name) ++ [name]) ∧
      vars.bindings.size = names.length ∧
      (vars.bindings.isEmpty = true ↔ vars.bindings.size = 0) ∧
      ∃ texts, List.Forall₂ ListedAs vars.bindings.entries texts ∧
        ∀ {α : Type} (read : String → α → Except SyntaxError Template × α) (settings : Settings)
          (parameter : String) (s : Console α),
          Prompt.runCommand ⟨.standard, read, settings⟩ "vars" parameter { s with vars := vars } =
            (.ok (), { s with
              vars := vars
              transcript := s.transcript ++ if names = [] then [⟨.system, "No variables defined"⟩]
                else texts.map fun text => ⟨.system, text⟩ }) := by
  intro vars history
  have records : vars.bindings.Records history := records_run steps
  clear_value vars history
  intro names
  have taken (name : String) : vars.take name = (vars.get? name, vars.remove name) := vars.take_eq name
  have removed (name : String) : (vars.remove name).bindings.names = names.filter (· ≠ name) :=
    names_erase vars.bindings name
  refine ⟨fun name => ⟨records.get?_eq name, ?_, ?_⟩, vars.bindings.distinct, fun name value => ?_,
    records.order, fun name value => ?_, vars.names_loadBuiltins, fun name => ⟨?_, fun value => ?_⟩,
    ?_, ?_, vars.bindings.entries.map fun entry => variableLine entry.1 entry.2, ?_, ?_⟩
  · rw [Bindings.contains, records.get?_eq]
  · rw [taken]
    exact records.get?_eq name
  · rw [← get?_eq_some_iff, records.get?_eq]
  · rw [← records.get?_eq, define, names_insert]
    simp only [isSome_get?_iff]
    rfl
  · rw [taken, removed]
  · rw [taken, define, names_insert, removed, if_neg (by simp)]
  · rw [Bindings.size, ← List.length_map (f := Prod.fst)]
    rfl
  · rw [Bindings.isEmpty, Bindings.size]
    simp
  · rw [List.forall₂_map_right_iff]
    exact List.forall₂_same.2 fun entry _ => listedAs_variableLine entry
  · intro α read settings parameter s
    exact runCommand_vars read settings parameter { s with vars := vars }

/-- A name of a built-in function that was bound before keeps its place when these are loaded, and a
name that is removed and bound again comes last. -/
example :
    (empty.run [.define "time" (.text "noon"), .define "a" (.text ""), .loadBuiltins, .remove "a",
      .define "a" (.binary [])]).bindings.names =
        ["time", "byteRange", "charRange", "repeat", "a"] := by
  decide

end Variables

end FrameConsole
