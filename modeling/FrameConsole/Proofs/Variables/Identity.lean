import FrameConsole.Proofs.Evaluation.Mentioned
import Mathlib.Order.Defs.Unbundled

/-!
# Identity of values

When are two values equal that variables hold, at the same time or at different times? Texts and byte
sequences are equal if their contents are. Functions are equal if they are copies of one function that
has been made, whatever names they are bound to and whatever became of the name that they were copied
from. Making the same function once more gives another one, so the built-in functions differ from those
that an earlier loading made, although all of them but that for the time answer alike.

The functions that have been made are numbered in the order of their making. From which of them the
value under a name descends is said of the history alone; the identities that functions carry are
another matter, and turn out to be these numbers.

## Main definitions

* `FrameConsole.Workshop` — variables with the functions that have been made.
* `FrameConsole.Workshop.Step`, `FrameConsole.Workshop.run` — what is done to them.
* `FrameConsole.Workshop.Descends` — the function from which the value under a name descends.

## Main results

* `FrameConsole.Workshop.numbered_run` — identities are given out once.
* `FrameConsole.Workshop.exists_descends_iff` — functions under names are copies of those that they
  descend from.
* `FrameConsole.Workshop.equal_iff_same_origin` — equality of values over whole histories.
-/

namespace FrameConsole

open Bindings

/-! ## Equality -/

namespace Value

/-- All that equality looks at: the content of a text or of a byte sequence, the name and the identity
of a function. -/
def token : Value → String ⊕ Bytes ⊕ String × ℕ
  | .text value => .inl value
  | .binary value => .inr (.inl value)
  | .function f => .inr (.inr (f.name, f.identity))

/-- Values are equal if what equality looks at is the same. -/
lemma beq_iff {v w : Value} : (v == w) = true ↔ v.token = w.token := by
  show v.same w = true ↔ _
  cases v <;> cases w <;> simp [same, token]

/-- Equality of values is an equivalence. -/
lemma beq_equivalence : Equivalence fun v w : Value => (v == w) = true := by
  simp only [beq_iff]
  exact eq_equivalence.comap token

/-- Equal values are of the same kind. -/
lemma dataType_eq_of_beq {v w : Value} (h : (v == w) = true) : v.dataType = w.dataType := by
  have same := beq_iff.1 h
  cases v <;> cases w
  all_goals first | rfl | cases same

end Value

/-! ## Histories -/

/-- What a step may bind to a name. -/
inductive Given where
  /-- A text. -/
  | text (value : String)
  /-- A byte sequence. -/
  | binary (value : Bytes)
  /-- A copy of the function that was made under a number. -/
  | function (number : ℕ)

/-- Variables with the functions that have been made, in the order of their making. A function that
has been made can be bound at any time, also when no name stands for it any longer. -/
structure Workshop where
  /-- The variables. -/
  vars : Variables
  /-- The functions that have been made. -/
  made : List FunctionValue

namespace Workshop

/-- No variables, and no functions. -/
def empty : Workshop :=
  ⟨.empty, []⟩

/-- What is done to variables. -/
inductive Step where
  /-- A function is made, and not bound yet. -/
  | make (name : String) (body : FunctionBody)
  /-- A value is bound to a name. -/
  | define (name : String) (given : Given)
  /-- The function that was made under a number is bound to its own name. -/
  | defineFunction (number : ℕ)
  /-- The built-in functions are made and bound to their names. -/
  | loadBuiltins
  /-- A name is bound to a copy of the value that another one has. -/
  | copy (name source : String)
  /-- A name is removed. -/
  | remove (name : String)

/-- The value that a step is given; there is none for a function that has not been made. -/
def value? (w : Workshop) : Given → Option Value
  | .text value => some (.text value)
  | .binary value => some (.binary value)
  | .function number => w.made[number]?.map .function

/-- What a step leads to. -/
def step (w : Workshop) : Step → Workshop
  | .make name body =>
    ⟨(w.vars.makeFunction name body).2, w.made ++ [(w.vars.makeFunction name body).1]⟩
  | .define name given =>
    match w.value? given with
    | some value => { w with vars := w.vars.define name value }
    | none => w
  | .defineFunction number =>
    match w.made[number]? with
    | some f => { w with vars := w.vars.defineFunction f }
    | none => w
  | .loadBuiltins =>
    ⟨w.vars.loadBuiltins, w.made ++ Variables.madeFrom w.vars.nextIdentity builtins⟩
  | .copy name source => { w with vars := w.vars.copy name source }
  | .remove name => { w with vars := (w.vars.take name).2 }

/-- What a history leads to. -/
def run (history : List Step) : Workshop :=
  history.foldl step empty

/-- The names that a step changes. -/
def changed (w : Workshop) : Step → List String
  | .make _ _ => []
  | .define name given => if (w.value? given).isSome then [name] else []
  | .defineFunction number => (w.made[number]?.map FunctionValue.name).toList
  | .loadBuiltins => builtins.map Prod.fst
  | .copy name source => if (w.vars.get? source).isSome then [name] else []
  | .remove name => [name]

/-- After a history, the value under a name is a function that descends by copies from the one that
was made under a number. -/
inductive Descends : List Step → String → ℕ → Prop
  /-- A function that has been made is bound to a name. -/
  | given {history : List Step} {number : ℕ} (name : String)
      (made : number < (run history).made.length) :
      Descends (history ++ [.define name (.function number)]) name number
  /-- A function that has been made is bound to its own name. -/
  | own {history : List Step} {number : ℕ} {f : FunctionValue}
      (made : (run history).made[number]? = some f) :
      Descends (history ++ [.defineFunction number]) f.name number
  /-- The built-in functions are made anew, and take the next numbers. -/
  | builtin {history : List Step} {k : ℕ} {builtin : String × FunctionBody}
      (found : builtins[k]? = some builtin) :
      Descends (history ++ [.loadBuiltins]) builtin.1 ((run history).made.length + k)
  /-- A copy descends from what its source descends from. -/
  | copied {history : List Step} {source : String} {number : ℕ} (name : String)
      (origin : Descends history source number) :
      Descends (history ++ [.copy name source]) name number
  /-- The value under a name that a step does not change stays the same. -/
  | kept {history : List Step} {name : String} {number : ℕ} (step : Step)
      (origin : Descends history name number) (other : name ∉ (run history).changed step) :
      Descends (history ++ [step]) name number

/-! ## Built-in functions -/

/-- Functions that are made and bound leave all names but their own. -/
lemma get?_foldl_defineNew_of_notMem {bodies : List (String × FunctionBody)} {name : String}
    (other : name ∉ bodies.map Prod.fst) (vars : Variables) :
    (bodies.foldl (fun vars body => vars.defineNew body.1 body.2) vars).get? name =
      vars.get? name := by
  induction bodies generalizing vars with
  | nil => rfl
  | cons body bodies ih =>
    rw [List.map_cons, List.mem_cons, not_or] at other
    rw [List.foldl_cons, ih other.2]
    exact (get?_insert _ _ _ _).trans (if_neg other.1)

/-- Functions that are made and bound one after the other are under their names, with identities one
after the other, if these names are distinct.

**Proof sketch.** Induction on the bodies. What is made later does not touch the name of the first. -/
lemma get?_foldl_defineNew {bodies : List (String × FunctionBody)}
    (distinct : (bodies.map Prod.fst).Nodup) (vars : Variables) {k : ℕ}
    {body : String × FunctionBody} (found : bodies[k]? = some body) :
    (bodies.foldl (fun vars body => vars.defineNew body.1 body.2) vars).get? body.1 =
      some (.function ⟨body.1, vars.nextIdentity + k, body.2⟩) := by
  induction bodies generalizing vars k with
  | nil => cases found
  | cons first bodies ih =>
    obtain ⟨apart, distinct⟩ := List.nodup_cons.1 distinct
    rw [List.foldl_cons]
    cases k with
    | zero =>
      obtain rfl := Option.some.inj found
      rw [get?_foldl_defineNew_of_notMem apart]
      exact (get?_insert _ _ _ _).trans (if_pos rfl)
    | succ k =>
      rw [ih distinct _ found]
      simp only [Variables.defineNew, Variables.defineFunction, Variables.define,
        Variables.makeFunction, Nat.add_right_comm, Nat.add_assoc]

/-- The built-in functions are under their names when they have been loaded. -/
lemma get?_loadBuiltins (vars : Variables) {k : ℕ} {builtin : String × FunctionBody}
    (found : builtins[k]? = some builtin) :
    vars.loadBuiltins.get? builtin.1 =
      some (.function ⟨builtin.1, vars.nextIdentity + k, builtin.2⟩) :=
  get?_foldl_defineNew (by decide) vars found

/-! ## One step -/

/-- The last step of a history comes after what the others lead to. -/
lemma run_concat (history : List Step) (step : Step) :
    run (history ++ [step]) = (run history).step step :=
  List.foldl_concat ..

/-- A step changes the names that it is about, and no others. -/
lemma get?_step_of_notMem {w : Workshop} {step : Step} {name : String}
    (other : name ∉ w.changed step) : (w.step step).vars.get? name = w.vars.get? name := by
  cases step with
  | make => rfl
  | define target given =>
    simp only [changed, Workshop.step] at other ⊢
    cases value : w.value? given with
    | none => rfl
    | some v =>
      rw [value, Option.isSome_some, if_pos rfl, List.mem_singleton] at other
      exact (get?_insert _ _ _ _).trans (if_neg other)
  | defineFunction number =>
    simp only [changed, Workshop.step] at other ⊢
    cases made : w.made[number]? with
    | none => rfl
    | some f =>
      rw [made, Option.map_some, Option.toList_some, List.mem_singleton] at other
      exact (get?_insert _ _ _ _).trans (if_neg other)
  | loadBuiltins => exact get?_foldl_defineNew_of_notMem other w.vars
  | copy target source =>
    simp only [changed, Workshop.step, Variables.copy] at other ⊢
    cases value : w.vars.get? source with
    | none => rfl
    | some v =>
      rw [value, Option.isSome_some, if_pos rfl, List.mem_singleton] at other
      exact (get?_insert _ _ _ _).trans (if_neg other)
  | remove target =>
    simp only [changed, Workshop.step, Variables.take_eq, List.mem_singleton] at other ⊢
    exact (get?_erase _ _ _).trans (if_neg other)

/-- A name that is defined has the value that the step is given. -/
lemma get?_step_define {w : Workshop} {given : Given} {v : Value} (value : w.value? given = some v)
    (name : String) : (w.step (.define name given)).vars.get? name = some v := by
  simp only [step, value]
  exact (get?_insert _ _ _ _).trans (if_pos rfl)

/-- A function that is defined is under its own name. -/
lemma get?_step_defineFunction {w : Workshop} {number : ℕ} {f : FunctionValue}
    (made : w.made[number]? = some f) :
    (w.step (.defineFunction number)).vars.get? f.name = some (.function f) := by
  simp only [step, made]
  exact (get?_insert _ _ _ _).trans (if_pos rfl)

/-- A copy has the value that its source had. -/
lemma get?_step_copy {w : Workshop} {source : String} {v : Value}
    (bound : w.vars.get? source = some v) (name : String) :
    (w.step (.copy name source)).vars.get? name = some v := by
  simp only [step, Variables.copy, bound]
  exact (get?_insert _ _ _ _).trans (if_pos rfl)

/-- Functions that have been made stay at hand, under their numbers. -/
lemma made_prefix_step (w : Workshop) (step : Step) : w.made <+: (w.step step).made := by
  cases step with
  | make => exact List.prefix_append _ _
  | loadBuiltins => exact List.prefix_append _ _
  | define =>
    simp only [Workshop.step]
    split <;> exact List.prefix_rfl
  | defineFunction =>
    simp only [Workshop.step]
    split <;> exact List.prefix_rfl
  | copy => exact List.prefix_rfl
  | remove => exact List.prefix_rfl

/-! ## Whole histories -/

/-- Functions that have been made stay at hand, whatever follows. -/
lemma made_prefix_run (history later : List Step) :
    (run history).made <+: (run (history ++ later)).made := by
  induction later using List.reverseRecOn with
  | nil => simp only [List.append_nil, List.prefix_rfl]
  | append_singleton later step ih =>
    rw [← List.append_assoc, run_concat]
    exact ih.trans (made_prefix_step _ step)

/-- A function that has been made keeps its number, whatever follows. -/
lemma made_run_append {history : List Step} {number : ℕ} {f : FunctionValue}
    (made : (run history).made[number]? = some f) (later : List Step) :
    (run (history ++ later)).made[number]? = some f := by
  obtain ⟨more, whole⟩ := made_prefix_run history later
  obtain ⟨bound, -⟩ := List.getElem?_eq_some_iff.1 made
  rw [← whole, List.getElem?_append_left bound, made]

/-- The functions that have been made carry their numbers, and the next one is to get the next number. -/
structure Numbered (w : Workshop) : Prop where
  /-- The next function gets the next number. -/
  next : w.vars.nextIdentity = w.made.length
  /-- Each function has got its number. -/
  identity {number : ℕ} {f : FunctionValue} (made : w.made[number]? = some f) : f.identity = number

/-- Functions with identities one after the other go on with the numbers. -/
lemma Numbered.append {w : Workshop} (h : w.Numbered) (bodies : List (String × FunctionBody))
    {vars : Variables} (next : vars.nextIdentity = w.vars.nextIdentity + bodies.length) :
    Numbered ⟨vars, w.made ++ Variables.madeFrom w.vars.nextIdentity bodies⟩ where
  next := by
    rw [next, h.next, List.length_append, Variables.madeFrom, List.length_map, List.length_zipIdx]
  identity {number f} made := by
    rw [List.getElem?_append] at made
    split_ifs at made with old
    · exact h.identity made
    · simp only [Variables.madeFrom, List.getElem?_map, List.getElem?_zipIdx, Option.map_map,
        Option.map_eq_some_iff] at made
      obtain ⟨body, -, rfl⟩ := made
      simp only [Function.comp_apply, h.next]
      omega

/-- A step gives out no identity twice. -/
lemma Numbered.step {w : Workshop} (h : w.Numbered) (step : Step) : (w.step step).Numbered := by
  cases step with
  | make name body => exact h.append [(name, body)] rfl
  | define name given =>
    simp only [Workshop.step]
    split
    · exact ⟨h.next, h.identity⟩
    · exact h
  | defineFunction number =>
    simp only [Workshop.step]
    split
    · exact ⟨h.next, h.identity⟩
    · exact h
  | loadBuiltins =>
    have loaded := congrArg Variables.nextIdentity (Variables.foldl_defineNew builtins w.vars)
    exact h.append builtins loaded
  | copy name source =>
    refine ⟨?_, h.identity⟩
    simp only [Workshop.step, Variables.copy]
    split <;> exact h.next
  | remove name => exact ⟨h.next, h.identity⟩

/-- Over a whole history no identity is given out twice. -/
lemma numbered_run (history : List Step) : (run history).Numbered := by
  induction history using List.reverseRecOn with
  | nil => exact ⟨rfl, fun made => by cases made⟩
  | append_singleton history step ih =>
    rw [run_concat]
    exact ih.step step

/-! ## Descent -/

/-- The `k`-th of the functions that loading the built-in functions makes. -/
lemma made_loadBuiltins {w : Workshop} {k : ℕ} {builtin : String × FunctionBody}
    (found : builtins[k]? = some builtin) :
    (w.step .loadBuiltins).made[w.made.length + k]? =
      some ⟨builtin.1, w.vars.nextIdentity + k, builtin.2⟩ := by
  simp only [step, List.getElem?_append_right (Nat.le_add_right _ _), Nat.add_sub_cancel_left,
    Variables.madeFrom, List.getElem?_map, List.getElem?_zipIdx, found, Option.map_some]

/-- The value under a name is the function that it descends from.

**Proof sketch.** Induction on the descent, with one case for each way in which a value comes to a
name. -/
lemma Descends.exists_made {history : List Step} {name : String} {number : ℕ}
    (h : Descends history name number) :
    ∃ f, (run history).made[number]? = some f ∧
      (run history).vars.get? name = some (.function f) := by
  induction h with
  | @given history number name made =>
    have found := List.getElem?_eq_getElem made
    refine ⟨_, made_run_append found _, ?_⟩
    rw [run_concat]
    exact get?_step_define (by rw [value?, found, Option.map_some]) name
  | @own history number f made =>
    refine ⟨f, made_run_append made _, ?_⟩
    rw [run_concat]
    exact get?_step_defineFunction made
  | @builtin history k builtin found =>
    rw [run_concat]
    exact ⟨_, made_loadBuiltins found, get?_loadBuiltins _ found⟩
  | @copied history source number name origin ih =>
    obtain ⟨f, made, bound⟩ := ih
    refine ⟨f, made_run_append made _, ?_⟩
    rw [run_concat]
    exact get?_step_copy bound name
  | @kept history name number step origin other ih =>
    obtain ⟨f, made, bound⟩ := ih
    refine ⟨f, made_run_append made _, ?_⟩
    rw [run_concat, get?_step_of_notMem other, bound]

/-- A function under a name descends from one that has been made.

**Proof sketch.** Induction on the history, from its last step. Where the step does not change the name,
the descent is as before; otherwise the step says where the function comes from. -/
lemma exists_descends {history : List Step} {name : String} {f : FunctionValue}
    (bound : (run history).vars.get? name = some (.function f)) :
    ∃ number, Descends history name number ∧ (run history).made[number]? = some f := by
  induction history using List.reverseRecOn generalizing name with
  | nil => cases bound
  | append_singleton history step ih =>
    by_cases other : name ∉ (run history).changed step
    · rw [run_concat, get?_step_of_notMem other] at bound
      obtain ⟨number, origin, made⟩ := ih bound
      exact ⟨number, origin.kept step other, made_run_append made _⟩
    · -- The step binds the name, or removes it, so it says by itself what is there.
      rw [not_not] at other
      rw [run_concat] at bound
      cases step with
      | make => cases other
      | define target given =>
        simp only [changed, Option.isSome_iff_exists, List.mem_ite_nil_right, List.mem_singleton]
          at other
        obtain ⟨⟨v, value⟩, rfl⟩ := other
        rw [get?_step_define value] at bound
        obtain rfl := Option.some.inj bound
        cases given with
        | text | binary => cases value
        | function number =>
          obtain ⟨f', made, same⟩ := Option.map_eq_some_iff.1 value
          obtain rfl := Value.function.inj same
          obtain ⟨old, -⟩ := List.getElem?_eq_some_iff.1 made
          exact ⟨number, .given name old, made_run_append made _⟩
      | defineFunction number =>
        simp only [changed, Option.mem_toList, Option.map_eq_some_iff] at other
        obtain ⟨f', made, rfl⟩ := other
        rw [get?_step_defineFunction made] at bound
        obtain rfl := Value.function.inj (Option.some.inj bound)
        exact ⟨number, .own made, made_run_append made _⟩
      | loadBuiltins =>
        obtain ⟨builtin, mem, rfl⟩ := List.mem_map.1 other
        obtain ⟨k, found⟩ := List.mem_iff_getElem?.1 mem
        obtain rfl := Value.function.inj
          (Option.some.inj ((get?_loadBuiltins _ found).symm.trans bound))
        refine ⟨_, .builtin found, ?_⟩
        rw [run_concat]
        exact made_loadBuiltins found
      | copy target source =>
        simp only [changed, Option.isSome_iff_exists, List.mem_ite_nil_right, List.mem_singleton]
          at other
        obtain ⟨⟨v, value⟩, rfl⟩ := other
        rw [get?_step_copy value] at bound
        obtain rfl := Option.some.inj bound
        obtain ⟨number, origin, made⟩ := ih value
        exact ⟨number, origin.copied name, made_run_append made _⟩
      | remove target =>
        obtain rfl := List.mem_singleton.1 other
        simp only [step, Variables.take_eq] at bound
        rw [Variables.get?, Variables.remove, get?_erase, if_pos rfl] at bound
        cases bound

/-- The functions under names are those that they descend from. -/
lemma exists_descends_iff {history : List Step} {name : String} {f : FunctionValue} :
    (run history).vars.get? name = some (.function f) ↔
      ∃ number, Descends history name number ∧ (run history).made[number]? = some f := by
  refine ⟨exists_descends, fun ⟨number, origin, made⟩ => ?_⟩
  obtain ⟨f', made', bound⟩ := origin.exists_made
  obtain rfl := Option.some.inj (made.symm.trans made')
  exact bound

/-! ## Equality over histories -/

/-- Functions at two times of a history are equal if they descend from one function.

**Proof sketch.** A function keeps its number, and it carries this number. So equal ones descend from the
same number, and what descends from the same number is the same function. -/
lemma function_beq_iff_descends {history later : List Step} {a b : String} {f g : FunctionValue}
    (hf : (run history).vars.get? a = some (.function f))
    (hg : (run (history ++ later)).vars.get? b = some (.function g)) :
    (Value.function f == .function g) = true ↔
      ∃ number, Descends history a number ∧ Descends (history ++ later) b number := by
  constructor
  · intro equal
    obtain ⟨m, origin, made⟩ := exists_descends hf
    obtain ⟨n, origin', made'⟩ := exists_descends hg
    have tokens : (f.name, f.identity) = (g.name, g.identity) :=
      Sum.inr.inj (Sum.inr.inj (Value.beq_iff.1 equal))
    have hm : f.identity = m := (numbered_run history).identity made
    have hn : g.identity = n := (numbered_run (history ++ later)).identity made'
    obtain rfl : m = n := hm.symm.trans ((Prod.mk.inj tokens).2.trans hn)
    exact ⟨m, origin, origin'⟩
  · rintro ⟨number, origin, origin'⟩
    obtain ⟨f', made, bound⟩ := origin.exists_made
    obtain ⟨g', made', bound'⟩ := origin'.exists_made
    obtain rfl := Value.function.inj (Option.some.inj (hf.symm.trans bound))
    obtain rfl := Value.function.inj (Option.some.inj (hg.symm.trans bound'))
    obtain rfl := Option.some.inj ((made_run_append made later).symm.trans made')
    exact Value.beq_equivalence.refl _

/-- A name that no step changes has the value that it had. -/
lemma get?_run_append {history later : List Step} {name : String}
    (other : ∀ done step, done ++ [step] <+: later → name ∉ (run (history ++ done)).changed step) :
    (run (history ++ later)).vars.get? name = (run history).vars.get? name := by
  induction later using List.reverseRecOn with
  | nil => rw [List.append_nil]
  | append_singleton later step ih =>
    rw [← List.append_assoc, run_concat, get?_step_of_notMem (other later step List.prefix_rfl)]
    exact ih fun done step front => other done step (front.trans (List.prefix_append _ _))

/-- A function that is made later has another identity than every function under a name before. -/
lemma function_beq_later {history later : List Step} {name : String} {v : Value} {g : FunctionValue}
    (bound : (run history).vars.get? name = some v)
    (new : (run (history ++ later)).vars.nextIdentity ≤ g.identity) :
    (v == .function g) = false := by
  rw [← Bool.not_eq_true, Value.beq_iff]
  intro same
  cases v with
  | text | binary => cases same
  | function f =>
    obtain ⟨number, -, made⟩ := exists_descends bound
    obtain ⟨old, -⟩ := List.getElem?_eq_some_iff.1 (made_run_append made later)
    have carried : f.identity = number := (numbered_run history).identity made
    have next : (run (history ++ later)).vars.nextIdentity = (run (history ++ later)).made.length :=
      (numbered_run (history ++ later)).next
    have tokens : (f.name, f.identity) = (g.name, g.identity) := Sum.inr.inj (Sum.inr.inj same)
    have identities : f.identity = g.identity := (Prod.mk.inj tokens).2
    omega

/-- What descends from a built-in function that was loaded does what that function does. -/
lemma Descends.body_eq {earlier between : List Step} {name : String} {number : ℕ}
    {builtin : String × FunctionBody} (mem : builtin ∈ builtins)
    (loaded : Descends (earlier ++ [.loadBuiltins]) builtin.1 number)
    (origin : Descends (earlier ++ [.loadBuiltins] ++ between) name number) :
    ∃ f, (run (earlier ++ [.loadBuiltins] ++ between)).vars.get? name = some (.function f) ∧
      f.body = builtin.2 := by
  obtain ⟨k, found⟩ := List.mem_iff_getElem?.1 mem
  obtain ⟨f, made, bound⟩ := loaded.exists_made
  obtain ⟨f', made', bound'⟩ := origin.exists_made
  obtain rfl := Option.some.inj ((made_run_append made between).symm.trans made')
  rw [run_concat] at bound
  obtain rfl := Value.function.inj (Option.some.inj ((get?_loadBuiltins _ found).symm.trans bound))
  exact ⟨_, bound', rfl⟩

/-- **Equality of values follows their identity**: it is an equivalence, values of different kinds are
never equal, and texts and byte sequences are equal exactly if their contents are. Over every history,
functions under names, at the same time or one of them later, are equal exactly if they descend by copies
from the same function.

So a copy is equal to what its source had, whatever is done later, as long as the copy itself is not
changed. When the built-in functions are loaded, they are equal to nothing that any name had before,
copies of themselves as loaded earlier included; yet all of these but the copies of that for the time
answer the same, at any two times. -/
theorem equal_iff_same_origin :
    (Equivalence fun v w : Value => (v == w) = true) ∧
      (∀ v w : Value, v.dataType ≠ w.dataType → (v == w) = false) ∧
      (∀ a b : String, (Value.text a == .text b) = true ↔ a = b) ∧
      (∀ a b : Bytes, (Value.binary a == .binary b) = true ↔ a = b) ∧
      ∀ history later : List Step,
        let before := (run history).vars
        (∀ a b f g, before.get? a = some (.function f) →
          (run (history ++ later)).vars.get? b = some (.function g) →
          ((Value.function f == .function g) = true ↔
            ∃ number, Descends history a number ∧ Descends (history ++ later) b number)) ∧
        (∀ name source v, before.get? source = some v →
          (∀ done step, done ++ [step] <+: later →
            name ∉ (run (history ++ [.copy name source] ++ done)).changed step) →
          ∃ w, (run (history ++ [.copy name source] ++ later)).vars.get? name = some w ∧
            (w == v) = true) ∧
        ∀ builtin ∈ builtins, ∃ g,
          (run (history ++ later ++ [.loadBuiltins])).vars.get? builtin.1 = some (.function g) ∧
          (∀ name v, before.get? name = some v → (v == .function g) = false) ∧
          ∀ earlier between, history = earlier ++ [.loadBuiltins] ++ between →
            ∀ name number, Descends (earlier ++ [.loadBuiltins]) builtin.1 number →
              Descends history name number →
              ∃ f, before.get? name = some (.function f) ∧
                (builtin.1 ≠ "time" → ∀ now now' args, f.body now args = g.body now' args) := by
  refine ⟨Value.beq_equivalence, fun v w kinds => ?_, fun a b => ?_, fun a b => ?_,
    fun history later => ⟨fun a b f g hf hg => function_beq_iff_descends hf hg, ?_, ?_⟩⟩
  · rw [← Bool.not_eq_true]
    exact fun equal => kinds (Value.dataType_eq_of_beq equal)
  · rw [Value.beq_iff]
    exact Sum.inl_injective.eq_iff
  · rw [Value.beq_iff]
    exact Sum.inr_injective.eq_iff.trans Sum.inl_injective.eq_iff
  · intro name source v bound other
    refine ⟨v, ?_, Value.beq_equivalence.refl v⟩
    rw [get?_run_append other, run_concat]
    exact get?_step_copy bound name
  · intro builtin mem
    obtain ⟨k, found⟩ := List.mem_iff_getElem?.1 mem
    let g : FunctionValue :=
      ⟨builtin.1, (run (history ++ later)).vars.nextIdentity + k, builtin.2⟩
    have new : (run (history ++ later)).vars.nextIdentity ≤ g.identity := Nat.le_add_right _ k
    refine ⟨g, ?_, fun name v bound => function_beq_later bound new, ?_⟩
    · rw [run_concat]
      exact get?_loadBuiltins _ found
    · rintro earlier between rfl name number loaded origin
      obtain ⟨f, bound, body⟩ := loaded.body_eq mem origin
      refine ⟨f, bound, fun other now now' args => ?_⟩
      have timeless := timeless_builtin mem other 0 now now'
      rw [body]
      exact congrFun (Meaning.answers.inj timeless) args

/-- A copy of a built-in function, which is loaded again when the name of that function stands for a text
and another copy has been made by definition. -/
theorem equal_iff_same_origin_reloaded :
    let history : List Step := [.loadBuiltins, .copy "old" "repeat"]
    let later : List Step := [.define "repeat" (.text "r"), .define "new" (.function 2)]
    ∃ old new again,
      (run history).vars.get? "old" = some (.function old) ∧
      (run (history ++ later)).vars.get? "new" = some (.function new) ∧
      (Value.function old == .function new) = true ∧
      Value.dataType (.text "r") ≠ Value.dataType (.function old) ∧
      (Value.text "r" == .function old) = false ∧
      (∃ w, (run (history ++ later)).vars.get? "old" = some w ∧ (w == .function old) = true) ∧
      (run (history ++ later ++ [.loadBuiltins])).vars.get? "repeat" = some (.function again) ∧
      (Value.function old == .function again) = false ∧
      ∀ now now' args, old.body now args = again.body now' args := by
  intro history later
  obtain ⟨-, kinds, -, -, histories⟩ := equal_iff_same_origin
  have loaded : Descends [.loadBuiltins] "repeat" 2 :=
    @Descends.builtin [] 2 ("repeat", repeatText) rfl
  have copied : Descends history "old" 2 := loaded.copied "old"
  have defined : Descends (history ++ later) "new" 2 :=
    @Descends.given (history ++ [.define "repeat" (.text "r")]) 2 "new" (by decide)
  obtain ⟨old, -, sourceBound⟩ := loaded.exists_made
  have oldBound : (run history).vars.get? "old" = some (.function old) :=
    get?_step_copy sourceBound "old"
  obtain ⟨new, -, newBound⟩ := defined.exists_made
  obtain ⟨equal, -, reloaded⟩ := histories history later
  obtain ⟨again, againBound, apart, alike⟩ := reloaded ("repeat", repeatText) (by simp [builtins])
  obtain ⟨old', oldBound', answers⟩ := alike [] [.copy "old" "repeat"] rfl "old" 2 loaded copied
  obtain rfl := Value.function.inj (Option.some.inj (oldBound.symm.trans oldBound'))
  have differ : Value.dataType (.text "r") ≠ Value.dataType (.function old) := by
    simp [Value.dataType]
  have kept : ∃ w, (run (history ++ later)).vars.get? "old" = some w ∧ (w == .function old) = true := by
    obtain ⟨-, keeps, -⟩ := histories [.loadBuiltins] later
    refine keeps "old" "repeat" (.function old) sourceBound fun done step front => ?_
    have mem : step ∈ later := front.subset (by simp)
    simp only [later, List.mem_cons, List.not_mem_nil, or_false] at mem
    rcases mem with rfl | rfl <;> simp [changed]
  exact ⟨old, new, again, oldBound, newBound, (equal _ _ _ _ oldBound newBound).2 ⟨2, copied, defined⟩,
    differ, kinds _ _ differ, kept, againBound, apart "old" _ oldBound, answers (by decide)⟩

end Workshop

end FrameConsole
