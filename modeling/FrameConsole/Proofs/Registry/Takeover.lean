import FrameConsole.Proofs.Bindings.Changes
import FrameConsole.Registry
import Mathlib.Data.List.Basic
import Mathlib.Data.List.Induction
import Mathlib.Tactic.Lemma

/-!
# Takeover of names

Which command a name calls after any commands have been registered, with any lists of names: the last
one registered that has the name. A command that takes names over leaves all others as they are, and the
names keep the order in which they were first claimed.

A registry may also be kept as a roster: the commands in a row, and for each name the place of its
command in the row. While a command is being registered its names point behind the end of the row, since
it only comes there afterwards. Once it has been registered all places lie in the row again, and the
roster answers as the registry does.

## Main definitions

* `FrameConsole.Registry.ofCommands` — a registry of some commands.
* `FrameConsole.Roster` — a registry kept by places.
* `FrameConsole.Roster.Keeps` — a roster keeps a registry.

## Main results

* `FrameConsole.Registry.find?_register`, `FrameConsole.Registry.find?_ofCommands` — the last command
  that has a name is the one that it calls.
* `FrameConsole.Registry.names_ofCommands` — the names in the order of their first claims.
* `FrameConsole.Roster.Keeps.register` — registering a command keeps all places in the row.
* `FrameConsole.Registry.ofCommands_resolves` — names over every history of registrations.
-/

namespace FrameConsole

variable {α β : Type}

/-! ## One value under several names -/

/-- Names that are bound to one value have that value, and all others have what they had. -/
lemma Bindings.get?_foldl_insert (names : List String) (value : β) (bs : Bindings β)
    (name : String) :
    (names.foldl (fun bs name => bs.insert name value) bs).get? name =
      if name ∈ names then some value else bs.get? name := by
  induction names generalizing bs with
  | nil => simp
  | cons first names ih =>
    rw [List.foldl_cons, ih, get?_insert]
    by_cases later : name ∈ names
    · simp [later]
    · simp [later]

/-- Names that are bound one after the other come behind those that were bound before, each of them
once. -/
lemma Bindings.names_foldl_insert (names : List String) (value : β) {bs : Bindings β}
    {claims : List String} (h : bs.names = claims.eraseDups) :
    (names.foldl (fun bs name => bs.insert name value) bs).names =
      (claims ++ names).eraseDups := by
  have all := names_insertAll (names.map fun name => (name, value)) h
  have same : (names.map fun name => (name, value)).map Prod.fst = names :=
    (List.map_map ..).trans (List.map_id names)
  rwa [insertAll, List.foldl_map, same] at all

/-- Which names are bound, and in which order, does not depend on the values. -/
lemma Bindings.names_foldl_insert_congr {γ : Type} (names : List String) (value : β) (value' : γ)
    {bs : Bindings β} {bs' : Bindings γ} (h : bs.names = bs'.names) :
    (names.foldl (fun bs name => bs.insert name value) bs).names =
      (names.foldl (fun bs name => bs.insert name value') bs').names := by
  induction names generalizing bs bs' with
  | nil => exact h
  | cons name names ih =>
    refine ih ?_
    rw [names_insert, names_insert, h]

/-! ## Registries -/

namespace Registry

/-- The registry of some commands, registered one after the other. -/
def ofCommands (commands : List (Command α)) : Registry α :=
  commands.foldl register empty

/-- One more command is registered last. -/
lemma ofCommands_concat (commands : List (Command α)) (command : Command α) :
    ofCommands (commands ++ [command]) = (ofCommands commands).register command :=
  List.foldl_concat ..

/-- The names of a command call it from its registration on, and all others call what they did. -/
lemma find?_register (r : Registry α) (command : Command α) (name : String) :
    (r.register command).find? name =
      if name ∈ command.names then some command else r.find? name :=
  Bindings.get?_foldl_insert command.names command r.bindings name

/-- A name calls the last command that has it. -/
lemma find?_ofCommands (commands : List (Command α)) (name : String) :
    (ofCommands commands).find? name =
      commands.reverse.find? fun command => name ∈ command.names := by
  induction commands using List.reverseRecOn with
  | nil => rfl
  | append_singleton commands command ih =>
    rw [ofCommands_concat, find?_register, ih, List.reverse_concat, List.find?_cons]
    by_cases claimed : name ∈ command.names <;> simp [claimed]

/-- Each name stands where it was first claimed. -/
lemma names_ofCommands (commands : List (Command α)) :
    (ofCommands commands).names = (commands.flatMap Command.names).eraseDups := by
  induction commands using List.reverseRecOn with
  | nil => rfl
  | append_singleton commands command ih =>
    rw [ofCommands_concat, List.flatMap_append, List.flatMap_singleton]
    exact Bindings.names_foldl_insert command.names command ih

/-- Every registration counts. -/
lemma size_ofCommands (commands : List (Command α)) :
    (ofCommands commands).size = commands.length := by
  induction commands using List.reverseRecOn with
  | nil => rfl
  | append_singleton commands command ih =>
    rw [ofCommands_concat, register, ih, List.length_append, List.length_singleton]

end Registry

/-! ## Rosters -/

/-- Commands in a row, and the place of a command for each name. -/
structure Roster (α : Type) where
  /-- The commands in the order of their registration. -/
  commands : List (Command α)
  /-- For each name the place of its command in the row. -/
  places : Bindings Nat

namespace Roster

/-- The roster without commands. -/
def empty : Roster α :=
  ⟨[], .empty⟩

/-- Gives a name to the command that will come next into the row. -/
def claim (r : Roster α) (name : String) : Roster α :=
  { r with places := r.places.insert name r.commands.length }

/-- Puts a command at the end of the row. -/
def push (r : Roster α) (command : Command α) : Roster α :=
  { r with commands := r.commands ++ [command] }

/-- Registers a command: it gets its names first, and its place afterwards. -/
def register (r : Roster α) (command : Command α) : Roster α :=
  (command.names.foldl claim r).push command

/-- The roster of some commands, registered one after the other. -/
def ofCommands (commands : List (Command α)) : Roster α :=
  commands.foldl register empty

/-- The command at the place of a name. -/
def find? (r : Roster α) (name : String) : Option (Command α) :=
  (r.places.get? name).bind fun place => r.commands[place]?

/-- A roster keeps a registry: all places lie in the row, and names, their commands and the number of
commands are the same. -/
structure Keeps (roster : Roster α) (r : Registry α) : Prop where
  /-- All places lie in the row. -/
  inRow (name : String) (place : Nat) :
    roster.places.get? name = some place → place < roster.commands.length
  /-- Names call the same commands. -/
  find?_eq (name : String) : roster.find? name = r.find? name
  /-- The names are the same, in the same order. -/
  names_eq : roster.places.names = r.names
  /-- The commands are as many. -/
  length_eq : roster.commands.length = r.size

/-- Names are given before the row grows. -/
lemma foldl_claim (names : List String) (r : Roster α) :
    names.foldl claim r =
      ⟨r.commands,
        names.foldl (fun places name => places.insert name r.commands.length) r.places⟩ := by
  induction names generalizing r with
  | nil => rfl
  | cons name names ih =>
    rw [List.foldl_cons, ih]
    rfl

/-- After a registration the names of the command have the last place, and all others have the place
that they had. -/
lemma get?_places_register (r : Roster α) (command : Command α) (name : String) :
    (r.register command).places.get? name =
      if name ∈ command.names then some r.commands.length else r.places.get? name := by
  rw [register, foldl_claim]
  exact Bindings.get?_foldl_insert command.names r.commands.length r.places name

/-- After a registration the command stands last in the row. -/
lemma commands_register (r : Roster α) (command : Command α) :
    (r.register command).commands = r.commands ++ [command] := by
  rw [register, foldl_claim]
  rfl

/-- Without commands there is nothing to keep. -/
lemma keeps_empty : (empty : Roster α).Keeps .empty :=
  ⟨fun _ _ absent => (nomatch absent), fun _ => rfl, rfl, rfl⟩

/-- Registering a command keeps all places in the row.

**Proof sketch.** The names of the command get the place behind the row, where the command then comes.
All other names keep their places, which lie in the row before it grows. -/
lemma Keeps.register {roster : Roster α} {r : Registry α} (h : roster.Keeps r)
    (command : Command α) : (roster.register command).Keeps (r.register command) where
  inRow name place := by
    rw [get?_places_register, commands_register, List.length_append, List.length_singleton]
    split_ifs
    · rintro ⟨⟩
      omega
    · intro found
      have := h.inRow name place found
      omega
  find?_eq name := by
    rw [find?, get?_places_register, commands_register, Registry.find?_register]
    split_ifs
    · simp
    · rw [← h.find?_eq, find?]
      cases found : roster.places.get? name with
      | none => rfl
      | some place =>
        exact List.getElem?_append_left (h.inRow name place found)
  names_eq := by
    rw [Roster.register, foldl_claim]
    exact Bindings.names_foldl_insert_congr command.names _ command h.names_eq
  length_eq := by
    rw [commands_register, List.length_append, h.length_eq]
    rfl

/-- Over every history of registrations the roster keeps the registry. -/
lemma keeps_ofCommands (commands : List (Command α)) :
    (ofCommands commands).Keeps (Registry.ofCommands commands) := by
  induction commands using List.reverseRecOn with
  | nil => exact keeps_empty
  | append_singleton commands command ih =>
    rw [ofCommands, List.foldl_concat, Registry.ofCommands_concat]
    exact ih.register command

end Roster

/-- **Takeover of names**: after any commands have been registered, with any names, a name calls the last
one that has it, and nothing if none has. The names are those that have been claimed, each of them once
and in the order of the first claims. A command that is registered takes its own names over, and all
other names call what they did. Every registration counts. The places of a roster of the same commands
lie in its row, so that it answers as the registry does. -/
theorem Registry.ofCommands_resolves (commands : List (Command α)) :
    let r := ofCommands commands
    let roster := Roster.ofCommands commands
    (∀ name command, r.find? name = some command ↔
        ∃ before behind, commands = before ++ command :: behind ∧ name ∈ command.names ∧
          ∀ later ∈ behind, name ∉ later.names) ∧
      (∀ name, r.find? name = none ↔ ∀ command ∈ commands, name ∉ command.names) ∧
      r.names = (commands.flatMap Command.names).eraseDups ∧
      r.names.Nodup ∧
      (∀ taker name, (r.register taker).find? name =
        if name ∈ taker.names then some taker else r.find? name) ∧
      r.size = commands.length ∧
      roster.Keeps r := by
  intro r roster
  refine ⟨fun name command => ?_, fun name => ?_, names_ofCommands commands, r.bindings.distinct,
    find?_register r, size_ofCommands commands, Roster.keeps_ofCommands commands⟩
  · rw [find?_ofCommands, List.find?_eq_some_iff_append]
    constructor
    · rintro ⟨claimed, behind, before, split, others⟩
      refine ⟨before.reverse, behind.reverse, ?_, by simpa using claimed, ?_⟩
      · simpa using congrArg List.reverse split
      · intro later mem
        simpa using others later (List.mem_reverse.1 mem)
    · rintro ⟨before, behind, rfl, claimed, others⟩
      refine ⟨by simpa using claimed, behind.reverse, before.reverse, by simp, ?_⟩
      intro later mem
      simpa using others later (List.mem_reverse.1 mem)
  · rw [find?_ofCommands, List.find?_eq_none]
    simp

/-- A command that has lost its only name, one that claims a name twice, and one without names. -/
example :
    let command (names : List String) : Command Unit :=
      { names := names, takesTemplate := false, info := "", run := fun _ s => (.ok (), s) }
    let r := Registry.ofCommands [command ["x"], command ["y", "x", "y"], command []]
    r.names = ["x", "y"] ∧ r.size = 3 ∧ (r.find? "x").map Command.names = some ["y", "x", "y"] := by
  decide

end FrameConsole
