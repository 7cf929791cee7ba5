/-!
# Ordered bindings

Values under names, in the order in which the names were first bound. Binding a name again replaces
its value and keeps its place; removing a name keeps the order of all others, so a name that is
bound after its removal goes to the end. No name occurs twice.

## Main definitions

* `FrameConsole.Bindings` — the bindings, with the fact that names are distinct.
* `FrameConsole.Bindings.get?`, `FrameConsole.Bindings.insert`, `FrameConsole.Bindings.erase`.
* `FrameConsole.Bindings.take` — removes a name and answers with its value.

## Main results

* `FrameConsole.Bindings.map_fst_put` — binding a name adds it at the end if it is new and
  otherwise leaves the names as they are.
* `FrameConsole.Bindings.get?_insert`, `FrameConsole.Bindings.get?_erase`,
  `FrameConsole.Bindings.names_insert`, `FrameConsole.Bindings.names_erase` — what is under the names
  and in which order they stand, after a name is bound or removed.
* `FrameConsole.Bindings.take_eq` — taking a name is looking it up and removing it.
-/

namespace FrameConsole

/-! ### Lists of entries -/

/-- Replaces the value under a name in its place, or adds the name at the end. -/
def Bindings.put {β : Type} (name : String) (value : β) : List (String × β) → List (String × β)
  | [] => [(name, value)]
  | entry :: entries =>
    if entry.1 = name then (name, value) :: entries else entry :: put name value entries

/-- The names after `put`. -/
theorem Bindings.map_fst_put {β : Type} (name : String) (value : β) (entries : List (String × β)) :
    (Bindings.put name value entries).map Prod.fst =
      if name ∈ entries.map Prod.fst then entries.map Prod.fst
      else entries.map Prod.fst ++ [name] := by
  induction entries with
  | nil => simp [Bindings.put]
  | cons entry entries ih =>
    by_cases h : entry.1 = name
    · simp [Bindings.put, h]
    · have h' : ¬name = entry.1 := fun e => h e.symm
      simp only [Bindings.put, h, if_false, List.map_cons, ih, List.mem_cons, h', false_or]
      split <;> simp

/-- Distinct names stay distinct. -/
theorem Bindings.nodup_put {β : Type} (name : String) (value : β) {entries : List (String × β)}
    (h : (entries.map Prod.fst).Nodup) :
    ((Bindings.put name value entries).map Prod.fst).Nodup := by
  rw [Bindings.map_fst_put]
  split
  · exact h
  · rename_i absent
    refine List.nodup_append.2 ⟨h, by simp, ?_⟩
    intro a ha b hb e
    simp only [List.mem_singleton] at hb
    exact absent (hb ▸ e ▸ ha)

/-- Looking a name up in a list of entries compares it with the first name first. -/
theorem lookup_cons_eq_ite {β : Type} (name key : String) (value : β)
    (entries : List (String × β)) :
    ((key, value) :: entries).lookup name =
      if name = key then some value else entries.lookup name := by
  rw [List.lookup_cons]
  by_cases h : name = key
  · simp [h]
  · simp [h, beq_false_of_ne h]

/-- Looking up a name that occurs once gives what is entered under it. -/
theorem lookup_eq_some_iff_mem {β : Type} {entries : List (String × β)} {key : String} {value : β}
    (distinct : (entries.map Prod.fst).Nodup) :
    entries.lookup key = some value ↔ (key, value) ∈ entries := by
  rw [List.lookup_eq_some_iff]
  constructor
  · rintro ⟨before, after, rfl, -⟩
    simp
  · intro mem
    obtain ⟨before, after, rfl⟩ := List.append_of_mem mem
    refine ⟨before, after, rfl, fun entry earlier => ?_⟩
    rw [List.map_append, List.map_cons] at distinct
    have apart := (List.nodup_append.1 distinct).2.2 entry.1 (List.mem_map_of_mem earlier) key
      List.mem_cons_self
    simpa using apart.symm

/-- Looking a name up after `put`. -/
theorem Bindings.lookup_put {β : Type} (name key : String) (value : β)
    (entries : List (String × β)) :
    (Bindings.put name value entries).lookup key =
      if key = name then some value else entries.lookup key := by
  induction entries with
  | nil => rw [Bindings.put, lookup_cons_eq_ite]
  | cons entry entries ih =>
    obtain ⟨first, old⟩ := entry
    by_cases same : first = name
    · rw [Bindings.put, if_pos same, lookup_cons_eq_ite, lookup_cons_eq_ite, same]
      by_cases h : key = name <;> simp [h]
    · rw [Bindings.put, if_neg same, lookup_cons_eq_ite, lookup_cons_eq_ite, ih]
      by_cases h : key = first
      · have other : ¬key = name := fun e => same (h.symm.trans e)
        rw [if_pos h, if_neg other, if_pos h]
      · rw [if_neg h, if_neg h]

/-- Looking a name up among the entries of all names but one. -/
theorem Bindings.lookup_filter_ne {β : Type} (name key : String) (entries : List (String × β)) :
    (entries.filter fun entry => entry.1 ≠ name).lookup key =
      if key = name then none else entries.lookup key := by
  induction entries with
  | nil => simp
  | cons entry entries ih =>
    obtain ⟨first, old⟩ := entry
    by_cases same : first = name
    · rw [List.filter_cons_of_neg (by simp [same]), ih, lookup_cons_eq_ite, same]
      by_cases h : key = name <;> simp [h]
    · rw [List.filter_cons_of_pos (by simp [same]), lookup_cons_eq_ite, lookup_cons_eq_ite, ih]
      by_cases h : key = first
      · have other : ¬key = name := fun e => same (h.symm.trans e)
        rw [if_pos h, if_neg other, if_pos h]
      · rw [if_neg h, if_neg h]

/-- A name that is looked up is found if it is among the names. -/
theorem Bindings.isSome_lookup_iff {β : Type} {name : String} {entries : List (String × β)} :
    (entries.lookup name).isSome ↔ name ∈ entries.map Prod.fst := by
  induction entries with
  | nil => simp
  | cons entry entries ih =>
    obtain ⟨first, old⟩ := entry
    rw [lookup_cons_eq_ite, List.map_cons, List.mem_cons, ← ih]
    by_cases h : name = first <;> simp [h]

/-- Takes the first entry of a name out: the value in it, if there is one, and the other entries in
their order. -/
def Bindings.takeOut {β : Type} (name : String) :
    List (String × β) → Option β × List (String × β)
  | [] => (none, [])
  | entry :: entries =>
    if entry.1 = name then (some entry.2, entries)
    else ((takeOut name entries).1, entry :: (takeOut name entries).2)

/-- Where names are distinct, what is left are the entries of all other names. -/
theorem Bindings.takeOut_eq {β : Type} (name : String) {entries : List (String × β)}
    (h : (entries.map Prod.fst).Nodup) :
    Bindings.takeOut name entries =
      (entries.lookup name, entries.filter fun entry => entry.1 ≠ name) := by
  induction entries with
  | nil => rfl
  | cons entry entries ih =>
    obtain ⟨first, value⟩ := entry
    obtain ⟨absent, h⟩ := List.nodup_cons.1 h
    by_cases same : first = name
    · have others : ∀ entry ∈ entries, decide (entry.1 ≠ name) = true := by
        intro entry mem
        refine decide_eq_true fun e => absent ?_
        rw [same, ← e]
        exact List.mem_map.2 ⟨entry, mem, rfl⟩
      rw [Bindings.takeOut, if_pos same, lookup_cons_eq_ite, if_pos same.symm,
        List.filter_cons_of_neg (by simp [same]), List.filter_eq_self.2 others]
    · have other : ¬name = first := fun e => same e.symm
      rw [Bindings.takeOut, if_neg same, ih h, lookup_cons_eq_ite, if_neg other,
        List.filter_cons_of_pos (by simp [same])]

/-! ### Bindings -/

/-- Values under distinct names, in the order in which the names were first bound. -/
structure Bindings (β : Type) where
  /-- The names with their values. -/
  entries : List (String × β)
  /-- No name occurs twice. -/
  distinct : (entries.map Prod.fst).Nodup

namespace Bindings

variable {β : Type}

/-- No bindings. -/
def empty : Bindings β :=
  ⟨[], by simp⟩

instance : Inhabited (Bindings β) := ⟨empty⟩

/-- The bound names in order. -/
def names (bs : Bindings β) : List String :=
  bs.entries.map Prod.fst

/-- The value under a name. -/
def get? (bs : Bindings β) (name : String) : Option β :=
  bs.entries.lookup name

/-- Whether a name is bound. -/
def contains (bs : Bindings β) (name : String) : Bool :=
  (bs.get? name).isSome

/-- The number of names. -/
def size (bs : Bindings β) : Nat :=
  bs.entries.length

/-- Whether no name is bound. -/
def isEmpty (bs : Bindings β) : Bool :=
  bs.entries.isEmpty

/-- Binds a name: in its place if it is bound already, at the end if it is not. -/
def insert (bs : Bindings β) (name : String) (value : β) : Bindings β :=
  ⟨put name value bs.entries, nodup_put name value bs.distinct⟩

/-- Removes a name. -/
def erase (bs : Bindings β) (name : String) : Bindings β :=
  ⟨bs.entries.filter fun entry => entry.1 ≠ name,
    bs.distinct.sublist (List.filter_sublist.map Prod.fst)⟩

/-- Removes a name and answers with the value that it had. -/
def take (bs : Bindings β) (name : String) : Option β × Bindings β :=
  ((takeOut name bs.entries).1, ⟨(takeOut name bs.entries).2, by
    rw [takeOut_eq name bs.distinct]
    exact (bs.erase name).distinct⟩)

/-- Taking a name is looking it up and removing it. -/
theorem take_eq (bs : Bindings β) (name : String) : bs.take name = (bs.get? name, bs.erase name) := by
  simp only [take, takeOut_eq name bs.distinct]
  rfl

/-- A bound name has its new value, and all others have what they had. -/
@[simp] theorem get?_insert (bs : Bindings β) (name key : String) (value : β) :
    (bs.insert name value).get? key = if key = name then some value else bs.get? key :=
  lookup_put name key value bs.entries

/-- A removed name has no value, and all others have what they had. -/
@[simp] theorem get?_erase (bs : Bindings β) (name key : String) :
    (bs.erase name).get? key = if key = name then none else bs.get? key :=
  lookup_filter_ne name key bs.entries

/-- The value of a name is the one that is entered under it. -/
theorem get?_eq_some_iff {bs : Bindings β} {name : String} {value : β} :
    bs.get? name = some value ↔ (name, value) ∈ bs.entries :=
  lookup_eq_some_iff_mem bs.distinct

/-- The names are those that have a value. -/
theorem isSome_get?_iff {bs : Bindings β} {name : String} :
    (bs.get? name).isSome ↔ name ∈ bs.names :=
  isSome_lookup_iff

/-- A name that is bound already keeps its place, and a new one comes last. -/
@[simp] theorem names_insert (bs : Bindings β) (name : String) (value : β) :
    (bs.insert name value).names = if name ∈ bs.names then bs.names else bs.names ++ [name] :=
  map_fst_put name value bs.entries

/-- Without a name all others stand in their order. -/
@[simp] theorem names_erase (bs : Bindings β) (name : String) :
    (bs.erase name).names = bs.names.filter (· ≠ name) := by
  simp only [names, erase, List.filter_map]
  rfl

end FrameConsole.Bindings
