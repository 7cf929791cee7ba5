import FrameConsole.Bindings
import Mathlib.Data.List.DropRight
import Mathlib.Tactic.Lemma

/-!
# Changes of bindings

What happens to names, one change after the other: a name is bound or removed. What is under a name
and in which order names are listed is said of the changes alone. The value of a name is that of its
last change. Names are listed in the order of the definitions that they stand by: a name stands by
the definition that first bound it since its last removal, so a later definition does not move it, and
one behind a removal puts it last.

## Main definitions

* `FrameConsole.Bindings.Change`, `FrameConsole.Bindings.after` — changes, and the bindings that they
  lead to.
* `FrameConsole.Bindings.insertAll` — the bindings after some definitions.
* `FrameConsole.Bindings.valueAfter` — the value of a name after some changes.
* `FrameConsole.Bindings.standing` — the changes since a name has been bound.
* `FrameConsole.Bindings.Records` — bindings hold what some changes say.

## Main results

* `FrameConsole.Bindings.Records.change` — a change keeps bindings and the record of changes together.
* `FrameConsole.Bindings.records_after` — so do all changes.
* `FrameConsole.Bindings.get?_insertAll`, `FrameConsole.Bindings.names_insertAll` — values and names
  where nothing is removed.
-/

namespace FrameConsole.Bindings

variable {β γ : Type}

/-! ## Changes -/

/-- What happens to a name. -/
inductive Change (β : Type) where
  /-- A name is bound to a value. -/
  | bound (name : String) (value : β)
  /-- A name is removed. -/
  | removed (name : String)

namespace Change

/-- The name that changes. -/
def name : Change β → String
  | bound name _ => name
  | removed name => name

/-- The value that a change leaves under its name, if it leaves one. -/
def value? : Change β → Option β
  | bound _ value => some value
  | removed _ => none

/-- Whether a change binds a name. -/
def binds (e : Change β) (name : String) : Bool :=
  e.name = name ∧ e.value?.isSome

/-- Whether a change removes a name. -/
def removes (e : Change β) (name : String) : Bool :=
  e.name = name ∧ e.value?.isNone

/-- The same change with another value. -/
def map (f : β → γ) : Change β → Change γ
  | bound name value => bound name (f value)
  | removed name => removed name

/-- A change with another value is still a change of the same name. -/
@[simp] lemma name_map (f : β → γ) (e : Change β) : (e.map f).name = e.name := by
  cases e <;> rfl

/-- A change leaves what becomes of its value. -/
@[simp] lemma value?_map (f : β → γ) (e : Change β) : (e.map f).value? = e.value?.map f := by
  cases e <;> rfl

end Change

/-- The bindings after a change. -/
def change (bs : Bindings β) : Change β → Bindings β
  | .bound name value => bs.insert name value
  | .removed name => bs.erase name

/-- The bindings after some changes, when there were none before. -/
def after (changes : List (Change β)) : Bindings β :=
  changes.foldl change empty

/-! ## What changes say -/

/-- The value of a name after some changes: that of the last definition of the name, unless a removal
of the name follows it. -/
def valueAfter (changes : List (Change β)) (name : String) : Option β :=
  (changes.reverse.find? fun e => e.name = name).bind Change.value?

/-- The changes since a name has been bound: among those behind its last removal, the first definition
of the name and all that follows. There are none if the name is not bound. -/
def standing (changes : List (Change β)) (name : String) : List (Change β) :=
  (changes.rtakeWhile fun e => !e.removes name).dropWhile fun e => !e.binds name

/-- Bindings hold what some changes say. -/
structure Records (bs : Bindings β) (changes : List (Change β)) : Prop where
  /-- Names have the values that their last changes leave. -/
  get?_eq (name : String) : bs.get? name = valueAfter changes name
  /-- Names are listed in the order in which they have been bound. -/
  order : bs.names.Pairwise fun a b =>
    (standing changes b).length < (standing changes a).length

/-! ## One more change -/

/-- The last change of a name decides its value. -/
lemma valueAfter_concat (changes : List (Change β)) (e : Change β) (name : String) :
    valueAfter (changes ++ [e]) name =
      if name = e.name then e.value? else valueAfter changes name := by
  by_cases same : name = e.name
  · simp [valueAfter, same]
  · simp [valueAfter, same, Ne.symm same]

/-- The value of a name comes from the changes of that name. -/
lemma valueAfter_filter (changes : List (Change β)) (name : String) :
    valueAfter (changes.filter fun e => e.name = name) name = valueAfter changes name := by
  simp [valueAfter, ← List.filter_reverse, List.find?_filter]

/-- Other values take the places of the values.

**Proof sketch.** Induction on the changes, from the last one. -/
lemma valueAfter_map (f : β → γ) (changes : List (Change β)) (name : String) :
    valueAfter (changes.map (Change.map f)) name = (valueAfter changes name).map f := by
  induction changes using List.reverseRecOn with
  | nil => rfl
  | append_singleton changes e ih =>
    rw [List.map_append, List.map_singleton, valueAfter_concat, valueAfter_concat, ih]
    by_cases same : name = e.name <;> simp [same]

/-- A removal leaves no standing. Any other change extends the standing of a name that is bound, and a
definition is the start of the standing of a name that is not. -/
lemma standing_concat (changes : List (Change β)) (e : Change β) (name : String) :
    standing (changes ++ [e]) name =
      if e.removes name then []
      else if standing changes name = [] then if e.binds name then [e] else []
      else standing changes name ++ [e] := by
  by_cases removed : e.removes name
  · simp [standing, removed]
  · have extends_ : (changes ++ [e]).rtakeWhile (fun e => !e.removes name) =
        changes.rtakeWhile (fun e => !e.removes name) ++ [e] := by simp [removed]
    rw [standing, extends_, List.dropWhile_append, if_neg removed]
    change (if (standing changes name).isEmpty then _ else standing changes name ++ [e]) = _
    cases standing changes name with
    | nil => by_cases binds : e.binds name <;> simp [binds]
    | cons => rfl

/-- A name has a value as long as it stands.

**Proof sketch.** Induction on the changes, from the last one. -/
lemma isSome_valueAfter_iff {changes : List (Change β)} {name : String} :
    (valueAfter changes name).isSome ↔ standing changes name ≠ [] := by
  induction changes using List.reverseRecOn with
  | nil => simp [valueAfter, standing]
  | append_singleton changes e ih =>
    rw [valueAfter_concat, standing_concat]
    by_cases same : name = e.name
    · cases value : e.value? with
      | none => simp [Change.removes, same, value]
      | some v =>
        by_cases unbound : standing changes e.name = [] <;>
          simp [Change.removes, Change.binds, same, value, unbound]
    · by_cases unbound : standing changes name = [] <;>
        simp [Change.removes, Change.binds, same, Ne.symm same, ih, unbound]

/-- A name that is bound stands one change longer after any change but its removal. -/
lemma length_standing_concat {changes : List (Change β)} {e : Change β} {name : String}
    (bound : standing changes name ≠ []) (kept : e.removes name = false) :
    (standing (changes ++ [e]) name).length = (standing changes name).length + 1 := by
  simp [standing_concat, bound, kept]

/-! ## Definitions only -/

/-- The bindings after some definitions, one after the other. -/
def insertAll (bs : Bindings β) (entries : List (String × β)) : Bindings β :=
  entries.foldl (fun bs entry => bs.insert entry.1 entry.2) bs

/-- The last definition of a name gives its value, and a name without one has what it had. -/
lemma get?_insertAll (bs : Bindings β) (entries : List (String × β)) (name : String) :
    (bs.insertAll entries).get? name = (entries.reverse.lookup name).or (bs.get? name) := by
  induction entries generalizing bs with
  | nil => rfl
  | cons entry entries ih =>
    obtain ⟨key, value⟩ := entry
    rw [insertAll, List.foldl_cons, ← insertAll, ih, get?_insert, List.reverse_cons,
      List.lookup_append, Option.or_assoc, lookup_cons_eq_ite]
    by_cases same : name = key <;> simp [same]

/-- Names that are defined one after the other come behind those that were bound before, each of them
once.

**Proof sketch.** Induction on the definitions, with the whole sequence of names that have been bound so
far. -/
lemma names_insertAll (entries : List (String × β)) {bs : Bindings β} {claims : List String}
    (h : bs.names = claims.eraseDups) :
    (bs.insertAll entries).names = (claims ++ entries.map Prod.fst).eraseDups := by
  induction entries generalizing bs claims with
  | nil => simpa [insertAll] using h
  | cons entry entries ih =>
    have step : (bs.insert entry.1 entry.2).names = (claims ++ [entry.1]).eraseDups := by
      rw [names_insert, h, List.eraseDups_append]
      by_cases old : entry.1 ∈ claims
      · simp [old, List.removeAll]
      · simp [old, List.removeAll, List.eraseDups_cons]
    rw [insertAll, List.foldl_cons, ← insertAll, ih step, List.append_assoc]
    rfl

/-! ## Bindings and their changes -/

/-- No bindings have no changes. -/
lemma records_empty : (empty : Bindings β).Records [] :=
  ⟨fun _ => rfl, .nil⟩

/-- The names are those that stand. -/
lemma Records.mem_names_iff {bs : Bindings β} {changes : List (Change β)} (h : bs.Records changes)
    {name : String} : name ∈ bs.names ↔ standing changes name ≠ [] := by
  rw [← isSome_get?_iff, h.get?_eq, isSome_valueAfter_iff]

/-- The names that a change does not remove keep their order.

**Proof sketch.** Each of them stands one change longer than before. -/
lemma Records.order_concat {bs : Bindings β} {changes : List (Change β)} (h : bs.Records changes)
    {e : Change β} {names : List String} (sublist : names.Sublist bs.names)
    (kept : ∀ name ∈ names, e.removes name = false) :
    names.Pairwise fun a b =>
      (standing (changes ++ [e]) b).length < (standing (changes ++ [e]) a).length := by
  refine (h.order.sublist sublist).imp_of_mem fun {a b} ha hb older => ?_
  have standsA : standing changes a ≠ [] := h.mem_names_iff.1 (sublist.subset ha)
  have standsB : standing changes b ≠ [] := h.mem_names_iff.1 (sublist.subset hb)
  rw [length_standing_concat standsA (kept a ha), length_standing_concat standsB (kept b hb)]
  omega

/-- A change keeps bindings and the record of changes together.

**Proof sketch.** A definition of a name that is bound moves nothing. A definition of a new name is
the whole standing of that name, and all other names stand longer. A removal takes one name away. -/
lemma Records.change {bs : Bindings β} {changes : List (Change β)} (h : bs.Records changes)
    (e : Change β) : (bs.change e).Records (changes ++ [e]) := by
  cases e with
  | bound name value =>
    have kept : ∀ n, (Change.bound name value).removes n = false := by simp [Change.removes, Change.value?]
    refine ⟨fun key => ?_, ?_⟩
    · rw [valueAfter_concat, Bindings.change, get?_insert, h.get?_eq]
      rfl
    · rw [Bindings.change, names_insert]
      split_ifs with old
      · exact h.order_concat (List.Sublist.refl _) fun n _ => kept n
      · refine List.pairwise_append.2 ⟨h.order_concat (List.Sublist.refl _) fun n _ => kept n, by simp, ?_⟩
        intro a ha b hb
        obtain rfl := List.mem_singleton.1 hb
        have stands : standing changes a ≠ [] := h.mem_names_iff.1 ha
        have unbound : standing changes b = [] := not_not.1 fun stands => old (h.mem_names_iff.2 stands)
        have new : standing (changes ++ [.bound b value]) b = [.bound b value] := by
          simp [standing_concat, unbound, kept, Change.binds, Change.name, Change.value?]
        rw [length_standing_concat stands (kept a), new]
        have := List.length_pos_iff.2 stands
        simpa using this
  | removed name =>
    refine ⟨fun key => ?_, ?_⟩
    · rw [valueAfter_concat, Bindings.change, get?_erase, h.get?_eq]
      rfl
    · rw [Bindings.change, names_erase]
      refine h.order_concat List.filter_sublist fun n mem => ?_
      have other : n ≠ name := by simpa using (List.mem_filter.1 mem).2
      simp [Change.removes, Change.name, other.symm]

/-- Bindings after some changes hold what these say. -/
lemma records_after (changes : List (Change β)) : (after changes).Records changes := by
  induction changes using List.reverseRecOn with
  | nil => exact records_empty
  | append_singleton changes e ih =>
    rw [after, List.foldl_concat]
    exact ih.change e

end FrameConsole.Bindings
