import FrameConsole.Bindings
import FrameConsole.Template.Tree
import Mathlib.Data.List.Forall2
import Mathlib.Data.List.Nodup
import Mathlib.Tactic.Lemma
import Mathlib.Tactic.SplitIfs

/-!
# Nodes

The trees that stand for structured data are objects in which no key is repeated. What such a node
has under a key does not depend on the order of its members, and a part of the keys can be kept of it
while all others are dropped.

## Main definitions

* `FrameConsole.Json.IsNode` — objects without repeated keys.
* `FrameConsole.Json.Has` — what an object has under a key.
* `FrameConsole.Json.keep` — the members under some keys, each rewritten in its own way.

## Main results

* `FrameConsole.Json.IsNode.member?_eq_some_iff` — looking a key up gives what the node has under it.
* `FrameConsole.Json.keep_cons_eq_cons_iff` — what is kept of a node, member by member.
* `FrameConsole.mapM_eq_some_iff` — reading all items of a list.
-/

namespace FrameConsole

namespace Json

/-- An object in which no key is repeated. -/
def IsNode (json : Json) : Prop :=
  ∃ members, json = .object members ∧ (members.map Prod.fst).Nodup

/-- An object has a value under a key. -/
def Has (json : Json) (key : String) (value : Json) : Prop :=
  ∃ members, json = .object members ∧ (key, value) ∈ members

/-- The items of the list that an object has under a key, if it has one there. -/
def itemsUnder (json : Json) (key : String) : List Json :=
  ((json.member? key).bind array?).getD []

/-- The members of an object under some keys, in the order of the keys. Each key comes with how the
value under it is rewritten. -/
def keep (json : Json) (fields : List (String × (Json → Json))) : List (String × Json) :=
  fields.filterMap fun field => (json.member? field.1).map fun value => (field.1, field.2 value)

/-- Rewrite the items of a list. -/
def overItems (f : Json → Json) : Json → Json
  | .array items => .array (items.map f)
  | json => json

/-! ## What a node has -/

/-- Looking a key up in a node gives what the node has under it. -/
lemma IsNode.member?_eq_some_iff {json : Json} (node : json.IsNode) {key : String} {value : Json} :
    json.member? key = some value ↔ json.Has key value := by
  obtain ⟨members, rfl, distinct⟩ := node
  rw [member?, lookup_eq_some_iff_mem distinct]
  simp [Has]

/-- What is kept under a key that is asked for once, in front, is what the node has there. -/
lemma keep_cons_eq_cons_iff {json : Json} {key : String} {f : Json → Json} {value : Json}
    {fields : List (String × (Json → Json))} {rest : List (String × Json)}
    (once : key ∉ fields.map Prod.fst) :
    json.keep ((key, f) :: fields) = (key, value) :: rest ↔
      (∃ v, json.member? key = some v ∧ f v = value) ∧ json.keep fields = rest := by
  cases found : json.member? key with
  | some v => simp [keep, found]
  | none =>
    simp only [keep, List.filterMap_cons, found, Option.map_none, reduceCtorEq, false_and,
      exists_false, iff_false]
    intro kept
    have mem : (key, value) ∈ json.keep fields := by
      rw [keep, kept]
      exact List.mem_cons_self
    obtain ⟨field, listed, same⟩ := List.mem_filterMap.1 mem
    obtain ⟨v, -, ⟨⟩⟩ := Option.map_eq_some_iff.1 same
    exact once (List.mem_map_of_mem listed)

/-- Nothing is kept if no key is asked for. -/
@[simp] lemma keep_nil (json : Json) : json.keep [] = [] :=
  rfl

/-- Rewriting gives a list of trees if each item is rewritten to one. -/
lemma overItems_eq_array_iff {β : Type} {f : Json → Json} {g : β → Json} {json : Json}
    {values : List β} :
    overItems f json = .array (values.map g) ↔
      ∃ items, json = .array items ∧ List.Forall₂ (fun item value => f item = g value) items values := by
  cases json with
  | array items =>
    simp only [overItems, array.injEq, exists_eq_left']
    rw [← List.forall₂_eq_eq_eq, List.forall₂_map_left_iff, List.forall₂_map_right_iff]
  | _ => simp [overItems]

/-- The items under a key are those of the list that a node has there. -/
lemma IsNode.itemsUnder_of_has {json : Json} (node : json.IsNode) {key : String} {items : List Json}
    (list : json.Has key (.array items)) : json.itemsUnder key = items := by
  rw [itemsUnder, node.member?_eq_some_iff.2 list]
  rfl

/-! ## Reading -/

/-- A node has its kind under `type`, and its other values in itself. -/
lemma IsNode.tagged?_eq_some_iff {json tag content : Json} (node : json.IsNode) :
    json.tagged? = some (tag, content) ↔ json.Has "type" tag ∧ content = json := by
  have looked : json.tagged? = (json.member? "type").map fun tag => (tag, json) := by
    obtain ⟨members, rfl, -⟩ := node
    rfl
  rw [looked, Option.map_eq_some_iff]
  simp only [node.member?_eq_some_iff]
  constructor
  · rintro ⟨tag, type, ⟨⟩⟩
    exact ⟨type, rfl⟩
  · rintro ⟨type, rfl⟩
    exact ⟨tag, type, rfl⟩

/-- Integers are read from integers. -/
lemma integer?_eq_some_iff {json : Json} {n : Int} : json.integer? = some n ↔ json = .integer n := by
  cases json <;> simp [integer?]

/-- Texts are read from strings. -/
lemma string?_eq_some_iff {json : Json} {text : String} :
    json.string? = some text ↔ json = .string text := by
  cases json <;> simp [string?]

/-- Items are read from lists. -/
lemma array?_eq_some_iff {json : Json} {items : List Json} :
    json.array? = some items ↔ json = .array items := by
  cases json <;> simp [array?]

/-- A natural number below a bound is read from an integer that is one. -/
lemma natBelow?_eq_some_iff {bound n : Nat} {json : Json} :
    json.natBelow? bound = some n ↔ n < bound ∧ json = .integer n := by
  rw [natBelow?]
  constructor
  · intro read
    obtain ⟨value, found, read⟩ := Option.bind_eq_some_iff.1 read
    split_ifs at read with range
    obtain rfl := Option.some.inj read
    rw [integer?_eq_some_iff.1 found]
    refine ⟨by omega, ?_⟩
    rw [Int.toNat_of_nonneg range.1]
  · rintro ⟨range, rfl⟩
    simp [integer?, range]

end Json

/-- All items of a list are read exactly if each of them is. -/
lemma mapM_eq_some_iff {β γ : Type} {f : β → Option γ} {items : List β} {values : List γ} :
    items.mapM f = some values ↔ List.Forall₂ (fun item value => f item = some value) items values := by
  induction items generalizing values with
  | nil => simp [List.forall₂_nil_left_iff, eq_comm]
  | cons item items ih =>
    rw [List.mapM_cons, List.forall₂_cons_left_iff]
    constructor
    · intro read
      obtain ⟨value, first, read⟩ := Option.bind_eq_some_iff.1 read
      obtain ⟨values', others, read⟩ := Option.bind_eq_some_iff.1 read
      exact ⟨value, values', first, ih.1 others, (Option.some.inj read).symm⟩
    · rintro ⟨value, values', first, others, rfl⟩
      simp [first, ih.2 others]

/-- Relations that are the same for items of some sort relate lists of them to the same values. -/
lemma forall₂_iff_of_forall_mem {β γ : Type} {R S : β → γ → Prop} {sort : β → Prop}
    (same : ∀ item, sort item → ∀ value, R item value ↔ S item value) {items : List β}
    {values : List γ} (sorted : ∀ item ∈ items, sort item) :
    List.Forall₂ R items values ↔ List.Forall₂ S items values := by
  constructor
  · intro related
    refine ((List.forall₂_and_left items values).2 ⟨sorted, related⟩).imp ?_
    rintro item value ⟨known, holds⟩
    exact (same item known value).1 holds
  · intro related
    refine ((List.forall₂_and_left items values).2 ⟨sorted, related⟩).imp ?_
    rintro item value ⟨known, holds⟩
    exact (same item known value).2 holds

/-- Rewriting the list under a key item by item gives that of some values if the items stand for
them. -/
lemma Json.IsNode.overItems_eq_array_iff {β : Type} {json : Json} (node : json.IsNode) {key : String}
    {f : Json → Json} {g : β → Json} {sort : Json → Prop} {stands : Json → β → Prop}
    (same : ∀ item, sort item → ∀ value, f item = g value ↔ stands item value)
    (sorted : ∀ item ∈ json.itemsUnder key, sort item) {values : List β} :
    (∃ list, json.member? key = some list ∧ overItems f list = .array (values.map g)) ↔
      ∃ items, json.Has key (.array items) ∧ List.Forall₂ stands items values := by
  simp only [Json.overItems_eq_array_iff, node.member?_eq_some_iff]
  constructor
  · rintro ⟨list, has, items, rfl, each⟩
    rw [node.itemsUnder_of_has has] at sorted
    exact ⟨items, has, (forall₂_iff_of_forall_mem same sorted).1 each⟩
  · rintro ⟨items, has, each⟩
    rw [node.itemsUnder_of_has has] at sorted
    exact ⟨_, has, items, rfl, (forall₂_iff_of_forall_mem same sorted).2 each⟩

/-- The values of a node under some keys are those that it has there. -/
lemma Json.IsNode.values?_eq_some_iff {json : Json} (node : json.IsNode) {keys : List String}
    {values : List Json} :
    json.values? keys = some values ↔ List.Forall₂ (fun key value => json.Has key value) keys values := by
  have looked : json.values? keys = keys.mapM fun key => json.member? key := by
    obtain ⟨members, rfl, -⟩ := node
    rfl
  rw [looked, mapM_eq_some_iff]
  simp only [node.member?_eq_some_iff]

end FrameConsole
