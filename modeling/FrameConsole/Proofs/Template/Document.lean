import FrameConsole.Proofs.Json.Node

/-!
# Documents

Templates as documents: trees whose root, particles and arguments are nodes. Which documents stand for
which templates is said by relations that ask for the members of nodes one by one, without an order
and without a look at any other member. Every template has a document, which it is read from; a
document is read exactly if it stands for a template; and the document of what is read is the one that
was read, less what does not matter in it.

An argument names its kind by a word or by a node of its own, in which the word is the only key and
says nothing. The second form is never written, so that not every document comes back with the
members that it had.

## Main definitions

* `FrameConsole.Json.IsDocument` — trees whose root, particles and arguments are nodes.
* `FrameConsole.Document.OfTemplate` — a document stands for a template.
* `FrameConsole.Document.tidy` — a document without its unknown keys.

## Main results

* `FrameConsole.Document.ofJson?_eq_some_iff` — which documents are read, and as what.
* `FrameConsole.Document.tidy_eq_toJson_iff` — a document is that of a template, less what does not
  matter, exactly if it stands for the template.
* `FrameConsole.Template.ofJson?_document` — documents of templates.
-/

namespace FrameConsole

/-- A tree whose root, particles and arguments are nodes. -/
structure Json.IsDocument (json : Json) : Prop where
  /-- The root is a node. -/
  root : json.IsNode
  /-- The particles are nodes. -/
  particles : ∀ p ∈ json.itemsUnder "particles", p.IsNode
  /-- The arguments of calls are nodes. -/
  arguments : ∀ p ∈ json.itemsUnder "particles", p.Has "type" (.string "function") →
    ∀ a ∈ p.itemsUnder "args", a.IsNode

namespace Document

/-! ## What documents stand for -/

/-- How an argument names its kind: by its word, or by an object in which the word is the only key and
has nothing under it. -/
inductive Names (kind : String) : Json → Prop
  /-- The word by itself. -/
  | word : Names kind (.string kind)
  /-- The word as a key with the value `null`. -/
  | null : Names kind (.object [(kind, .null)])
  /-- The word as a key with an empty object. -/
  | empty : Names kind (.object [(kind, .object [])])

section

variable (named : String → Json → Prop)

/-- A node stands for an argument, where `named` says how it names its kind. -/
inductive OfArgument : Json → Argument → Prop
  /-- An integer of 64 bits. -/
  | integer {json tag : Json} {value : Int64} (type : json.Has "type" tag)
      (kind : named "integer" tag) (content : json.Has "value" (.integer value.toInt)) :
      OfArgument json (.integer value)
  /-- A string. -/
  | string {json tag : Json} {value : String} (type : json.Has "type" tag)
      (kind : named "string" tag) (content : json.Has "value" (.string value)) :
      OfArgument json (.string value)

/-- A node stands for a particle. -/
inductive OfParticle : Json → Particle → Prop
  /-- A text. -/
  | text {json : Json} {value : String} (type : json.Has "type" (.string "text"))
      (content : json.Has "value" (.string value)) : OfParticle json (.text value)
  /-- A byte, by its number. -/
  | byte {json : Json} {value : UInt8} (type : json.Has "type" (.string "byte"))
      (content : json.Has "value" (.integer value.toNat)) : OfParticle json (.byte value)
  /-- A code point, by its number. -/
  | codepoint {json : Json} {value : Char} (type : json.Has "type" (.string "codepoint"))
      (content : json.Has "value" (.integer value.toNat)) : OfParticle json (.codepoint value)
  /-- A variable. -/
  | variable {json : Json} {name : String} (type : json.Has "type" (.string "variable"))
      (content : json.Has "name" (.string name)) : OfParticle json (.variable name)
  /-- A call with its arguments in order. -/
  | function {json : Json} {name : String} {items : List Json} {args : List Argument}
      (type : json.Has "type" (.string "function")) (content : json.Has "name" (.string name))
      (list : json.Has "args" (.array items)) (each : List.Forall₂ (OfArgument named) items args) :
      OfParticle json (.call name args)

/-- A document stands for a template: it has the particles of the template in order. -/
def OfTemplate (json : Json) (t : Template) : Prop :=
  ∃ items, json.Has "particles" (.array items) ∧
    List.Forall₂ (OfParticle named) items t.particles

end

/-! ## Reading documents -/

/-- The word for a kind of argument. -/
def word : ArgumentKind → String
  | .integer => "integer"
  | .string => "string"

/-- A word is read as the kind that it is the word for. -/
lemma ofName?_eq_some_iff {name : String} {kind : ArgumentKind} :
    ArgumentKind.ofName? name = some kind ↔ name = word kind := by
  unfold ArgumentKind.ofName?
  split <;> cases kind <;> simp_all [word]

/-- The kind of an argument is found where it is named. -/
lemma ofMember?_eq_some_iff {tag : Json} {kind : ArgumentKind} :
    ArgumentKind.ofMember? tag = some kind ↔ Names (word kind) tag := by
  constructor
  · intro read
    unfold ArgumentKind.ofMember? at read
    split at read
    · rw [ofName?_eq_some_iff] at read
      rw [read]
      exact .word
    · rename_i name content
      split_ifs at read with nothing
      rw [ofName?_eq_some_iff] at read
      rw [read]
      unfold Json.isNothing at nothing
      split at nothing
      · exact .null
      · exact .empty
      · cases nothing
    · cases read
  · rintro (_ | _ | _) <;> exact ofName?_eq_some_iff.2 rfl

/-- An integer of 64 bits is read from an integer that has them. -/
lemma int64_iff {n : Int} {value : Int64} :
    (Int64.minValue.toInt ≤ n ∧ n ≤ Int64.maxValue.toInt) ∧ Int64.ofInt n = value ↔
      n = value.toInt := by
  rw [Int64.toInt_minValue, Int64.toInt_maxValue]
  constructor
  · rintro ⟨⟨low, high⟩, rfl⟩
    rw [Int64.toInt_ofInt_of_le low (by omega)]
  · rintro rfl
    have low := value.le_toInt
    have high := value.toInt_lt
    exact ⟨⟨low, by omega⟩, Int64.ofInt_toInt value⟩

/-- A node is read as the argument that it stands for.

**Proof sketch.** The node is taken apart from the outside: its kind, its value, and what the kind asks
of the value. -/
lemma ofJson?_argument_eq_some_iff {json : Json} (node : json.IsNode) {a : Argument} :
    Argument.ofJson? json = some a ↔ OfArgument Names json a := by
  have shape : ∀ tag, ArgumentKind.ofTag? json tag = ArgumentKind.ofMember? tag := by
    obtain ⟨members, rfl, -⟩ := node
    exact fun _ => rfl
  constructor
  · intro whole
    obtain ⟨⟨tag, json'⟩, tagged, read⟩ := Option.bind_eq_some_iff.1 whole
    obtain ⟨type, rfl⟩ := node.tagged?_eq_some_iff.1 tagged
    obtain ⟨values, found, read⟩ := Option.bind_eq_some_iff.1 read
    obtain _ | ⟨content, _ | _⟩ := node.values?_eq_some_iff.1 found
    obtain ⟨kind, named, read⟩ := Option.bind_eq_some_iff.1 read
    rw [shape, ofMember?_eq_some_iff] at named
    cases kind with
    | integer =>
      obtain ⟨n, number, read⟩ := Option.bind_eq_some_iff.1 read
      split_ifs at read with range
      obtain rfl := Option.some.inj read
      rw [Json.integer?_eq_some_iff.1 number, int64_iff.1 ⟨range, rfl⟩] at content
      exact .integer type named content
    | string =>
      obtain ⟨text, written, read⟩ := Option.bind_eq_some_iff.1 read
      obtain rfl := Option.some.inj read
      rw [Json.string?_eq_some_iff.1 written] at content
      exact .string type named content
  · intro stands
    cases stands with
    | @integer tag value type kind content =>
      have tagged := node.tagged?_eq_some_iff.2 ⟨type, rfl⟩
      have found := node.values?_eq_some_iff.2 (.cons content .nil)
      have named : ArgumentKind.ofMember? tag = some .integer := ofMember?_eq_some_iff.2 kind
      obtain ⟨range, same⟩ := int64_iff.2 (rfl : value.toInt = value.toInt)
      simp only [Argument.ofJson?, tagged, found, shape, named, Json.integer?, Option.bind_eq_bind,
        Option.bind_some, if_pos range, same]
    | @string tag value type kind content =>
      have tagged := node.tagged?_eq_some_iff.2 ⟨type, rfl⟩
      have found := node.values?_eq_some_iff.2 (.cons content .nil)
      have named : ArgumentKind.ofMember? tag = some .string := ofMember?_eq_some_iff.2 kind
      simp only [Argument.ofJson?, tagged, found, shape, named, Json.string?, Option.bind_eq_bind,
        Option.bind_some, Option.pure_def]

/-- Nodes are read as the arguments that they stand for. -/
lemma arguments_iff {items : List Json} (nodes : ∀ a ∈ items, a.IsNode) {args : List Argument} :
    items.mapM Argument.ofJson? = some args ↔ List.Forall₂ (OfArgument Names) items args :=
  mapM_eq_some_iff.trans
    (forall₂_iff_of_forall_mem (fun _ node _ => ofJson?_argument_eq_some_iff node) nodes)

/-- A byte is read from an integer that is one. -/
lemma byte_iff {json : Json} {value : UInt8} :
    (json.natBelow? 256).map UInt8.ofNat = some value ↔ json = .integer value.toNat := by
  rw [Option.map_eq_some_iff]
  constructor
  · rintro ⟨n, found, rfl⟩
    obtain ⟨range, rfl⟩ := Json.natBelow?_eq_some_iff.1 found
    rw [UInt8.toNat_ofNat_of_lt' range]
  · rintro rfl
    exact ⟨value.toNat, Json.natBelow?_eq_some_iff.2 ⟨value.toNat_lt, rfl⟩, UInt8.ofNat_toNat⟩

/-- A character is read from an integer that is the number of one. -/
lemma codepoint_iff {json : Json} {value : Char} :
    ((json.natBelow? 0x110000).bind fun n =>
      if n.isValidChar then some (Char.ofNat n) else none) = some value ↔
      json = .integer value.toNat := by
  rw [Option.bind_eq_some_iff]
  constructor
  · rintro ⟨n, found, read⟩
    obtain ⟨range, rfl⟩ := Json.natBelow?_eq_some_iff.1 found
    split_ifs at read with valid
    obtain rfl := Option.some.inj read
    have same : (Char.ofNat n).toNat = n := by
      rw [Char.ofNat, dif_pos valid]
      rfl
    rw [same]
  · rintro rfl
    have valid : value.toNat.isValidChar := value.valid
    have range : value.toNat < 0x110000 := by
      rcases valid with low | high
      · omega
      · exact high.2
    refine ⟨value.toNat, Json.natBelow?_eq_some_iff.2 ⟨range, rfl⟩, ?_⟩
    rw [if_pos valid, Char.ofNat_toNat]

-- In the next two lemmas what is written is any tree: were it a number, checking them would count
-- down from the bound.

/-- A node of the kind `byte` is read as the byte that it has. -/
lemma ofJson?_of_byte {json written : Json} (node : json.IsNode) {value : UInt8}
    (type : json.Has "type" (.string "byte")) (content : json.Has "value" written)
    (number : (written.natBelow? 256).map UInt8.ofNat = some value) :
    Particle.ofJson? json = some (.byte value) := by
  have tagged := node.tagged?_eq_some_iff.2 ⟨type, rfl⟩
  have found := node.values?_eq_some_iff.2 (.cons content .nil)
  obtain ⟨n, number, same⟩ := Option.map_eq_some_iff.1 number
  simp only [Particle.ofJson?, tagged, found, number, same, Json.string?, Option.bind_eq_bind,
    Option.bind_some, Option.pure_def]

/-- A node of the kind `codepoint` is read as the character whose number it has. -/
lemma ofJson?_of_codepoint {json written : Json} (node : json.IsNode) {value : Char}
    (type : json.Has "type" (.string "codepoint")) (content : json.Has "value" written)
    (number : ((written.natBelow? 0x110000).bind fun n =>
      if n.isValidChar then some (Char.ofNat n) else none) = some value) :
    Particle.ofJson? json = some (.codepoint value) := by
  have tagged := node.tagged?_eq_some_iff.2 ⟨type, rfl⟩
  have found := node.values?_eq_some_iff.2 (.cons content .nil)
  obtain ⟨n, number, read⟩ := Option.bind_eq_some_iff.1 number
  split_ifs at read with valid
  simp only [Particle.ofJson?, tagged, found, number, if_pos valid, Option.some.inj read,
    Json.string?, Option.bind_eq_bind, Option.bind_some]

section

variable {json : Json} (node : json.IsNode)
  (arguments : json.Has "type" (.string "function") → ∀ a ∈ json.itemsUnder "args", a.IsNode)
  {p : Particle}

include node arguments

/-- A node stands for the particle as which it is read.

**Proof sketch.** The node is taken apart from the outside: its kind, the values that the kind has, and
what it asks of each of them. -/
lemma ofParticle_of_ofJson? (whole : Particle.ofJson? json = some p) : OfParticle Names json p := by
  obtain ⟨⟨tag, json'⟩, tagged, read⟩ := Option.bind_eq_some_iff.1 whole
  obtain ⟨type, rfl⟩ := node.tagged?_eq_some_iff.1 tagged
  obtain ⟨kind, word, read⟩ := Option.bind_eq_some_iff.1 read
  rw [Json.string?_eq_some_iff.1 word] at type
  split at read
  · obtain ⟨values, found, read⟩ := Option.bind_eq_some_iff.1 read
    obtain _ | ⟨content, _ | _⟩ := node.values?_eq_some_iff.1 found
    obtain ⟨text, written, read⟩ := Option.bind_eq_some_iff.1 read
    obtain rfl := Option.some.inj read
    rw [Json.string?_eq_some_iff.1 written] at content
    exact .text type content
  · obtain ⟨values, found, read⟩ := Option.bind_eq_some_iff.1 read
    obtain _ | ⟨content, _ | _⟩ := node.values?_eq_some_iff.1 found
    obtain ⟨n, number, read⟩ := Option.bind_eq_some_iff.1 read
    obtain rfl := Option.some.inj read
    rw [byte_iff.1 (Option.map_eq_some_iff.2 ⟨n, number, rfl⟩)] at content
    exact .byte type content
  · obtain ⟨values, found, read⟩ := Option.bind_eq_some_iff.1 read
    obtain _ | ⟨content, _ | _⟩ := node.values?_eq_some_iff.1 found
    obtain ⟨n, number, read⟩ := Option.bind_eq_some_iff.1 read
    split_ifs at read with valid
    obtain rfl := Option.some.inj read
    rw [codepoint_iff.1 (Option.bind_eq_some_iff.2 ⟨n, number, if_pos valid⟩)] at content
    exact .codepoint type content
  · obtain ⟨values, found, read⟩ := Option.bind_eq_some_iff.1 read
    obtain _ | ⟨content, _ | _⟩ := node.values?_eq_some_iff.1 found
    obtain ⟨name, written, read⟩ := Option.bind_eq_some_iff.1 read
    obtain rfl := Option.some.inj read
    rw [Json.string?_eq_some_iff.1 written] at content
    exact .variable type content
  · obtain ⟨values, found, read⟩ := Option.bind_eq_some_iff.1 read
    obtain _ | ⟨content, _ | ⟨list, _ | _⟩⟩ := node.values?_eq_some_iff.1 found
    obtain ⟨name, written, read⟩ := Option.bind_eq_some_iff.1 read
    obtain ⟨items, listed, read⟩ := Option.bind_eq_some_iff.1 read
    obtain ⟨args, each, read⟩ := Option.bind_eq_some_iff.1 read
    obtain rfl := Option.some.inj read
    rw [Json.string?_eq_some_iff.1 written] at content
    rw [Json.array?_eq_some_iff.1 listed] at list
    have nodes := arguments type
    rw [node.itemsUnder_of_has list] at nodes
    exact .function type content list ((arguments_iff nodes).1 each)
  · cases read

/-- A node is read as the particle that it stands for. -/
lemma ofJson?_of_ofParticle (stands : OfParticle Names json p) : Particle.ofJson? json = some p := by
  cases stands with
  | text type content =>
    have tagged := node.tagged?_eq_some_iff.2 ⟨type, rfl⟩
    have found := node.values?_eq_some_iff.2 (.cons content .nil)
    simp only [Particle.ofJson?, tagged, found, Json.string?, Option.bind_eq_bind, Option.bind_some,
      Option.pure_def]
  | byte type content => exact ofJson?_of_byte node type content (byte_iff.2 rfl)
  | codepoint type content => exact ofJson?_of_codepoint node type content (codepoint_iff.2 rfl)
  | «variable» type content =>
    have tagged := node.tagged?_eq_some_iff.2 ⟨type, rfl⟩
    have found := node.values?_eq_some_iff.2 (.cons content .nil)
    simp only [Particle.ofJson?, tagged, found, Json.string?, Option.bind_eq_bind, Option.bind_some,
      Option.pure_def]
  | function type content list each =>
    have tagged := node.tagged?_eq_some_iff.2 ⟨type, rfl⟩
    have found := node.values?_eq_some_iff.2 (.cons content (.cons list .nil))
    have nodes := arguments type
    rw [node.itemsUnder_of_has list] at nodes
    have read := (arguments_iff nodes).2 each
    simp only [Particle.ofJson?, tagged, found, read, Json.string?, Json.array?,
      Option.bind_eq_bind, Option.bind_some, Option.pure_def]

/-- A node is read as the particle that it stands for, and as no other. -/
lemma ofJson?_particle_eq_some_iff : Particle.ofJson? json = some p ↔ OfParticle Names json p :=
  ⟨ofParticle_of_ofJson? node arguments, ofJson?_of_ofParticle node arguments⟩

end

/-- A document is read as the template that it stands for. -/
lemma ofJson?_eq_some_iff {json : Json} (document : json.IsDocument) {t : Template} :
    Template.ofJson? json = some t ↔ OfTemplate Names json t := by
  have particles : ∀ {items}, json.Has "particles" (.array items) →
      (items.mapM Particle.ofJson? = some t.particles ↔
        List.Forall₂ (OfParticle Names) items t.particles) := by
    intro items list
    have nodes : ∀ p ∈ items, p.IsNode ∧
        (p.Has "type" (.string "function") → ∀ a ∈ p.itemsUnder "args", a.IsNode) := by
      rw [← document.root.itemsUnder_of_has list]
      exact fun p mem => ⟨document.particles p mem, document.arguments p mem⟩
    exact mapM_eq_some_iff.trans
      (forall₂_iff_of_forall_mem (fun _ h _ => ofJson?_particle_eq_some_iff h.1 h.2) nodes)
  constructor
  · intro read
    obtain ⟨values, found, read⟩ := Option.bind_eq_some_iff.1 read
    obtain _ | ⟨list, _ | _⟩ := document.root.values?_eq_some_iff.1 found
    obtain ⟨items, listed, read⟩ := Option.bind_eq_some_iff.1 read
    obtain ⟨read, each, ⟨⟩⟩ := Option.bind_eq_some_iff.1 read
    rw [Json.array?_eq_some_iff.1 listed] at list
    exact ⟨items, list, (particles list).1 each⟩
  · rintro ⟨items, list, each⟩
    have found := document.root.values?_eq_some_iff.2 (.cons list .nil)
    simp only [Template.ofJson?, found, Json.array?, (particles list).2 each, Option.bind_eq_bind,
      Option.bind_some, Option.pure_def]

/-! ## Documents less what does not matter -/

/-- How an argument names its kind, with the word by itself. -/
def tidyTag : Json → Json
  | .object [(kind, .null)] => .string kind
  | .object [(kind, .object [])] => .string kind
  | tag => tag

/-- An argument without its unknown keys, its kind named by the word. -/
def tidyArgument (json : Json) : Json :=
  .object (json.keep [("type", tidyTag), ("value", id)])

/-- The keys that a particle has beside its kind. -/
def contentFields : Option Json → List (String × (Json → Json))
  | some (.string "variable") => [("name", id)]
  | some (.string "function") => [("name", id), ("args", Json.overItems tidyArgument)]
  | _ => [("value", id)]

/-- A particle without its unknown keys. -/
def tidyParticle (json : Json) : Json :=
  .object (json.keep (("type", id) :: contentFields (json.member? "type")))

/-- A document without its unknown keys and with the kind of a template, whose arguments name their
kinds by words. The keys that are left stand in the order in which they are written. -/
def tidy (json : Json) : Json :=
  .object (("type", .string "templateExpression") ::
    json.keep [("particles", Json.overItems tidyParticle)])

/-- The word is what is left of the name of a kind. -/
lemma tidyTag_eq_string_iff {tag : Json} {kind : String} :
    tidyTag tag = .string kind ↔ Names kind tag := by
  constructor
  · intro tidied
    unfold tidyTag at tidied
    split at tidied
    · obtain rfl := Json.string.inj tidied
      exact .null
    · obtain rfl := Json.string.inj tidied
      exact .empty
    · rw [tidied]
      exact .word
  · rintro (_ | _ | _) <;> rfl

/-- An argument is written as a node, less what does not matter, exactly if the node stands for it. -/
lemma tidyArgument_eq_toJson_iff {json : Json} (node : json.IsNode) {a : Argument} :
    tidyArgument json = a.toJson ↔ OfArgument Names json a := by
  have parts : ∀ kind value, json.keep [("type", tidyTag), ("value", id)] =
      [("type", .string kind), ("value", value)] ↔
        (∃ tag, json.Has "type" tag ∧ Names kind tag) ∧ json.Has "value" value := by
    intro kind value
    rw [Json.keep_cons_eq_cons_iff (by decide), Json.keep_cons_eq_cons_iff (by decide)]
    simp [node.member?_eq_some_iff, tidyTag_eq_string_iff]
  cases a with
  | integer value =>
    rw [tidyArgument, Argument.toJson, Json.object.injEq, parts]
    constructor
    · rintro ⟨⟨tag, type, kind⟩, content⟩
      exact .integer type kind content
    · intro stands
      cases stands with
      | integer type kind content => exact ⟨⟨_, type, kind⟩, content⟩
  | string value =>
    rw [tidyArgument, Argument.toJson, Json.object.injEq, parts]
    constructor
    · rintro ⟨⟨tag, type, kind⟩, content⟩
      exact .string type kind content
    · intro stands
      cases stands with
      | string type kind content => exact ⟨⟨_, type, kind⟩, content⟩

/-- No particle has a second kind. -/
lemma type_notMem_contentFields (tag : Option Json) :
    "type" ∉ (contentFields tag).map Prod.fst := by
  unfold contentFields
  split <;> simp

/-- A particle is written as a node, less what does not matter, exactly if the node stands for it. -/
lemma tidyParticle_eq_toJson_iff {json : Json} (node : json.IsNode)
    (arguments : json.Has "type" (.string "function") → ∀ a ∈ json.itemsUnder "args", a.IsNode)
    {p : Particle} : tidyParticle json = p.toJson ↔ OfParticle Names json p := by
  have parts : tidyParticle json = p.toJson ↔ json.Has "type" (.string p.kind) ∧
      json.keep (contentFields (some (.string p.kind))) = p.members := by
    rw [tidyParticle, Particle.toJson, Json.object.injEq,
      Json.keep_cons_eq_cons_iff (type_notMem_contentFields _), ← node.member?_eq_some_iff]
    simp only [id_eq, exists_eq_right]
    exact and_congr_right fun type => by rw [type]
  have content : ∀ {key value}, json.keep [(key, id)] = [(key, value)] ↔ json.Has key value := by
    intro key value
    rw [Json.keep_cons_eq_cons_iff (by simp), ← node.member?_eq_some_iff]
    simp
  have call : ∀ {name args}, (∀ a ∈ json.itemsUnder "args", a.IsNode) →
      (json.keep [("name", id), ("args", Json.overItems tidyArgument)] =
          [("name", .string name), ("args", .array (args.map Argument.toJson))] ↔
        json.Has "name" (.string name) ∧
          ∃ items, json.Has "args" (.array items) ∧ List.Forall₂ (OfArgument Names) items args) := by
    intro name args nodes
    rw [Json.keep_cons_eq_cons_iff (by simp), Json.keep_cons_eq_cons_iff (by simp),
      ← node.member?_eq_some_iff,
      ← node.overItems_eq_array_iff (fun _ node _ => tidyArgument_eq_toJson_iff node) nodes]
    simp
  rw [parts]
  constructor
  · rintro ⟨type, kept⟩
    cases p with
    | text value => exact .text type (content.1 kept)
    | byte value => exact .byte type (content.1 kept)
    | codepoint value => exact .codepoint type (content.1 kept)
    | «variable» name => exact .variable type (content.1 kept)
    | call name args =>
      obtain ⟨named, items, list, each⟩ := (call (arguments type)).1 kept
      exact .function type named list each
  · intro stands
    cases stands with
    | text type kept => exact ⟨type, content.2 kept⟩
    | byte type kept => exact ⟨type, content.2 kept⟩
    | codepoint type kept => exact ⟨type, content.2 kept⟩
    | «variable» type kept => exact ⟨type, content.2 kept⟩
    | function type named list each =>
      exact ⟨type, (call (arguments type)).2 ⟨named, _, list, each⟩⟩

/-- A document is that of a template, less what does not matter, exactly if it stands for it. -/
lemma tidy_eq_toJson_iff {json : Json} (document : json.IsDocument) {t : Template} :
    tidy json = t.toJson ↔ OfTemplate Names json t := by
  have nodes : ∀ p ∈ json.itemsUnder "particles", p.IsNode ∧
      (p.Has "type" (.string "function") → ∀ a ∈ p.itemsUnder "args", a.IsNode) :=
    fun p mem => ⟨document.particles p mem, document.arguments p mem⟩
  rw [tidy, Template.toJson, OfTemplate, Json.object.injEq, List.cons.injEq,
    Json.keep_cons_eq_cons_iff (by simp),
    document.root.overItems_eq_array_iff (fun _ h _ => tidyParticle_eq_toJson_iff h.1 h.2) nodes]
  simp

/-! ## Documents of templates -/

/-- The document of a particle has nothing unknown in it. -/
lemma tidyParticle_toJson (p : Particle) : tidyParticle p.toJson = p.toJson := by
  cases p with
  | call name args =>
    have arguments : tidyArgument ∘ Argument.toJson = Argument.toJson := by
      funext a
      cases a <;> rfl
    have shown : tidyParticle (Particle.call name args).toJson =
        .object [("type", .string "function"), ("name", .string name),
          ("args", .array ((args.map Argument.toJson).map tidyArgument))] := rfl
    rw [shown, List.map_map, arguments]
    rfl
  | _ => rfl

/-- The document of a template has nothing unknown in it. -/
lemma tidy_toJson (t : Template) : tidy t.toJson = t.toJson := by
  have particles : tidyParticle ∘ Particle.toJson = Particle.toJson :=
    funext tidyParticle_toJson
  have shown : tidy t.toJson = .object [("type", .string "templateExpression"),
      ("particles", .array ((t.particles.map Particle.toJson).map tidyParticle))] := rfl
  rw [shown, List.map_map, particles]
  rfl

/-- What is written for a template is a document. -/
lemma isDocument_toJson (t : Template) : t.toJson.IsDocument where
  root := ⟨_, rfl, by simp⟩
  particles := by
    intro json mem
    obtain ⟨p, -, rfl⟩ := List.mem_map.1 mem
    refine ⟨_, rfl, ?_⟩
    cases p <;> simp [Particle.members]
  arguments := by
    intro json mem _ item inside
    obtain ⟨p, -, rfl⟩ := List.mem_map.1 mem
    cases p with
    | call name args =>
      obtain ⟨a, -, rfl⟩ := List.mem_map.1 inside
      cases a <;> exact ⟨_, rfl, by simp⟩
    | _ => cases inside

end Document

open Document in
/-- **Documents of templates.** What is written for a template is a document that it is read from. A
document is read exactly if it stands for a template, and then as that one. What is written for it is
the document less its unknown keys, with the kind of a template in the root and the kinds of the
arguments by their words; and documents which are the same in all else are read alike. -/
theorem Template.ofJson?_document :
    (∀ t : Template, t.toJson.IsDocument ∧ ofJson? t.toJson = some t) ∧
      ∀ json : Json, json.IsDocument →
        (∀ t, ofJson? json = some t ↔ OfTemplate Names json t) ∧
        (∀ t, ofJson? json = some t → t.toJson = tidy json) ∧
        ∀ other : Json, other.IsDocument → tidy other = tidy json → ofJson? other = ofJson? json := by
  have tidied : ∀ {json : Json}, json.IsDocument →
      ∀ t, ofJson? json = some t ↔ tidy json = t.toJson := by
    intro json document t
    rw [ofJson?_eq_some_iff document, tidy_eq_toJson_iff document]
  refine ⟨fun t => ?_, fun json document => ⟨?_, ?_, ?_⟩⟩
  · exact ⟨isDocument_toJson t, (tidied (isDocument_toJson t) t).2 (tidy_toJson t)⟩
  · exact fun t => ofJson?_eq_some_iff document
  · exact fun t read => ((tidied document t).1 read).symm
  · intro other document' same
    refine Option.ext fun t => ?_
    rw [tidied document', tidied document, same]

/-- A call whose only argument names its kind as a key, with its members in another order and members
that are not known: it is read, and written without them. -/
theorem Template.ofJson?_document_reordered :
    let json := Json.object [("particles", .array [.object [
      ("args", .array [.object [("value", .integer 1), ("note", .null),
        ("type", .object [("integer", .null)])]]),
      ("value", .bool true), ("name", .string "f"), ("type", .string "function")]])]
    let t : Template := ⟨[.call "f" [.integer 1]]⟩
    json.IsDocument ∧ Document.OfTemplate Document.Names json t ∧ t.toJson = Document.tidy json := by
  intro json t
  have document : json.IsDocument := by
    refine ⟨⟨_, rfl, by decide⟩, fun p mem => ?_, fun p mem _ a inside => ?_⟩
    · obtain rfl := List.mem_singleton.1 mem
      exact ⟨_, rfl, by decide⟩
    · obtain rfl := List.mem_singleton.1 mem
      obtain rfl := List.mem_singleton.1 inside
      exact ⟨_, rfl, by decide⟩
  obtain ⟨stands, written, -⟩ := ofJson?_document.2 json document
  have read : ofJson? json = some t := rfl
  exact ⟨document, (stands t).1 read, written t read⟩

/-- A document whose only argument names its kind as a key is read, but it stands for no template if
kinds are named by words only. -/
theorem Document.read_of_kind_as_key :
    let json := Json.object [("type", .string "templateExpression"), ("particles", .array [.object [
      ("type", .string "function"), ("name", .string "args"),
      ("args", .array [.object [("type", .object [("integer", .null)]), ("value", .integer 1)]])]])]
    json.IsDocument ∧ Template.ofJson? json = some ⟨[.call "args" [.integer 1]]⟩ ∧
      ¬∃ t, OfTemplate (fun kind tag => tag = .string kind) json t := by
  intro json
  have document : json.IsDocument := by
    refine ⟨⟨_, rfl, by decide⟩, fun p mem => ?_, fun p mem _ a inside => ?_⟩
    · obtain rfl := List.mem_singleton.1 mem
      exact ⟨_, rfl, by decide⟩
    · obtain rfl := List.mem_singleton.1 mem
      obtain rfl := List.mem_singleton.1 inside
      exact ⟨_, rfl, by decide⟩
  refine ⟨document, rfl, ?_⟩
  rintro ⟨t, items, list, each⟩
  obtain rfl := Json.array.inj (Option.some.inj (document.root.member?_eq_some_iff.2 list))
  obtain ⟨p, _, particle, -, -⟩ := List.forall₂_cons_left_iff.1 each
  cases particle with
  | function _ _ list each =>
    have node := document.particles _ List.mem_cons_self
    obtain rfl := Json.array.inj (Option.some.inj (node.member?_eq_some_iff.2 list))
    obtain ⟨a, _, argument, -, -⟩ := List.forall₂_cons_left_iff.1 each
    cases argument with
    | integer type kind => simp [Json.Has, kind] at type
    | string type kind => simp [Json.Has, kind] at type
  | text type => simp [Json.Has] at type
  | byte type => simp [Json.Has] at type
  | codepoint type => simp [Json.Has] at type
  | «variable» type => simp [Json.Has] at type

end FrameConsole
