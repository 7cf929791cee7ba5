import FrameConsole.Proofs.Template.Concatenation
import FrameConsole.Template.Cursor

/-!
# Steps of a cursor

A cursor that stands between two characters of its source sees what is ahead of it, and moves over
characters to places between characters. Its record is sound: it has never been elsewhere, it has never
gone back, and each turn of a loop has moved it. A computation *reads* what a reader of texts says if it
gives the same value and comes to the same place, or refuses the source at the same place; in both cases
it does not crash, and the record stays sound.

## Main definitions

* `FrameConsole.Cursor.Sound` — what is always true of the record of a cursor.
* `FrameConsole.Cursor.At` — a cursor with a given part of the source ahead of it.
* `FrameConsole.Scan.Reads` — a computation does what a reader of texts says.
* `FrameConsole.Scan.Loops` — a loop does so, if it may take enough turns.

## Main results

* `FrameConsole.Scan.Reads.bind` — one computation after the other.
* `FrameConsole.Scan.reads_rest`, `FrameConsole.Scan.reads_advance` — cutting and moving.
* `FrameConsole.Scan.Loops.again`, `FrameConsole.Scan.Loops.last` — turns of a loop, which have to move
  the cursor, so that a loop takes no more of them than there are characters.
-/

namespace FrameConsole

/-! ## Places -/

/-- The number of bytes in front of a part of a source that goes up to its end. -/
def offset (source : String) (cs : List Char) : ℕ :=
  Utf8.length source.toList - Utf8.length cs

/-- The first character takes at least one byte. -/
lemma Utf8.length_cons (c : Char) (cs : List Char) :
    length (c :: cs) = c.utf8Size + length cs := by
  rw [← List.singleton_append, length_append]
  simp [length, encodeChars]

/-- Texts have no more characters than bytes. -/
lemma Utf8.length_le_length (cs : List Char) : cs.length ≤ length cs := by
  induction cs with
  | nil => exact Nat.le_refl 0
  | cons c cs ih =>
    have := c.utf8Size_pos
    rw [length_cons, List.length_cons]
    omega

/-- The bytes in front of a part are those of the text in front of it. -/
lemma offset_eq {source : String} {front cs : List Char} (split : source.toList = front ++ cs) :
    offset source cs = Utf8.length front := by
  rw [offset, split, Utf8.length_append, Nat.add_sub_cancel]

/-- Behind its first character a part starts as many bytes later as the character has. -/
lemma offset_cons {source : String} {c : Char} {cs : List Char} (inside : c :: cs <:+ source.toList) :
    offset source cs = offset source (c :: cs) + c.utf8Size := by
  have := Utf8.length_le_of_suffix inside
  rw [Utf8.length_cons] at this
  rw [offset, offset, Utf8.length_cons]
  omega

/-- A shorter part starts later.

**Proof sketch.** It is a suffix of the longer part, and what it leaves of that is not empty. -/
lemma offset_lt {source : String} {cs rest : List Char} (hcs : cs <:+ source.toList)
    (hrest : rest <:+ source.toList) (shorter : rest.length < cs.length) :
    offset source cs < offset source rest := by
  obtain ⟨mid, rfl⟩ := List.suffix_of_suffix_length_le hrest hcs shorter.le
  have inside := Utf8.length_le_of_suffix hcs
  have some := Utf8.length_le_length mid
  rw [List.length_append] at shorter
  rw [Utf8.length_append] at inside
  rw [offset, offset, Utf8.length_append]
  omega

/-- Where a source is split, it is a text followed by another one. -/
lemma append_of_split {source : String} {front cs : List Char} (split : source.toList = front ++ cs) :
    source = .ofList front ++ .ofList cs ∧
      (⟨Utf8.length front⟩ : String.Pos.Raw) = (String.ofList front).rawEndPos := by
  constructor
  · rw [← String.ofList_append, ← split, String.ofList_toList]
  · ext
    rw [← String.toList_ofList (l := front), Utf8.length_toList, String.ofList_toList]
    rfl

/-- Where a source is split is a place between two characters of it. -/
lemma isValid_of_split {source : String} {front cs : List Char} (split : source.toList = front ++ cs) :
    String.Pos.Raw.IsValid source ⟨Utf8.length front⟩ :=
  String.Pos.Raw.isValid_iff_exists_append.2 ⟨_, _, append_of_split split⟩

/-- A source can be cut where it is split, and what is cut off starts there. -/
lemma exists_pos?_eq_some {source : String} {front cs : List Char}
    (split : source.toList = front ++ cs) :
    ∃ place, source.pos? ⟨Utf8.length front⟩ = some place ∧
      (source.sliceFrom place).copy.toList = cs := by
  have valid := isValid_of_split split
  obtain ⟨whole, size⟩ := append_of_split split
  refine ⟨source.pos _ valid, ?_, ?_⟩
  · simp [String.pos?, String.Slice.pos?, String.pos, valid.toSlice]
  · have cut : (source.pos _ valid).Splits (.ofList front) (.ofList cs) := ⟨whole, size⟩
    rw [(String.Pos.splits _).eq_right cut, String.toList_ofList]

/-! ## Cursors -/

namespace Cursor

/-- What is always true of the record of a cursor. -/
structure Sound (c : Cursor) : Prop where
  /-- The cursor is where it was moved last. -/
  last : c.trail.head? = some c.position
  /-- It has always stood between two characters of the source, or at one of its ends. -/
  boundary : ∀ position ∈ c.trail, String.Pos.Raw.IsValid c.source ⟨position⟩
  /-- It has never gone back. -/
  descending : c.trail.Pairwise (· ≥ ·)
  /-- Each turn of a loop has moved it. -/
  advancing : ∀ turn ∈ c.turns, turn.start < turn.stop

/-- A cursor has never been further than it is. -/
lemma Sound.le_position {c : Cursor} (h : c.Sound) {position : ℕ} (mem : position ∈ c.trail) :
    position ≤ c.position := by
  obtain ⟨earlier, trail⟩ := List.head?_eq_some_iff.1 h.last
  have descending := h.descending
  rw [trail] at mem descending
  rcases List.mem_cons.1 mem with rfl | mem
  · exact Nat.le_refl _
  · exact (List.pairwise_cons.1 descending).1 position mem

/-- A cursor has a given part of a source ahead of it. -/
structure At (c : Cursor) (source : String) (bound : ℕ) (cs : List Char) : Prop where
  /-- The source. -/
  source_eq : c.source = source
  /-- The number of turns that a loop may take. -/
  bound_eq : c.bound = bound
  /-- What is behind the cursor, and what is ahead of it. -/
  split : ∃ front, source.toList = front ++ cs ∧ c.position = Utf8.length front
  /-- The record is sound. -/
  sound : c.Sound

variable {c : Cursor} {source : String} {bound : ℕ} {cs : List Char}

/-- What is ahead of a cursor goes up to the end of the source. -/
lemma At.suffix (h : c.At source bound cs) : cs <:+ source.toList := by
  obtain ⟨front, split, -⟩ := h.split
  exact ⟨front, split.symm⟩

/-- The position of a cursor is where the part ahead of it starts. -/
lemma At.position_eq (h : c.At source bound cs) : c.position = offset source cs := by
  obtain ⟨front, split, behind⟩ := h.split
  rw [behind, offset_eq split]

/-- A new cursor has all of the source ahead of it. -/
lemma at_start (source : String) (bound : ℕ) : (start source bound).At source bound source.toList := by
  refine ⟨rfl, rfl, ⟨[], rfl, rfl⟩, ⟨rfl, ?_, List.pairwise_singleton _ _, fun turn mem => by cases mem⟩⟩
  intro position mem
  obtain rfl := List.mem_singleton.1 mem
  exact String.Pos.Raw.isValid_iff_exists_append.2 ⟨"", source, by simp [start], rfl⟩

end Cursor

/-! ## Computations -/

/-- A fault has a kind of its own, and is not one in the words of some other reader. -/
def Fault.IsOwn : Fault → Prop
  | .custom _ => False
  | _ => True

namespace Scan

variable {source : String} {bound : ℕ} {α β σ : Type} {cs rest : List Char}

/-- Behind a computation that gives a value goes on what follows it. -/
lemma bind_ok {m : Scan α} {k : α → Scan β} {c c' : Cursor} {value : α}
    (h : m c = (.ok value, c')) : (m >>= k) c = k value c' := by
  simp only [bind, ExceptT.bind, ExceptT.mk, StateT.bind, h]
  rfl

/-- Behind a computation that stops nothing follows. -/
lemma bind_error {m : Scan α} {k : α → Scan β} {c c' : Cursor} {stop : Stop}
    (h : m c = (.error stop, c')) : (m >>= k) c = (.error stop, c') := by
  simp only [bind, ExceptT.bind, ExceptT.mk, StateT.bind, h]
  rfl

/-- A computation does what a reader of texts says of a part of the source: it gives the value and has
what is left ahead, or refuses the source at the place of the fault. -/
structure Reads (source : String) (bound : ℕ) (m : Scan α) (cs : List Char) (reading : Reading α) :
    Prop where
  /-- What is read is given, and the cursor moved over it. -/
  ok {value : α} {rest : List Char} (read : reading = .ok (value, rest)) {c : Cursor}
    (h : c.At source bound cs) : ∃ c', m c = (.ok value, c') ∧ c'.At source bound rest
  /-- What is refused is refused at its place, for a fault of this reader. -/
  error {r : Refusal} (refused : reading = .error r) {c : Cursor} (h : c.At source bound cs) :
    ∃ c', m c = (.error (.refused (r.toSyntaxError source.toList)), c') ∧ r.fault.IsOwn ∧
      c'.source = source ∧ c'.Sound

/-- What is read where something shorter is left is read of a part of the source. -/
lemma Reads.of_suffix {m : Scan α} {reading : Reading α}
    (h : cs <:+ source.toList → Reads source bound m cs reading) : Reads source bound m cs reading :=
  ⟨fun read _ here => (h here.suffix).ok read here,
    fun refused _ here => (h here.suffix).error refused here⟩

/-- One computation after the other. -/
lemma Reads.bind {m : Scan α} {k : α → Scan β} {value : α} {reading : Reading β}
    (first : Reads source bound m cs (.ok (value, rest)))
    (second : Reads source bound (k value) rest reading) :
    Reads source bound (m >>= k) cs reading where
  ok read _ h := by
    obtain ⟨c', run, h'⟩ := first.ok rfl h
    rw [bind_ok run]
    exact second.ok read h'
  error refused _ h := by
    obtain ⟨c', run, h'⟩ := first.ok rfl h
    rw [bind_ok run]
    exact second.error refused h'

/-- Nothing comes after a refusal. -/
lemma Reads.bind_refused {m : Scan α} {k : α → Scan β} {r : Refusal}
    (h : Reads source bound m cs (.error r)) : Reads source bound (m >>= k) cs (.error r) where
  ok read := nomatch read
  error refused _ here := by
    obtain rfl := Except.error.inj refused
    obtain ⟨c', run, sound⟩ := h.error rfl here
    exact ⟨c', bind_error run, sound⟩

/-- One computation after the other, where the first one may be refused. -/
lemma Reads.bind_cases {m : Scan α} {k : α → Scan β} {reading : Reading α} {result : Reading β}
    (first : Reads source bound m cs reading)
    (second : ∀ value rest, reading = .ok (value, rest) → Reads source bound (k value) rest result)
    (refused : ∀ r, reading = .error r → result = .error r) :
    Reads source bound (m >>= k) cs result := by
  cases reading with
  | ok read => exact first.bind (second _ _ rfl)
  | error r =>
    rw [refused r rfl]
    exact first.bind_refused

/-- A computation that only gives a value. -/
lemma reads_pure (value : α) (cs : List Char) :
    Reads source bound (pure value) cs (.ok (value, cs)) where
  ok {value' rest} read c h := by
    obtain ⟨rfl, rfl⟩ := Prod.mk.inj (Except.ok.inj read)
    exact ⟨c, rfl, h⟩
  error refused := nomatch refused

/-- A refusal at the place where a part of the source starts. -/
lemma reads_refuse {fault : Fault} (place cs : List Char) (own : fault.IsOwn) :
    Reads source bound (refuse fault (offset source place) : Scan α) cs
      (FrameConsole.refuse fault place) where
  ok read := nomatch read
  error refused c h := by
    obtain rfl := Except.error.inj refused
    exact ⟨c, rfl, own, h.source_eq, h.sound⟩

/-! ## Looking ahead and moving -/

/-- The position is where the part ahead starts. -/
lemma reads_position (cs : List Char) :
    Reads source bound position cs (.ok (offset source cs, cs)) where
  ok read c h := by
    obtain ⟨rfl, rfl⟩ := Prod.mk.inj (Except.ok.inj read)
    rw [← h.position_eq]
    exact ⟨c, rfl, h⟩
  error refused := nomatch refused

/-- The number of turns that a loop may take stays what it is. -/
lemma reads_limit (cs : List Char) : Reads source bound limit cs (.ok (bound, cs)) where
  ok read c h := by
    obtain ⟨rfl, rfl⟩ := Prod.mk.inj (Except.ok.inj read)
    obtain rfl := h.bound_eq
    exact ⟨c, rfl, h⟩
  error refused := nomatch refused

/-- Cutting the source gives the part ahead. -/
lemma reads_rest (cs : List Char) : Reads source bound Scan.rest cs (.ok (cs, cs)) where
  ok read c h := by
    obtain ⟨rfl, rfl⟩ := Prod.mk.inj (Except.ok.inj read)
    refine ⟨c, ?_, h⟩
    obtain rfl := h.source_eq
    obtain ⟨front, split, behind⟩ := h.split
    obtain ⟨place, found, cut⟩ := exists_pos?_eq_some split
    have seen : (get : Scan Cursor) c = (.ok c, c) := rfl
    rw [← behind] at found
    rw [Scan.rest, bind_ok seen, found, ← cut]
    rfl
  error refused := nomatch refused

/-- The character ahead is the first one of the part ahead. -/
lemma reads_peek (cs : List Char) : Reads source bound peek cs (.ok (cs.head?, cs)) :=
  (reads_rest cs).bind (reads_pure _ _)

/-- A cursor moves over a text by the number of its bytes. -/
lemma reads_advance (front cs : List Char) :
    Reads source bound (advance (Utf8.length front)) (front ++ cs) (.ok ((), cs)) where
  ok read c h := by
    obtain ⟨-, rfl⟩ := Prod.mk.inj (Except.ok.inj read)
    obtain ⟨before, split, behind⟩ := h.split
    have split' : source.toList = (before ++ front) ++ cs := by rw [split, List.append_assoc]
    have position : c.position + Utf8.length front = Utf8.length (before ++ front) := by
      rw [behind, Utf8.length_append]
    refine ⟨_, rfl, h.source_eq, h.bound_eq, ⟨_, split', position⟩, rfl, ?_, ?_, h.sound.advancing⟩
    · refine List.forall_mem_cons.2 ⟨?_, h.sound.boundary⟩
      rw [position, h.source_eq]
      exact isValid_of_split split'
    · refine List.pairwise_cons.2 ⟨fun earlier mem => ?_, h.sound.descending⟩
      have := h.sound.le_position mem
      omega
  error refused := nomatch refused

/-- A cursor moves over a character by the number of its bytes. -/
lemma reads_advance_char (c : Char) (cs : List Char) :
    Reads source bound (advance c.utf8Size) (c :: cs) (.ok ((), cs)) := by
  have size : Utf8.length [c] = c.utf8Size := Utf8.length_cons c []
  exact size ▸ reads_advance [c] cs

/-- A cursor at the end of its source stays there. -/
lemma reads_next_nil : Reads source bound next [] (.ok (none, [])) :=
  (reads_peek []).bind (reads_pure none [])

/-- A cursor moves over the character ahead. -/
lemma reads_next_cons (c : Char) (cs : List Char) :
    Reads source bound next (c :: cs) (.ok (some c, cs)) :=
  (reads_peek (c :: cs)).bind ((reads_advance_char c cs).bind (reads_pure (some c) cs))

/-- A cursor moves over the character that it is to move over. -/
lemma reads_accept_cons (c : Char) (cs : List Char) :
    Reads source bound (accept c) (c :: cs) (.ok (true, cs)) := by
  refine (reads_peek (c :: cs)).bind ?_
  rw [if_pos List.head?_cons]
  exact (reads_advance_char c cs).bind (reads_pure true cs)

/-- A cursor stays in front of any other character. -/
lemma reads_accept_other {c : Char} (other : cs.head? ≠ some c) :
    Reads source bound (accept c) cs (.ok (false, cs)) := by
  refine (reads_peek cs).bind ?_
  rw [if_neg other]
  exact reads_pure false cs

/-! ## Loops -/

/-- A turn that has moved the cursor may be recorded. -/
lemma reads_record (loop : Loop) (inside : cs <:+ source.toList) (shorter : rest.length < cs.length) :
    Reads source bound (record loop (offset source cs)) rest (.ok ((), rest)) where
  ok read c h := by
    obtain ⟨-, rfl⟩ := Prod.mk.inj (Except.ok.inj read)
    refine ⟨_, rfl, h.source_eq, h.bound_eq, h.split, h.sound.last, h.sound.boundary,
      h.sound.descending, List.forall_mem_cons.2 ⟨?_, h.sound.advancing⟩⟩
    show offset source cs < c.position
    rw [h.position_eq]
    exact offset_lt inside h.suffix shorter
  error refused := nomatch refused

/-- A loop does what a reader of texts says, if it may take more turns than there are characters ahead. -/
def Loops (source : String) (bound : ℕ) (loop : Loop) (turn : σ → Scan (Next σ β)) (state : σ)
    (cs : List Char) (reading : Reading β) : Prop :=
  ∀ n, cs.length < n → Reads source bound (turnsWithin loop turn n state) cs reading

variable {loop : Loop} {turn : σ → Scan (Next σ β)} {state state' : σ} {result : β}
  {reading : Reading β}

/-- A loop goes on behind a turn that has moved the cursor. -/
lemma Loops.again (taken : Reads source bound (turn state) cs (.ok (.again state', rest)))
    (shorter : rest.length < cs.length) (others : Loops source bound loop turn state' rest reading) :
    Loops source bound loop turn state cs reading := by
  intro n more
  obtain ⟨n, rfl⟩ := Nat.exists_eq_succ_of_ne_zero (Nat.ne_zero_of_lt more)
  have fewer : rest.length < n := by omega
  exact .of_suffix fun inside => (reads_position cs).bind
    (taken.bind ((reads_record loop inside shorter).bind (others n fewer)))

/-- A loop ends with a turn that has moved the cursor. -/
lemma Loops.last (taken : Reads source bound (turn state) cs (.ok (.last result, rest)))
    (shorter : rest.length < cs.length) :
    Loops source bound loop turn state cs (.ok (result, rest)) := by
  intro n more
  obtain ⟨n, rfl⟩ := Nat.exists_eq_succ_of_ne_zero (Nat.ne_zero_of_lt more)
  exact .of_suffix fun inside => (reads_position cs).bind
    (taken.bind ((reads_record loop inside shorter).bind (reads_pure result rest)))

/-- A loop ends where its condition fails. -/
lemma Loops.over (failed : Reads source bound (turn state) cs (.ok (.over result, rest))) :
    Loops source bound loop turn state cs (.ok (result, rest)) := by
  intro n more
  obtain ⟨n, rfl⟩ := Nat.exists_eq_succ_of_ne_zero (Nat.ne_zero_of_lt more)
  exact (reads_position cs).bind (failed.bind (reads_pure result rest))

/-- A loop ends with a turn that is refused. -/
lemma Loops.refused {r : Refusal} (refused : Reads source bound (turn state) cs (.error r)) :
    Loops source bound loop turn state cs (.error r) := by
  intro n more
  obtain ⟨n, rfl⟩ := Nat.exists_eq_succ_of_ne_zero (Nat.ne_zero_of_lt more)
  exact (reads_position cs).bind refused.bind_refused

/-- A loop that may take more turns than there are characters in the source may take more than there are
ahead. -/
lemma Loops.reads (h : Loops source bound loop turn state cs reading)
    (enough : source.length < bound) : Reads source bound (turns loop turn state) cs reading := by
  refine .of_suffix fun inside => (reads_limit cs).bind (h bound ?_)
  have := inside.length_le
  rw [String.length_toList] at this
  omega

end Scan

end FrameConsole
