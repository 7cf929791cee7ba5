import FrameConsole.Proofs.Evaluation.Meaning
import FrameConsole.Proofs.Template.Concatenation
import Mathlib.Order.Interval.Finset.Nat

/-!
# What the built-in functions answer

Which calls the built-in functions answer, and with what. The ranges give the consecutive bytes or
characters between two bounds, both included, where surrogates are left out of the characters; a
range cut in two gives its two parts. A text is repeated as often as an integer says.

## Main definitions

* `FrameConsole.Argument.IsIntegerIn`, `FrameConsole.integerOr` — an integer within bounds as an
  argument, and the integer at a position with a default.
* `FrameConsole.IsRange`, `FrameConsole.IsRepetition` — the arguments that a range takes, and those
  that repeating a text takes.
* `FrameConsole.IsSurrogate`, `FrameConsole.surrogates` — the integers among code points that are no
  characters, and those of them between two bounds.
* `FrameConsole.bytesFromTo`, `FrameConsole.charsFromTo` — the contents of ranges.

## Main results

* `FrameConsole.byteRange_eq_ok_iff`, `FrameConsole.charRange_eq_ok_iff`,
  `FrameConsole.repeatText_eq_ok_iff`, `FrameConsole.currentTime_eq_ok_iff` — the calls that are
  answered, and their answers.
* `FrameConsole.map_toNat_ofInt`, `FrameConsole.map_toNat_scalar?` — bytes and characters keep the
  integers that they are made of.
* `FrameConsole.builtins_output` — the contents of ranges and repetitions.
-/

namespace FrameConsole

/-! ## Integers as bytes and as characters -/

/-- The integers among code points that are no characters. -/
def IsSurrogate (n : ℤ) : Prop :=
  0xD800 ≤ n ∧ n ≤ 0xDFFF

instance (n : ℤ) : Decidable (IsSurrogate n) :=
  inferInstanceAs (Decidable (_ ∧ _))

/-- The integers between two bounds. -/
@[simp] lemma mem_integersFromTo {start stop z : ℤ} :
    z ∈ integersFromTo start stop ↔ start ≤ z ∧ z ≤ stop := by
  simp only [integersFromTo, List.mem_map, List.mem_range]
  constructor
  · rintro ⟨i, below, rfl⟩
    omega
  · rintro ⟨least, greatest⟩
    exact ⟨(z - start).toNat, by omega, by omega⟩

/-- Between natural numbers lie natural numbers. -/
lemma integersFromTo_natCast (a b : ℕ) :
    integersFromTo a b = (List.range' a (b + 1 - a)).map Nat.cast := by
  have count : ((b : ℤ) + 1 - a).toNat = b + 1 - a := by omega
  rw [integersFromTo, count, List.range'_eq_map_range, List.map_map]
  apply List.map_congr_left
  intro i _
  simp

/-- The integers between two bounds go up. -/
lemma pairwise_integersFromTo (start stop : ℤ) :
    (integersFromTo start stop).Pairwise (· < ·) := by
  rw [integersFromTo, List.pairwise_map]
  exact List.pairwise_lt_range.imp fun below => by omega

/-- Integers between two bounds are those up to a cut and those behind it. -/
lemma integersFromTo_append {a b c : ℕ} (first : a ≤ b) (second : b < c) :
    integersFromTo a b ++ integersFromTo (b + 1 : ℕ) c = integersFromTo a c := by
  have cut : b + 1 = a + (b + 1 - a) := by omega
  have count : b + 1 - a + (c + 1 - (b + 1)) = c + 1 - a := by omega
  simp only [integersFromTo_natCast, ← List.map_append]
  rw [← count, ← List.range'_append_1, ← cut]

/-- An integer that a byte can have is the one that its byte has. -/
lemma toNat_ofInt {z : ℤ} (least : 0 ≤ z) (greatest : z ≤ 255) : ((UInt8.ofInt z).toNat : ℤ) = z := by
  rw [UInt8.ofInt, UInt8.toNat_ofNat_of_lt'] <;> simp <;> omega

/-- Integers that bytes can have are those that their bytes have. -/
lemma map_toNat_ofInt {zs : List ℤ} (bounded : ∀ z ∈ zs, 0 ≤ z ∧ z ≤ 255) :
    (zs.map UInt8.ofInt).map (fun b => (b.toNat : ℤ)) = zs := by
  rw [List.map_map, List.map_congr_left, List.map_id]
  intro z mem
  exact toNat_ofInt (bounded z mem).1 (bounded z mem).2

/-- A character is that of its own code point. -/
lemma scalar?_eq_some_iff {z : ℤ} {c : Char} : scalar? z = some c ↔ (c.toNat : ℤ) = z := by
  rw [scalar?]
  constructor
  · intro h
    split_ifs at h with valid
    obtain rfl := Option.some.inj h
    rw [Char.ofNat, dif_pos valid.2]
    exact Int.toNat_of_nonneg valid.1
  · rintro rfl
    have valid : c.toNat.isValidChar := c.valid
    rw [Int.toNat_natCast, if_pos ⟨by omega, valid⟩, Char.ofNat_toNat]

/-- A code point has a character unless it is a surrogate. -/
lemma scalar?_eq_none_iff {z : ℤ} (least : 0 ≤ z) (greatest : z ≤ 0x10FFFF) :
    scalar? z = none ↔ IsSurrogate z := by
  rw [scalar?, ite_eq_right_iff, IsSurrogate]
  simp only [reduceCtorEq, imp_false, Nat.isValidChar]
  omega

/-- Code points are those that their characters have, less the surrogates. -/
lemma map_toNat_scalar? {zs : List ℤ} (bounded : ∀ z ∈ zs, 0 ≤ z ∧ z ≤ 0x10FFFF) :
    (zs.filterMap scalar?).map (fun c => (c.toNat : ℤ)) = zs.filter (fun z => ¬IsSurrogate z) := by
  induction zs with
  | nil => rfl
  | cons z zs ih =>
    have ih := ih fun z' mem => bounded z' (List.mem_cons_of_mem _ mem)
    have none_iff := scalar?_eq_none_iff (bounded z List.mem_cons_self).1 (bounded z List.mem_cons_self).2
    cases char : scalar? z with
    | none =>
      rw [List.filterMap_cons_none char, List.filter_cons_of_neg (by simpa using none_iff.1 char), ih]
    | some c =>
      have kept : ¬IsSurrogate z := fun surrogate => by simp [none_iff.2 surrogate] at char
      rw [List.filterMap_cons_some char, List.filter_cons_of_pos (by simpa using kept), List.map_cons,
        ih, scalar?_eq_some_iff.1 char]

/-! ## Arguments -/

/-- An argument is an integer within bounds. -/
def Argument.IsIntegerIn (least greatest : ℤ) (a : Argument) : Prop :=
  ∃ value : Int64, a = .integer value ∧ least ≤ value.toInt ∧ value.toInt ≤ greatest

/-- The integer at a position, or the default where none stands. -/
def integerOr (args : List Argument) (index : ℕ) (default : ℤ) : ℤ :=
  match args[index]? with
  | some (.integer value) => value.toInt
  | _ => default

/-- The arguments that a range takes, with the defaults of its bounds: at most two integers from zero
on, of which the second one, or its default, is not below the first one, or its default. -/
structure IsRange (start stop greatest : ℤ) (args : List Argument) : Prop where
  /-- There are at most two arguments. -/
  few : args.length ≤ 2
  /-- Each argument is an integer in the range. -/
  within : ∀ a ∈ args, a.IsIntegerIn 0 greatest
  /-- The end is not before the start. -/
  ordered : integerOr args 0 start ≤ integerOr args 1 stop

/-- The arguments that repeating a text takes: a string and a number of times. -/
def IsRepetition (args : List Argument) : Prop :=
  ∃ text count, args = [.string text, count] ∧ count.IsIntegerIn 0 65535

/-- What holds at the first two positions holds of all of at most two arguments. -/
lemma forall_mem_iff_of_few {args : List Argument} (few : args.length ≤ 2) {P : Argument → Prop} :
    (∀ a ∈ args, P a) ↔ (∀ a, args[0]? = some a → P a) ∧ ∀ a, args[1]? = some a → P a := by
  match args with
  | [] => simp
  | [a] => simp
  | [a, b] => simp
  | _ :: _ :: _ :: _ => simp at few

/-- An integer at a position lies within the bounds that hold for it and for its default. -/
lemma integerOr_bounds {args : List Argument} {index : ℕ} {default least greatest : ℤ}
    (within : ∀ a, args[index]? = some a → a.IsIntegerIn least greatest)
    (low : least ≤ default) (high : default ≤ greatest) :
    least ≤ integerOr args index default ∧ integerOr args index default ≤ greatest := by
  rw [integerOr]
  split
  · rename_i value given
    obtain ⟨_, same, bounds⟩ := within _ given
    obtain rfl := Argument.integer.inj same
    exact bounds
  · exact ⟨low, high⟩

/-- The integers of a range lie in it. -/
lemma IsRange.elements {start stop greatest : ℤ} {args : List Argument}
    (h : IsRange start stop greatest args) (low : 0 ≤ start) (defaults : start ≤ stop)
    (high : stop ≤ greatest) :
    ∀ z ∈ integersFromTo (integerOr args 0 start) (integerOr args 1 stop), 0 ≤ z ∧ z ≤ greatest := by
  intro z mem
  have within (index : ℕ) (a : Argument) (given : args[index]? = some a) :
      a.IsIntegerIn 0 greatest := h.within a (List.mem_of_getElem? given)
  have first := integerOr_bounds (within 0) low (by omega)
  have second := integerOr_bounds (within 1) (by omega) high
  have between := mem_integersFromTo.1 mem
  omega

/-! ## Checks that pass -/

/-- A computation succeeds if its first part does, and the rest with what that gives. -/
lemma bind_eq_ok_iff {ε β γ : Type} {x : Except ε β} {f : β → Except ε γ} {c : γ} :
    (x >>= f) = .ok c ↔ ∃ b, x = .ok b ∧ f b = .ok c := by
  cases x <;> simp [bind, Except.bind]

variable {name : String} {args : List Argument} {index : ℕ}

/-- The number of arguments passes between its bounds. -/
lemma checkArity_eq_ok_iff {least most : ℕ} {u : Unit} :
    checkArity name least most args = .ok u ↔ least ≤ args.length ∧ args.length ≤ most := by
  rw [checkArity]
  split_ifs with other
  · simp only [false_iff]
    omega
  · simp only [true_iff]
    omega

/-- An argument passes as an integer if it is one within bounds, and if there is none. -/
lemma integerAt_eq_ok_iff {default least greatest n : ℤ} :
    integerAt name args index default least greatest = .ok n ↔
      (∀ a, args[index]? = some a → a.IsIntegerIn least greatest) ∧
        integerOr args index default = n := by
  rw [integerAt, integerOr]
  cases given : args[index]? with
  | none => simp
  | some a =>
    cases a with
    | string value => simp [Argument.IsIntegerIn]
    | integer value =>
      simp only [Option.some.injEq, forall_eq', Argument.IsIntegerIn, Argument.integer.injEq,
        exists_eq_left']
      split_ifs with inside
      · simp [inside]
      · simp [inside]

/-- An argument passes as a string if it is one. -/
lemma stringAt_eq_ok_iff {text : String} :
    stringAt name args index = .ok text ↔ args[index]? = some (.string text) := by
  rw [stringAt]
  split
  · rename_i value given
    simp [given]
  · rename_i value given
    simp [given]
  · rename_i given
    simp [given]

/-- An integer passes as a number of times if it is one. -/
lemma countOf_eq_ok_iff {value : ℤ} {n : ℕ} : countOf name index value = .ok n ↔ n = value := by
  rw [countOf]
  split_ifs with natural
  · rw [Except.ok.injEq]
    omega
  · simp only [false_iff]
    omega

/-- The bounds of a range are the integers given for them, or their defaults. -/
lemma rangeOf_eq_ok_iff {start stop greatest : ℤ} {bounds : ℤ × ℤ} :
    rangeOf name args start stop greatest = .ok bounds ↔
      IsRange start stop greatest args ∧ (integerOr args 0 start, integerOr args 1 stop) = bounds := by
  simp only [rangeOf, bind_eq_ok_iff, checkArity_eq_ok_iff, integerAt_eq_ok_iff]
  constructor
  · rintro ⟨_, ⟨-, few⟩, _, ⟨first, rfl⟩, _, ⟨second, rfl⟩, answer⟩
    split_ifs at answer with reversed
    exact ⟨⟨few, (forall_mem_iff_of_few few).2 ⟨first, second⟩, by omega⟩, Except.ok.inj answer⟩
  · rintro ⟨⟨few, within, ordered⟩, rfl⟩
    obtain ⟨first, second⟩ := (forall_mem_iff_of_few few).1 within
    refine ⟨(), ⟨Nat.zero_le _, few⟩, _, ⟨first, rfl⟩, _, ⟨second, rfl⟩, ?_⟩
    rw [if_neg (by omega)]
    rfl

/-! ## Calls that are answered -/

variable {now : ℕ} {output : Output}

/-- The calls for something made of a range that are answered, and their answers. -/
lemma rangeOf_bind_eq_ok_iff {start stop greatest : ℤ} (f : ℤ × ℤ → Output) :
    (rangeOf name args start stop greatest >>= fun bounds => .ok (f bounds)) = .ok output ↔
      IsRange start stop greatest args ∧
        f (integerOr args 0 start, integerOr args 1 stop) = output := by
  simp only [bind_eq_ok_iff, rangeOf_eq_ok_iff]
  constructor
  · rintro ⟨_, ⟨range, rfl⟩, answer⟩
    exact ⟨range, Except.ok.inj answer⟩
  · rintro ⟨range, rfl⟩
    exact ⟨_, ⟨range, rfl⟩, rfl⟩

/-- The calls for a range of bytes that are answered, and their answers. -/
lemma byteRange_eq_ok_iff :
    byteRange now args = .ok output ↔ IsRange 0 255 255 args ∧
      .binary ((integersFromTo (integerOr args 0 0) (integerOr args 1 255)).map UInt8.ofInt) =
        output :=
  rangeOf_bind_eq_ok_iff fun bounds =>
    .binary ((integersFromTo bounds.1 bounds.2).map UInt8.ofInt)

/-- The calls for a range of characters that are answered, and their answers. -/
lemma charRange_eq_ok_iff :
    charRange now args = .ok output ↔ IsRange 32 126 0x10FFFF args ∧
      .text (String.ofList
        ((integersFromTo (integerOr args 0 32) (integerOr args 1 126)).filterMap scalar?)) =
          output :=
  rangeOf_bind_eq_ok_iff fun bounds =>
    .text (String.ofList ((integersFromTo bounds.1 bounds.2).filterMap scalar?))

/-- The calls to repeat a text that are answered, and their answers. -/
lemma repeatText_eq_ok_iff :
    repeatText now args = .ok output ↔ ∃ text n, ∃ count : Int64,
      args = [.string text, .integer count] ∧ count.toInt = (n : ℕ) ∧ n ≤ 65535 ∧
        .text (String.join (List.replicate n text)) = output := by
  simp only [repeatText, bind_eq_ok_iff, checkArity_eq_ok_iff, stringAt_eq_ok_iff,
    integerAt_eq_ok_iff, countOf_eq_ok_iff]
  constructor
  · rintro ⟨_, ⟨two, two'⟩, text, first, _, ⟨second, rfl⟩, n, times, answer⟩
    obtain ⟨a, b, rfl⟩ := List.length_eq_two.1 (le_antisymm two' two)
    obtain rfl : a = .string text := Option.some.inj first
    obtain ⟨count, rfl, -, most⟩ := second b rfl
    have same : (n : ℤ) = count.toInt := times
    exact ⟨text, n, count, rfl, same.symm, by omega, Except.ok.inj answer⟩
  · rintro ⟨text, n, count, rfl, same, most, rfl⟩
    refine ⟨(), ⟨le_rfl, le_rfl⟩, text, rfl, count.toInt, ⟨?_, rfl⟩, n, same.symm, rfl⟩
    rintro _ ⟨⟩
    exact ⟨count, rfl, by omega, by omega⟩

/-- The calls for the time that are answered, and their answers. -/
lemma currentTime_eq_ok_iff :
    currentTime now args = .ok output ↔ args = [] ∧ .text (toString now) = output := by
  simp only [currentTime, bind_eq_ok_iff, checkArity_eq_ok_iff]
  constructor
  · rintro ⟨_, ⟨-, none⟩, answer⟩
    exact ⟨List.length_eq_zero_iff.1 (Nat.le_zero.1 none), Except.ok.inj answer⟩
  · rintro ⟨rfl, rfl⟩
    exact ⟨(), ⟨le_rfl, le_rfl⟩, rfl⟩

/-! ## Contents of ranges and repetitions -/

/-- Two natural numbers as arguments. -/
def bounds (a b : ℕ) : List Argument :=
  [.integer (.ofNat a), .integer (.ofNat b)]

/-- The surrogates between two bounds. -/
def surrogates (a b : ℕ) : Finset ℕ :=
  (Finset.Icc a b).filter fun n => IsSurrogate n

/-- The bytes between two bounds. -/
def bytesFromTo (a b : ℕ) : Bytes :=
  (integersFromTo a b).map UInt8.ofInt

/-- The characters between two bounds. -/
def charsFromTo (a b : ℕ) : String :=
  String.ofList ((integersFromTo a b).filterMap scalar?)

section

variable {a b c greatest : ℕ}

/-- The bounds of a range are arguments that it takes, whatever its defaults are. -/
lemma isRange_bounds (first : a ≤ b) (last : b ≤ greatest) (small : greatest < 2 ^ 63)
    (start stop : ℤ) :
    IsRange start stop greatest (bounds a b) ∧ integerOr (bounds a b) 0 start = a ∧
      integerOr (bounds a b) 1 stop = b := by
  have low : (Int64.ofNat a).toInt = a := Int64.toInt_ofNat_of_lt (by omega)
  have high : (Int64.ofNat b).toInt = b := Int64.toInt_ofNat_of_lt (by omega)
  have start' : integerOr (bounds a b) 0 start = a := low
  have stop' : integerOr (bounds a b) 1 stop = b := high
  refine ⟨⟨le_rfl, ?_, by omega⟩, start', stop'⟩
  intro x mem
  simp only [bounds, List.mem_cons, List.not_mem_nil, or_false] at mem
  rcases mem with rfl | rfl
  · exact ⟨_, rfl, by omega, by omega⟩
  · exact ⟨_, rfl, by omega, by omega⟩

/-- A range of bytes gives the bytes between its bounds. -/
lemma byteRange_bounds (first : a ≤ b) (last : b ≤ 255) :
    byteRange now (bounds a b) = .ok (.binary (bytesFromTo a b)) := by
  obtain ⟨range, start, stop⟩ := isRange_bounds first last (by decide) 0 255
  rw [byteRange_eq_ok_iff, start, stop]
  exact ⟨range, rfl⟩

/-- A range of characters gives the characters between its bounds. -/
lemma charRange_bounds (first : a ≤ b) (last : b ≤ 0x10FFFF) :
    charRange now (bounds a b) = .ok (.text (charsFromTo a b)) := by
  obtain ⟨range, start, stop⟩ := isRange_bounds first last (by decide) 32 126
  rw [charRange_eq_ok_iff, start, stop]
  exact ⟨range, rfl⟩

/-- Repeating a text gives it as often as is asked for. -/
lemma repeatText_ofNat (text : String) {n : ℕ} (most : n ≤ 65535) :
    repeatText now [.string text, .integer (.ofNat n)] =
      .ok (.text (String.join (List.replicate n text))) :=
  repeatText_eq_ok_iff.2 ⟨text, n, _, rfl, Int64.toInt_ofNat_of_lt (by omega), most, rfl⟩

/-- The bytes between two bounds are consecutive. -/
lemma map_toNat_bytesFromTo (last : b ≤ 255) :
    (bytesFromTo a b).map UInt8.toNat = List.range' a (b + 1 - a) := by
  have values : (bytesFromTo a b).map (fun x => (x.toNat : ℤ)) = integersFromTo a b := by
    apply map_toNat_ofInt
    intro z mem
    have := mem_integersFromTo.1 mem
    omega
  have cast : Function.Injective (Nat.cast : ℕ → ℤ) := Nat.cast_injective
  apply cast.list_map
  rw [List.map_map, ← integersFromTo_natCast]
  exact values

/-- The characters between two bounds, and no others. -/
lemma mem_charsFromTo {x : Char} :
    x ∈ (charsFromTo a b).toList ↔ a ≤ x.toNat ∧ x.toNat ≤ b := by
  rw [charsFromTo, String.toList_ofList, List.mem_filterMap]
  simp only [scalar?_eq_some_iff, exists_eq_right', mem_integersFromTo]
  omega

/-- The characters between two bounds go up. -/
lemma pairwise_charsFromTo : (charsFromTo a b).toList.Pairwise (· < ·) := by
  rw [charsFromTo, String.toList_ofList]
  refine (pairwise_integersFromTo a b).filterMap scalar? ?_
  intro z z' below x char x' char'
  rw [scalar?_eq_some_iff] at char char'
  show x.toNat < x'.toNat
  omega

/-- There is a character between two bounds for each integer that is no surrogate.

**Proof sketch.** The code points of the characters are the integers less the surrogates, and the
integers are the natural numbers between the bounds. -/
lemma length_charsFromTo (last : b ≤ 0x10FFFF) :
    (charsFromTo a b).length + (surrogates a b).card = b + 1 - a := by
  have kept : (charsFromTo a b).length =
      (integersFromTo a b).countP fun z => ¬IsSurrogate z := by
    rw [charsFromTo, String.length_ofList, List.countP_eq_length_filter, ← map_toNat_scalar?,
      List.length_map]
    intro z mem
    have := mem_integersFromTo.1 mem
    omega
  have left : (surrogates a b).card = (integersFromTo a b).countP fun z => IsSurrogate z := by
    rw [surrogates, Nat.Icc_eq_range', integersFromTo_natCast, List.countP_map,
      List.countP_eq_length_filter]
    rfl
  have all : (integersFromTo a b).length = b + 1 - a := by
    rw [integersFromTo_natCast, List.length_map, List.length_range']
  rw [kept, left, ← all, List.length_eq_countP_add_countP (fun z => decide (IsSurrogate z)),
    Nat.add_comm]
  simp only [decide_eq_true_eq]

/-- The bytes up to a cut and those behind it. -/
lemma bytesFromTo_append (first : a ≤ b) (second : b < c) :
    bytesFromTo a b ++ bytesFromTo (b + 1) c = bytesFromTo a c := by
  rw [bytesFromTo, bytesFromTo, ← List.map_append, integersFromTo_append first second, bytesFromTo]

/-- The characters up to a cut and those behind it, also where surrogates are on both sides. -/
lemma charsFromTo_append (first : a ≤ b) (second : b < c) :
    charsFromTo a b ++ charsFromTo (b + 1) c = charsFromTo a c := by
  rw [charsFromTo, charsFromTo, ← String.ofList_append, ← List.filterMap_append,
    integersFromTo_append first second, charsFromTo]

end

/-- A repeated text is as many times as long. -/
lemma utf8ByteSize_join_replicate (n : ℕ) (text : String) :
    (String.join (List.replicate n text)).utf8ByteSize = n * text.utf8ByteSize := by
  induction n with
  | zero => simp
  | succ n ih =>
    rw [List.replicate_succ, String.join_cons, String.utf8ByteSize_append, ih, Nat.succ_mul,
      Nat.add_comm]

/-- A call that is answered gives the bytes of the answer between those of the particles around it. -/
lemma Template.eval_call_between {scope : Scope} {f : FunctionValue}
    (bound : scope.value? name = some (.function f))
    (answered : f.body scope.now args = .ok output) (before after : List Particle) :
    Template.eval scope ⟨before ++ .call name args :: after⟩ = do
      let front ← Template.eval scope ⟨before⟩
      let back ← Template.eval scope ⟨after⟩
      return front ++ output.bytes ++ back := by
  have call : Particle.eval scope (.call name args) = pure output.bytes := by
    rw [Particle.eval, Scope.call, bound]
    simp only [answered]
    rfl
  simp only [Template.eval_append, Template.eval_cons, call, pure_bind, bind_assoc,
    List.append_assoc]

/-- **The contents of ranges and repetitions.** A range of characters gives the characters from its
start to its end, each once and in order, so there is one for each code point that is no surrogate; in a
template, a call for it contributes their UTF-8 form. A range of bytes gives the consecutive bytes. A
range that is cut in two gives its two parts. A text is repeated once for each of the times asked for. -/
theorem builtins_output (now : ℕ) :
    (∀ a b : ℕ, a ≤ b → b ≤ 0x10FFFF → ∃ text : String,
        charRange now (bounds a b) = .ok (.text text) ∧
          (∀ x : Char, x ∈ text.toList ↔ a ≤ x.toNat ∧ x.toNat ≤ b) ∧
          text.toList.Pairwise (· < ·) ∧
          text.length + (surrogates a b).card = b - a + 1 ∧
          ∀ (scope : Scope) (name : String) (f : FunctionValue) (before after : List Particle),
            scope.value? name = some (.function f) → f.body = charRange →
            Template.eval scope ⟨before ++ .call name (bounds a b) :: after⟩ = do
              let front ← Template.eval scope ⟨before⟩
              let back ← Template.eval scope ⟨after⟩
              return front ++ Utf8.encode text ++ back) ∧
      (∀ a b c : ℕ, a ≤ b → b < c → c ≤ 0x10FFFF → ∃ first second : String,
        charRange now (bounds a b) = .ok (.text first) ∧
          charRange now (bounds (b + 1) c) = .ok (.text second) ∧
          charRange now (bounds a c) = .ok (.text (first ++ second))) ∧
      (∀ a b : ℕ, a ≤ b → b ≤ 255 → ∃ bytes : Bytes,
        byteRange now (bounds a b) = .ok (.binary bytes) ∧
          bytes.map UInt8.toNat = List.range' a (b - a + 1)) ∧
      (∀ a b c : ℕ, a ≤ b → b < c → c ≤ 255 → ∃ first second : Bytes,
        byteRange now (bounds a b) = .ok (.binary first) ∧
          byteRange now (bounds (b + 1) c) = .ok (.binary second) ∧
          byteRange now (bounds a c) = .ok (.binary (first ++ second))) ∧
      ∀ text : String,
        repeatText now [.string text, .integer 0] = .ok (.text "") ∧
          (∀ n : ℕ, n ≤ 65535 → ∃ whole : String,
            repeatText now [.string text, .integer (.ofNat n)] = .ok (.text whole) ∧
              whole.utf8ByteSize = n * text.utf8ByteSize) ∧
          ∀ m n : ℕ, m + n ≤ 65535 → ∃ first second : String,
            repeatText now [.string text, .integer (.ofNat m)] = .ok (.text first) ∧
              repeatText now [.string text, .integer (.ofNat n)] = .ok (.text second) ∧
              repeatText now [.string text, .integer (.ofNat (m + n))] =
                .ok (.text (first ++ second)) := by
  refine ⟨?_, ?_, ?_, ?_, fun text => ⟨?_, ?_, ?_⟩⟩
  · intro a b first last
    refine ⟨charsFromTo a b, charRange_bounds first last, fun x => mem_charsFromTo,
      pairwise_charsFromTo, ?_, ?_⟩
    · rw [length_charsFromTo last]
      omega
    · intro scope name f before after bound body
      have answered : f.body scope.now (bounds a b) = .ok (.text (charsFromTo a b)) := by
        rw [body, charRange_bounds first last]
      exact Template.eval_call_between bound answered before after
  · intro a b c first second last
    refine ⟨_, _, charRange_bounds first (by omega), charRange_bounds second last, ?_⟩
    rw [charsFromTo_append first second]
    exact charRange_bounds (by omega) last
  · intro a b first last
    refine ⟨_, byteRange_bounds first last, ?_⟩
    rw [map_toNat_bytesFromTo last, Nat.sub_add_comm first]
  · intro a b c first second last
    refine ⟨_, _, byteRange_bounds first (by omega), byteRange_bounds second last, ?_⟩
    rw [bytesFromTo_append first second]
    exact byteRange_bounds (by omega) last
  · exact repeatText_ofNat text (Nat.zero_le _)
  · intro n most
    exact ⟨_, repeatText_ofNat text most, utf8ByteSize_join_replicate n text⟩
  · intro m n most
    refine ⟨_, _, repeatText_ofNat text (by omega), repeatText_ofNat text (by omega), ?_⟩
    rw [← String.join_append, ← List.replicate_add]
    exact repeatText_ofNat text most

/-- A range of characters that is cut among the surrogates: nothing in front of the cut, and two
characters behind two surrogates. -/
theorem builtins_output_surrogates :
    ∃ first second : String,
      charRange 0 (bounds 0xDFFC 0xDFFD) = .ok (.text first) ∧ first.length = 0 ∧
        charRange 0 (bounds 0xDFFE 0xE001) = .ok (.text second) ∧
        second.toList.Pairwise (· < ·) ∧ second.length = 2 ∧ '\uE000' ∈ second.toList ∧
        charRange 0 (bounds 0xDFFC 0xE001) = .ok (.text (first ++ second)) ∧
        Template.eval ⟨7, fun _ => some (.function ⟨"chars", 0, charRange⟩)⟩
          ⟨[.byte 1, .call "c" (bounds 0xDFFE 0xE001)]⟩ = .ok (1 :: Utf8.encode second) ∧
        (∃ bytes bytes' : Bytes, byteRange 0 (bounds 3 254) = .ok (.binary bytes) ∧
          byteRange 0 (bounds 255 255) = .ok (.binary bytes') ∧
          byteRange 0 (bounds 3 255) = .ok (.binary (bytes ++ bytes')) ∧
          bytes'.map UInt8.toNat = [255]) ∧
        ∃ first second : String,
          repeatText 0 [.string "é", .integer (.ofNat 65534)] = .ok (.text first) ∧
            first.utf8ByteSize = 131068 ∧
            repeatText 0 [.string "é", .integer (.ofNat 1)] = .ok (.text second) ∧
            repeatText 0 [.string "é", .integer (.ofNat (65534 + 1))] =
              .ok (.text (first ++ second)) := by
  obtain ⟨chars, cutChars, bytes, cutBytes, repeats⟩ := builtins_output 0
  obtain ⟨first, second, front, back, whole⟩ := cutChars 0xDFFC 0xDFFD 0xE001 (by decide) (by decide)
    (by decide)
  obtain ⟨text, answer, -, -, count, -⟩ := chars 0xDFFC 0xDFFD (by decide) (by decide)
  obtain rfl : first = text := Output.text.inj (Except.ok.inj (front.symm.trans answer))
  obtain ⟨text, answer, mem, up, count', inTemplate⟩ := chars 0xDFFE 0xE001 (by decide) (by decide)
  obtain rfl : second = text := Output.text.inj (Except.ok.inj (back.symm.trans answer))
  have two : (surrogates 0xDFFC 0xDFFD).card = 2 := by decide
  have two' : (surrogates 0xDFFE 0xE001).card = 2 := by decide
  have evaluated := inTemplate ⟨7, fun _ => some (.function ⟨"chars", 0, charRange⟩)⟩ "c"
    ⟨"chars", 0, charRange⟩ [.byte 1] [] rfl rfl
  obtain ⟨bytes', answer', values⟩ := bytes 255 255 (by decide) (by decide)
  obtain ⟨low, high, front', back', whole'⟩ := cutBytes 3 254 255 (by decide) (by decide) (by decide)
  obtain rfl : high = bytes' := Output.binary.inj (Except.ok.inj (back'.symm.trans answer'))
  obtain ⟨-, sizes, sums⟩ := repeats "é"
  obtain ⟨many, one, front'', back'', whole''⟩ := sums 65534 1 (by decide)
  obtain ⟨text, answer'', size⟩ := sizes 65534 (by decide)
  obtain rfl : many = text := Output.text.inj (Except.ok.inj (front''.symm.trans answer''))
  refine ⟨first, second, front, by omega, back, up, by omega, (mem '\uE000').2 (by decide), whole,
    ?_, ⟨low, high, front', back', whole', values⟩, many, one, front'', ?_, back'', whole''⟩
  · rw [List.singleton_append] at evaluated
    rw [evaluated]
    simp only [Template.eval_cons, Template.eval_nil, Particle.eval, pure_bind, List.append_nil]
    rfl
  · rw [size]
    decide

end FrameConsole
