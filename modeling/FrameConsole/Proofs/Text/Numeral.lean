import FrameConsole.Text.Hex
import Mathlib.Data.List.Induction
import Mathlib.Tactic.IntervalCases
import Mathlib.Tactic.Lemma
import Mathlib.Tactic.Ring

/-!
# Numerals

What it is for a run of digits to spell a number, said of the run alone: the empty run spells zero,
and a digit at the end multiplies by the base and adds its value. The readers of numbers fold over
their digits instead, and the two agree.

## Main definitions

* `FrameConsole.IsDecimalDigit`, `FrameConsole.IsHexDigit` — a character and the value it has.
* `FrameConsole.Numeral` — a run of digits and the number it spells in a base.

## Main results

* `FrameConsole.numeral_iff` — in a base whose digits are recognised by a test, a run spells the
  number that folding over it gives, provided that all its characters pass the test.
* `FrameConsole.numeral_toDigits` — the fewest digits of a number spell that number.
-/

namespace FrameConsole

/-! ## Digits -/

/-- The decimal digit `c` has the value `n`. -/
def IsDecimalDigit (c : Char) (n : ℕ) : Prop :=
  ['0', '1', '2', '3', '4', '5', '6', '7', '8', '9'][n]? = some c

/-- The hexadecimal digit `c`, of either letter case, has the value `n`. -/
def IsHexDigit (c : Char) (n : ℕ) : Prop :=
  ['0', '1', '2', '3', '4', '5', '6', '7', '8', '9', 'a', 'b', 'c', 'd', 'e', 'f'][n]? = some c ∨
    ['0', '1', '2', '3', '4', '5', '6', '7', '8', '9', 'A', 'B', 'C', 'D', 'E', 'F'][n]? = some c

instance (c : Char) (n : ℕ) : Decidable (IsDecimalDigit c n) :=
  inferInstanceAs (Decidable (_ = _))

instance (c : Char) (n : ℕ) : Decidable (IsHexDigit c n) :=
  inferInstanceAs (Decidable (_ ∨ _))

/-- The values of hexadecimal digits are below sixteen. -/
lemma IsHexDigit.lt {c : Char} {n : ℕ} (h : IsHexDigit c n) : n < 16 := by
  rcases h with h | h <;> simpa using (List.getElem?_eq_some_iff.1 h).1

/-- Hexadecimal digits are the characters to which a value is given, with that value.

**Proof sketch.** From left to right there are sixteen values, each with at most two characters.
From right to left the value determines the character in each of the three ranges of code points,
and the ranges are short. -/
lemma isHexDigit_iff (c : Char) (n : ℕ) : IsHexDigit c n ↔ Hex.digit? c = some n := by
  constructor
  · intro h
    have hn : n < 16 := h.lt
    rcases h with h | h <;> interval_cases n <;> obtain rfl := Option.some.inj h <;> decide
  · intro h
    simp only [Hex.digit?] at h
    have hc : c = Char.ofNat c.toNat := (Char.ofNat_toNat c).symm
    split_ifs at h with digit small capital
    · have h₁ : 48 ≤ c.toNat := digit.1
      have h₂ : c.toNat ≤ 57 := digit.2
      rw [hc, ← Option.some.inj h]
      clear h digit hc
      interval_cases c.toNat <;> decide
    · have h₁ : 97 ≤ c.toNat := small.1
      have h₂ : c.toNat ≤ 102 := small.2
      rw [hc, ← Option.some.inj h]
      clear h small digit hc
      interval_cases c.toNat <;> decide
    · have h₁ : 65 ≤ c.toNat := capital.1
      have h₂ : c.toNat ≤ 70 := capital.2
      rw [hc, ← Option.some.inj h]
      clear h capital small digit hc
      interval_cases c.toNat <;> decide

/-- Decimal digits are the ten characters in a row that start with `0`, with the values of
hexadecimal digits. -/
lemma isDecimalDigit_iff (c : Char) (n : ℕ) :
    IsDecimalDigit c n ↔ c.isDigit = true ∧ (Hex.digit? c).getD 0 = n := by
  constructor
  · intro h
    have hn : n < 10 := by simpa using (List.getElem?_eq_some_iff.1 h).1
    interval_cases n <;> obtain rfl := Option.some.inj h <;> decide
  · rintro ⟨digit, rfl⟩
    have hc : c = Char.ofNat c.toNat := (Char.ofNat_toNat c).symm
    have h₁ : 48 ≤ c.toNat := (by simpa [Char.isDigit] using digit : 48 ≤ c.val ∧ c.val ≤ 57).1
    have h₂ : c.toNat ≤ 57 := (by simpa [Char.isDigit] using digit : 48 ≤ c.val ∧ c.val ≤ 57).2
    rw [hc]
    clear digit hc
    interval_cases c.toNat <;> decide

/-! ## Runs of digits -/

/-- The run `cs` of digits spells the number `n` in a base, where `digit` gives the characters
their values. -/
inductive Numeral (digit : Char → ℕ → Prop) (base : ℕ) : List Char → ℕ → Prop
  /-- No digits spell zero. -/
  | nil : Numeral digit base [] 0
  /-- One more digit at the end. -/
  | snoc {cs : List Char} {n : ℕ} {c : Char} {d : ℕ} (init : Numeral digit base cs n)
      (last : digit c d) : Numeral digit base (cs ++ [c]) (n * base + d)

/-- The number of a run with one more digit. -/
lemma Hex.valueIn_concat (base : ℕ) (cs : List Char) (c : Char) :
    Hex.valueIn base (cs ++ [c]) = Hex.valueIn base cs * base + (Hex.digit? c).getD 0 := by
  simp [Hex.valueIn]

/-- In a base whose digits are recognised by a test, a run spells a number exactly if all its
characters pass the test and folding over it gives that number.

**Proof sketch.** Induction on the derivation from left to right, and on the run from its end from
right to left. Both sides add a digit at the end in the same way. -/
lemma numeral_iff {digit : Char → ℕ → Prop} {test : Char → Bool}
    (recognised : ∀ c d, digit c d ↔ test c = true ∧ (Hex.digit? c).getD 0 = d) {base : ℕ}
    {cs : List Char} {n : ℕ} :
    Numeral digit base cs n ↔ (∀ c ∈ cs, test c = true) ∧ Hex.valueIn base cs = n := by
  constructor
  · intro h
    induction h with
    | nil => exact ⟨by simp, rfl⟩
    | @snoc cs n c d _ last ih =>
      obtain ⟨hc, rfl⟩ := (recognised c d).1 last
      refine ⟨fun c' mem => ?_, by rw [Hex.valueIn_concat, ih.2]⟩
      rcases List.mem_append.1 mem with mem | mem
      · exact ih.1 c' mem
      · rw [List.mem_singleton.1 mem, hc]
  · rintro ⟨all, rfl⟩
    induction cs using List.reverseRecOn with
    | nil => exact .nil
    | append_singleton cs c ih =>
      rw [Hex.valueIn_concat]
      exact .snoc (ih fun c' mem => all c' (by simp [mem]))
        ((recognised c _).2 ⟨all c (by simp), rfl⟩)

/-- A run of hexadecimal digits spells the number that folding over it gives. -/
lemma numeral_hex_iff {cs : List Char} {n : ℕ} :
    Numeral IsHexDigit 16 cs n ↔ (∀ c ∈ cs, Hex.isDigit c = true) ∧ Hex.valueIn 16 cs = n := by
  refine numeral_iff fun c d => ?_
  rw [isHexDigit_iff, Hex.isDigit]
  cases Hex.digit? c <;> simp

/-- A run of decimal digits spells the number that folding over it gives. -/
lemma numeral_decimal_iff {cs : List Char} {n : ℕ} :
    Numeral IsDecimalDigit 10 cs n ↔ (∀ c ∈ cs, c.isDigit = true) ∧ Hex.valueIn 10 cs = n :=
  numeral_iff isDecimalDigit_iff

/-- A number spelled by `k` digits is below the `k`-th power of the base. -/
lemma Numeral.lt_pow {digit : Char → ℕ → Prop} {base : ℕ} (small : ∀ c d, digit c d → d < base)
    {cs : List Char} {n : ℕ} (h : Numeral digit base cs n) : n < base ^ cs.length := by
  induction h with
  | nil => simp
  | @snoc cs n c d _ last ih =>
    have hd := small c d last
    calc n * base + d < n * base + base := by omega
      _ = (n + 1) * base := by ring
      _ ≤ base ^ cs.length * base := Nat.mul_le_mul_right base ih
      _ = base ^ (cs ++ [c]).length := by simp [pow_succ]

/-- The fewest digits of a number spell that number, in a base that has its digits among those of
`Nat.toDigits`. -/
lemma numeral_toDigits {digit : Char → ℕ → Prop} {base : ℕ} (hb : 1 < base)
    (written : ∀ d < base, digit d.digitChar d) (n : ℕ) :
    Numeral digit base (Nat.toDigits base n) n := by
  induction n using Nat.strong_induction_on with
  | _ n ih =>
    by_cases hn : n < base
    · rw [Nat.toDigits_of_lt_base hn]
      simpa using Numeral.snoc .nil (written n hn)
    · rw [Nat.toDigits_of_base_le hb (by omega)]
      have init := ih (n / base) (Nat.div_lt_self (by omega) hb)
      have h := init.snoc (written (n % base) (Nat.mod_lt n (by omega)))
      rwa [Nat.div_add_mod' n base] at h

end FrameConsole
