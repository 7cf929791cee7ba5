/-!
# Tables of code points

A property of characters given as a table: the code points that have it, as closed ranges in
increasing order.

## Main definitions

* `FrameConsole.Ranges` — the tables.
* `FrameConsole.Ranges.covers` — whether a code point is in a table.

## Main results

* `FrameConsole.Ranges.covers_iff` — in a table in order, the search finds every code point that
  one of the ranges covers.
-/

namespace FrameConsole

/-- Code points as closed ranges, by their first and last ones. -/
abbrev Ranges := List (Nat × Nat)

namespace Ranges

/-- Whether one of the ranges covers a code point. The search ends at the first range that begins
above it. -/
def covers (n : Nat) : Ranges → Bool
  | [] => false
  | (first, last) :: ranges => first ≤ n && (n ≤ last || covers n ranges)

/-- Whether the ranges are in increasing order from some number on, and none of them is empty. -/
def ascendFrom (least : Nat) : Ranges → Bool
  | [] => true
  | (first, last) :: ranges => least ≤ first && first ≤ last && ascendFrom (last + 1) ranges

/-- Whether the ranges are in increasing order and none of them is empty. -/
def ascend (ranges : Ranges) : Bool :=
  ranges.ascendFrom 0

/-- How many code points the ranges cover. -/
def size : Ranges → Nat
  | [] => 0
  | (first, last) :: ranges => last + 1 - first + size ranges

/-- Every range of a table in order begins where the table may begin, or later. -/
theorem le_of_ascendFrom {ranges : Ranges} {least : Nat} (h : ranges.ascendFrom least = true)
    {range : Nat × Nat} (mem : range ∈ ranges) : least ≤ range.1 := by
  induction ranges generalizing least with
  | nil => cases mem
  | cons head ranges ih =>
    simp only [ascendFrom, Bool.and_eq_true, decide_eq_true_eq] at h
    cases mem with
    | head => exact h.1.1
    | tail _ mem => exact Nat.le_trans (by omega) (ih h.2 mem)

/-- In a table in order, the search finds every code point that one of the ranges covers. -/
theorem covers_iff_of_ascendFrom {ranges : Ranges} {least : Nat}
    (h : ranges.ascendFrom least = true) (n : Nat) :
    ranges.covers n = true ↔ ∃ range ∈ ranges, range.1 ≤ n ∧ n ≤ range.2 := by
  induction ranges generalizing least with
  | nil => simp [covers]
  | cons head ranges ih =>
    simp only [ascendFrom, Bool.and_eq_true, decide_eq_true_eq] at h
    have later : ∀ range ∈ ranges, head.2 + 1 ≤ range.1 := fun _ mem => le_of_ascendFrom h.2 mem
    simp only [covers, Bool.and_eq_true, Bool.or_eq_true, decide_eq_true_eq, ih h.2,
      List.mem_cons, exists_eq_or_imp]
    constructor
    · rintro ⟨first, last | found⟩
      · exact Or.inl ⟨first, last⟩
      · exact Or.inr found
    · rintro (⟨first, last⟩ | ⟨range, mem, bounds⟩)
      · exact ⟨first, Or.inl last⟩
      · exact ⟨by have := later range mem; omega, Or.inr ⟨range, mem, bounds⟩⟩

/-- In a table in order, the search finds every code point that one of the ranges covers. -/
theorem covers_iff {ranges : Ranges} (h : ranges.ascend = true) (n : Nat) :
    ranges.covers n = true ↔ ∃ range ∈ ranges, range.1 ≤ n ∧ n ≤ range.2 :=
  covers_iff_of_ascendFrom h n

end FrameConsole.Ranges
