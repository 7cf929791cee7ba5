import FrameConsole.Text.Cluster.Break

/-!
# Clusters

A text as the sequence of what a reader takes for its characters, by the rules of Unicode for
extended grapheme clusters. Whether a character belongs to the cluster before it depends on that
cluster alone: nothing further back is looked at.

## Main definitions

* `FrameConsole.Cluster` — a part of a text, its last character first.
* `FrameConsole.Cluster.goesOn` — whether a character belongs to the cluster before it.
* `FrameConsole.Cluster.split` — the clusters of a text.

## Main results

* `FrameConsole.Cluster.flatten_split` — the clusters of a text make up the text.
-/

namespace FrameConsole

/-- A part of a text that a reader takes for one character, its last character first. -/
abbrev Cluster := List Char

namespace Cluster

/-! ### Rules -/

/-- Whether what is left of a cluster ends in a consonant that is joined to the next character:
only conjunct marks stand behind it, and one of them is a linker. -/
def endsJoined (linked : Bool) : Cluster → Bool
  | [] => false
  | c :: before =>
    if isLinker c then endsJoined true before
    else if isConjunctMark c then endsJoined linked before
    else linked && ClusterBreak.ofChar c = .consonant

/-- Whether a cluster ends in a pictograph, with marks behind it or without. -/
def endsInPictograph : Cluster → Bool
  | [] => false
  | c :: before =>
    match ClusterBreak.ofChar c with
    | .extend => endsInPictograph before
    | .pictograph => true
    | _ => false

/-- Whether a cluster ends in one letter of a flag that lacks the other. -/
def endsInHalfFlag (cluster : Cluster) : Bool :=
  (cluster.takeWhile isRegional).length % 2 = 1

/-- Whether a character belongs to the cluster before it. -/
def goesOn (cluster : Cluster) (c : Char) : Bool :=
  match cluster with
  | [] => false
  | last :: before =>
    match ClusterBreak.ofChar last, ClusterBreak.ofChar c with
    | .carriageReturn, .lineFeed => true
    | .carriageReturn, _ | .lineFeed, _ | .control, _ => false
    | _, .carriageReturn | _, .lineFeed | _, .control => false
    | .leading, .leading | .leading, .vowel => true
    | .leading, .openSyllable | .leading, .closedSyllable => true
    | .openSyllable, .vowel | .openSyllable, .trailing | .vowel, .vowel | .vowel, .trailing => true
    | .closedSyllable, .trailing | .trailing, .trailing => true
    | _, .extend | _, .joiner | _, .spacingMark => true
    | .prepended, _ => true
    | _, .consonant => endsJoined false cluster
    | .joiner, .pictograph => endsInPictograph before
    | .regional, .regional => endsInHalfFlag cluster
    | _, _ => false

/-! ### Splitting -/

/-- Takes the next character of a text, given its clusters so far, the last one first. -/
def push (clusters : List Cluster) (c : Char) : List Cluster :=
  match clusters with
  | [] => [[c]]
  | cluster :: earlier =>
    if cluster.goesOn c then (c :: cluster) :: earlier else [c] :: cluster :: earlier

/-- The clusters of a text, in order. -/
def split (text : List Char) : List Cluster :=
  (text.foldl push []).reverse

/-- The text of clusters that are given in reverse order. -/
theorem flatten_push (clusters : List Cluster) (c : Char) :
    (push clusters c).flatten = c :: clusters.flatten := by
  cases clusters with
  | nil => rfl
  | cons cluster earlier =>
    simp only [push]
    split <;> simp

/-- Taking characters one by one keeps all of them. -/
theorem flatten_foldl_push (text : List Char) (clusters : List Cluster) :
    (text.foldl push clusters).flatten = text.reverse ++ clusters.flatten := by
  induction text generalizing clusters with
  | nil => rfl
  | cons c text ih => simp [ih, flatten_push]

/-- The clusters of a text make up the text. -/
theorem flatten_split (text : List Char) :
    ((split text).map List.reverse).flatten = text := by
  have h := congrArg List.reverse (flatten_foldl_push text [])
  simpa [split, List.reverse_flatten, List.map_reverse] using h

end FrameConsole.Cluster
