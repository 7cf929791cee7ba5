import FrameConsole.Text.Cluster
import FrameConsole.Text.Utf8

/-!
# Backspaces

A line as it was typed, with its backspaces carried out: each of them takes back the cluster before
it. The clusters are those of the line as it was typed, so that a mark behind a backspace does not
join what stands before it.

The size of a cluster is kept in a single byte. A cluster of 256 bytes or more is therefore taken
back only in part: as many bytes from its end as remain when its size is divided by 256. If these
bytes end within a character, the line comes to nothing.

## Main definitions

* `FrameConsole.Draft` — a line while its backspaces are carried out.
* `FrameConsole.withBackspaces?` — a line after its backspaces, if they cut no character.

## Main results

* `FrameConsole.withBackspaces?_eq_self` — a line without a backspace stays as it is.
-/

namespace FrameConsole

/-- The backspace character. -/
def backspace : Char :=
  '\x08'

/-- A line while its backspaces are carried out. -/
structure Draft where
  /-- What stands in the line, the last character first. -/
  kept : List Char := []
  /-- The sizes of the clusters that can be taken back, the last one first. -/
  sizes : List Nat := []
  deriving DecidableEq, Repr

/-- The size of a cluster in bytes, as far as a single byte holds it. -/
def Cluster.size (cluster : Cluster) : Nat :=
  Utf8.length cluster % 256

/-- A text, its last character first, without some bytes at its end, if these are the bytes of whole
characters. -/
def dropBytes? : Nat → List Char → Option (List Char)
  | 0, kept => some kept
  | _, [] => none
  | n + 1, c :: kept =>
    if c.utf8Size ≤ n + 1 then dropBytes? (n + 1 - c.utf8Size) kept else none

namespace Draft

/-- Adds a cluster. -/
def append (d : Draft) (cluster : Cluster) : Draft :=
  ⟨cluster ++ d.kept, cluster.size :: d.sizes⟩

/-- Takes back the last cluster, if there is one. -/
def takeBack? (d : Draft) : Option Draft :=
  match d.sizes with
  | [] => some d
  | size :: sizes => (dropBytes? size d.kept).map fun kept => ⟨kept, sizes⟩

/-- Takes the next cluster of a line. -/
def take? (d : Draft) (cluster : Cluster) : Option Draft :=
  if cluster = [backspace] then d.takeBack? else some (d.append cluster)

/-- Clusters that are no backspaces are all added. -/
theorem foldlM_take? (clusters : List Cluster) (d : Draft)
    (h : ∀ cluster ∈ clusters, cluster ≠ [backspace]) :
    clusters.foldlM take? d = some (clusters.foldl append d) := by
  induction clusters generalizing d with
  | nil => rfl
  | cons cluster clusters ih =>
    have other : cluster ≠ [backspace] := h cluster (List.mem_cons_self ..)
    have added : d.take? cluster = some (d.append cluster) := by simp [take?, other]
    rw [List.foldlM_cons, added, List.foldl_cons]
    exact ih _ fun c mem => h c (List.mem_cons_of_mem _ mem)

/-- Clusters that are added stand behind what was there. -/
theorem kept_foldl_append (clusters : List Cluster) (d : Draft) :
    (clusters.foldl append d).kept = clusters.reverse.flatten ++ d.kept := by
  induction clusters generalizing d with
  | nil => rfl
  | cons cluster clusters ih => simp [ih, append]

end Draft

/-- A line after its backspaces, if they cut no character. -/
def withBackspaces? (line : List Char) : Option (List Char) :=
  ((Cluster.split line).foldlM Draft.take? {}).map fun d => d.kept.reverse

/-- A line without a backspace stays as it is. -/
theorem withBackspaces?_eq_self {line : List Char} (h : backspace ∉ line) :
    withBackspaces? line = some line := by
  have other : ∀ cluster ∈ Cluster.split line, cluster ≠ [backspace] := by
    rintro _ mem rfl
    apply h
    rw [← Cluster.flatten_split line]
    exact List.mem_flatten.2 ⟨[backspace], List.mem_map.2 ⟨_, mem, rfl⟩, List.mem_cons_self ..⟩
  rw [withBackspaces?, Draft.foldlM_take? _ _ other, Option.map_some, Draft.kept_foldl_append]
  conv => rhs; rw [← Cluster.flatten_split line]
  simp [List.reverse_flatten]

end FrameConsole
