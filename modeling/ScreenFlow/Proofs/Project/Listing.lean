import ScreenFlow.Project.Glob
import ScreenFlow.Proofs.Project.Session
import Mathlib.Data.Prod.Lex
import Mathlib.Data.String.Basic

/-!
Files in whatever order they are listed.  Paths stand in one line, so that the first path in sorted
order is the least one; what is found in a tree does not depend on the order of its nodes.
-/

namespace ScreenFlow

namespace Path

/-- The place of a path in the line of the paths. -/
def rank (path : Path) : String ×ₗ List String :=
  toLex (path.root, path.parts)

theorem rank_injective {first second : Path} (hsame : first.rank = second.rank) :
    first = second := by
  obtain ⟨root, parts⟩ := first
  obtain ⟨_, _⟩ := second
  obtain ⟨rfl, rfl⟩ := Prod.mk.inj (toLex.injective hsame)
  rfl

theorem before_iff {first second : Path} :
    first.before second = true ↔ first.rank < second.rank := by
  simp [before, rank, Prod.Lex.toLex_lt_toLex]

/-- Of the paths with the property, the one that comes before all others. -/
structure IsLeast (P : Path → Prop) (path : Path) : Prop where
  holds : P path
  least : ∀ other, P other → other.before path = false

theorem IsLeast.unique {P : Path → Prop} {first second : Path} (hfirst : IsLeast P first)
    (hsecond : IsLeast P second) : first = second := by
  have hnot {path other : Path} (hbefore : other.before path = false) : path.rank ≤ other.rank := by
    rw [← not_lt, ← before_iff, hbefore]
    decide
  exact rank_injective (le_antisymm (hnot (hfirst.least second hsecond.holds))
    (hnot (hsecond.least first hfirst.holds)))

theorem IsLeast.congr {P Q : Path → Prop} (hsame : ∀ path, P path ↔ Q path) {path : Path} :
    IsLeast P path ↔ IsLeast Q path := by
  have hequal : P = Q := funext fun other => propext (hsame other)
  rw [hequal]

theorem mem_sort {paths : List Path} {path : Path} : path ∈ sort paths ↔ path ∈ paths :=
  List.mem_mergeSort

theorem sort_pairwise (paths : List Path) :
    (sort paths).Pairwise fun first second => second.before first = false := by
  have hle (first second : Path) :
      (!second.before first) = true ↔ first.rank ≤ second.rank := by
    rw [Bool.not_eq_true', ← Bool.not_eq_true, before_iff, not_lt]
  have hsorted := @List.pairwise_mergeSort _ (fun first second : Path => !second.before first)
    (fun a b c => by rw [hle, hle, hle]; exact le_trans)
    (fun a b => by rw [Bool.or_eq_true, hle, hle]; exact le_total _ _) paths
  exact hsorted.imp fun hbefore => by simpa using hbefore

/-- Searching sorted paths finds the least one. -/
theorem find?_sort {test : Path → Bool} {paths : List Path} {path : Path} :
    (sort paths).find? test = some path ↔
      IsLeast (fun other => other ∈ paths ∧ test other = true) path := by
  have hfound {path : Path} (hfind : (sort paths).find? test = some path) :
      IsLeast (fun other => other ∈ paths ∧ test other = true) path := by
    obtain ⟨htest, front, back, hsplit, hfront⟩ := List.find?_eq_some_iff_append.mp hfind
    have hsorted := sort_pairwise paths
    rw [hsplit, List.pairwise_append, List.pairwise_cons] at hsorted
    refine ⟨⟨mem_sort.mp (List.mem_of_find?_eq_some hfind), htest⟩, fun other hother => ?_⟩
    have hmem := mem_sort.mpr hother.1
    rw [hsplit, List.mem_append, List.mem_cons] at hmem
    rcases hmem with hmem | rfl | hmem
    · exact absurd hother.2 (by simpa using hfront other hmem)
    · rw [← Bool.not_eq_true, before_iff]
      exact lt_irrefl _
    · exact hsorted.2.1.1 other hmem
  refine ⟨hfound, fun hleast => ?_⟩
  cases hfind : (sort paths).find? test with
  | none =>
      exact absurd hleast.holds.2
        (by simpa using List.find?_eq_none.mp hfind path (mem_sort.mpr hleast.holds.1))
  | some other => rw [(hfound hfind).unique hleast]

end Path

namespace FileTree

/-- The same files and directories, each once, listed in any order. -/
structure SameNodes (first second : FileTree) : Prop where
  workingDirectory : first.workingDirectory = second.workingDirectory
  nodes : first.nodes.Perm second.nodes
  nodup : (first.nodes.map Prod.fst).Nodup

variable {first second : FileTree} (hsame : first.SameNodes second)
include hsame

theorem SameNodes.symm : second.SameNodes first where
  workingDirectory := hsame.workingDirectory.symm
  nodes := hsame.nodes.symm
  nodup := (hsame.nodes.map Prod.fst).nodup_iff.mp hsame.nodup

theorem SameNodes.node? (location : Location) : first.node? location = second.node? location := by
  have hlookup : first.nodes.lookup location = second.nodes.lookup location := by
    ext node
    rw [lookup_eq_some_iff_mem hsame.nodup, lookup_eq_some_iff_mem hsame.symm.nodup,
      hsame.nodes.mem_iff]
  unfold FileTree.node?
  rw [hlookup]

theorem SameNodes.locate? (path : Path) : first.locate? path = second.locate? path := by
  have hstep : first.step? = second.step? := by
    funext location part
    simp only [FileTree.step?, FileTree.isDirectoryAt, hsame.node?]
  have hstart : first.start path = second.start path := by
    unfold FileTree.start
    rw [hsame.workingDirectory]
  unfold FileTree.locate?
  rw [hstep, hstart]

theorem SameNodes.find? (path : Path) : first.find? path = second.find? path := by
  unfold FileTree.find?
  rw [hsame.locate?, funext hsame.node?]

theorem SameNodes.isDirectory (path : Path) :
    first.isDirectory path = second.isDirectory path := by
  unfold FileTree.isDirectory
  rw [hsame.find?]

theorem SameNodes.isFile (path : Path) : first.isFile path = second.isFile path := by
  unfold FileTree.isFile
  rw [hsame.find?]

theorem SameNodes.mem_children (path : Path) (child : String × FileNode) :
    child ∈ first.children path ↔ child ∈ second.children path := by
  unfold FileTree.children
  rw [hsame.locate?]
  split
  · rfl
  · simp only [List.mem_filterMap, hsame.nodes.mem_iff]

end FileTree

namespace Glob

theorem mem_paths_iff {glob : Glob} {tree : FileTree} {directory path : Path} :
    path ∈ glob.paths tree directory ↔ tree.isDirectory directory = true ∧
      path ∈ select tree glob.directoriesOnly glob.components directory := by
  unfold Glob.paths
  split
  · next hdirectory => rw [Path.mem_sort, hdirectory, eq_self, true_and]
  · next hnot => simp [hnot]

variable {first second : FileTree} (hsame : first.SameNodes second)
include hsame

theorem mem_directories (fuel : Nat) (path other : Path) :
    other ∈ directories first fuel path ↔ other ∈ directories second fuel path := by
  induction fuel generalizing path with
  | zero => rfl
  | succ fuel ih =>
      simp only [directories, List.mem_cons, List.mem_flatMap, List.mem_filter,
        hsame.mem_children, ih]

theorem mem_select (directoriesOnly : Bool) (components : List Component) (path other : Path) :
    other ∈ select first directoriesOnly components path ↔
      other ∈ select second directoriesOnly components path := by
  induction components generalizing path with
  | nil => rfl
  | cons component rest ih =>
      cases component with
      | exact name =>
          simp only [select, hsame.isDirectory, hsame.find?]
          split <;> simp [ih]
      | wild marks =>
          simp only [select, List.mem_flatMap, List.mem_filter, hsame.mem_children, ih]
      | anyDepth =>
          simp only [select, List.mem_eraseDups, List.mem_flatMap, mem_directories hsame, ih,
            hsame.nodes.length_eq]

/-- A pattern leads to the same paths in whatever order the files are listed. -/
theorem mem_paths_congr (glob : Glob) (directory other : Path) :
    other ∈ glob.paths first directory ↔ other ∈ glob.paths second directory := by
  rw [mem_paths_iff, mem_paths_iff, hsame.isDirectory, mem_select hsame]

end Glob

end ScreenFlow
