import ScreenFlow.Proofs.Project.Named
import ScreenFlow.Proofs.Project.Pattern

/-!
Where a status leads, and where looking for it goes wrong.  What is found bears the name that the
registry gives for the status or the name that follows from it, or it declares the status.  Names
are searched for as patterns: one that holds the sign of a pattern may find other files or fail.
-/

namespace ScreenFlow

namespace Locator

open Glob

theorem isEnding_of_mem_suffixes {suffix : String} (hsuffix : suffix ∈ suffixes) :
    IsEnding suffix := by
  rcases List.mem_pair.mp hsuffix with rfl | rfl <;>
    exact ⟨by decide, by decide, by simp [isWild]⟩

/-- The path ends in the components of a file name that the name makes. -/
def Names (name : String) (path : Path) : Prop :=
  ∃ suffix ∈ suffixes, (Path.parse (name ++ suffix)).parts <:+ path.parts

variable {locator : Locator} {files : FileTree}

/-! A search by name. -/

/-- The name holds no sign of a pattern, and no directory is called like a file of the name. -/
structure Faithful (files : FileTree) (name : String) : Prop where
  plain : Plain name
  noDirectory : ∀ suffix ∈ suffixes, ∀ location, files.isDirectoryAt location = true →
    location.getLast? ≠ some (Path.parse (name ++ suffix)).name

theorem getLast?_of_locate? {path : Path} {location : Location} {part : String}
    (hlocate : files.locate? path = some location) (hpart : path.parts.getLast? = some part)
    (hdots : part ≠ "..") : location.getLast? = some part := by
  obtain ⟨front, hparts⟩ := List.getLast?_eq_some_iff.mp hpart
  unfold FileTree.locate? at hlocate
  rw [hparts, List.foldlM_append] at hlocate
  obtain ⟨directory, -, hlast⟩ := Option.bind_eq_some_iff.mp hlocate
  obtain ⟨next, hstep, hnext⟩ := Option.bind_eq_some_iff.mp hlast
  cases hnext
  unfold FileTree.step? at hstep
  dsimp only at hstep
  rw [if_neg hdots] at hstep
  split at hstep
  · cases hstep
  · split at hstep
    · cases hstep
      exact List.getLast?_concat
    · cases hstep

theorem Faithful.isDirectory {name : String} (hname : Faithful files name) {path : Path}
    (hnames : Names name path) : files.isDirectory path = false := by
  obtain ⟨suffix, hsuffix, front, hparts⟩ := hnames
  have hending := isEnding_of_mem_suffixes hsuffix
  obtain ⟨part, hpart⟩ := hending.parts_getLast? name
  have hlast : path.parts.getLast? = some (part ++ suffix) := by
    rw [← hparts, List.getLast?_append_of_ne_nil _ (hending.parts_ne_nil name), hpart]
  rw [← Bool.not_eq_true]
  intro hdirectory
  unfold FileTree.isDirectory FileTree.find? at hdirectory
  cases hlocate : files.locate? path with
  | none =>
      rw [hlocate] at hdirectory
      cases hdirectory
  | some location =>
      rw [hlocate] at hdirectory
      refine hname.noDirectory suffix hsuffix location hdirectory ?_
      rw [getLast?_of_locate? hlocate hlast (hending.append_ne (by decide) part), Path.name, hpart]
      rfl

/-- The unit that the session gives for the file declares the status. -/
def Tells (session : Session) (status : String) (path : Path) : Prop :=
  ∃ unit, session.known path = .ok unit ∧ declares unit.graph status = true

end Locator

end ScreenFlow
