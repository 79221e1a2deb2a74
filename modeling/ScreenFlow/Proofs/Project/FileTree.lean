import ScreenFlow.Project.FileTree
import ScreenFlow.Proofs.Effect
import Mathlib.Data.List.Induction

/-!
Writing files.  A write puts one file into a directory and leaves the directories as they are, so a
path leads to the same place before and after it; after several writes a file holds the text that
was last written to its place.
-/

namespace ScreenFlow

namespace FileTree

/-- Whatever is there is in a directory. -/
def IsTree (tree : FileTree) : Prop :=
  ∀ location, (tree.node? location).isSome = true → tree.isDirectoryAt location.dropLast = true

theorem isDirectoryAt_iff {tree : FileTree} {location : Location} :
    tree.isDirectoryAt location = true ↔ tree.node? location = some .directory := by
  simp [isDirectoryAt]

theorem isTree_of_nodes {tree : FileTree}
    (hnodes : ∀ entry ∈ tree.nodes, tree.isDirectoryAt entry.1.dropLast = true) :
    tree.IsTree := by
  intro location hsome
  by_cases hroot : location = []
  · subst hroot
    rfl
  · unfold node? at hsome
    rw [if_neg (by simpa using hroot), List.lookup_isSome_iff] at hsome
    obtain ⟨entry, hmem, hkey⟩ := hsome
    rw [eq_of_beq hkey]
    exact hnodes entry hmem

theorem lookup_replace_self {nodes : List (Location × FileNode)} {location : Location}
    (hsome : (nodes.lookup location).isSome = true) (node : FileNode) :
    (nodes.map fun entry => if entry.1 = location then (location, node) else entry).lookup location =
      some node := by
  induction nodes with
  | nil => cases hsome
  | cons entry rest ih =>
      rw [List.map_cons, List.lookup_cons]
      by_cases hentry : entry.1 = location
      · simp [hentry]
      · have hskip : (location == entry.1) = false := by simpa using Ne.symm hentry
        rw [List.lookup_cons, hskip] at hsome
        simpa [hentry, hskip] using ih hsome

theorem lookup_replace_other {location other : Location} (hother : other ≠ location)
    (nodes : List (Location × FileNode)) (node : FileNode) :
    (nodes.map fun entry => if entry.1 = location then (location, node) else entry).lookup other =
      nodes.lookup other := by
  induction nodes with
  | nil => rfl
  | cons entry rest ih =>
      rw [List.map_cons, List.lookup_cons, List.lookup_cons, ih]
      by_cases hentry : entry.1 = location
      · have hskip : (other == location) = false := by simpa using hother
        simp [hentry, hskip]
      · simp [hentry]

theorem node?_put {tree : FileTree} {location : Location} (hroot : location ≠ [])
    (node : FileNode) (other : Location) :
    (tree.put location node).node? other =
      if other = location then some node else tree.node? other := by
  by_cases hempty : other = []
  · subst hempty
    rw [if_neg hroot.symm]
    rfl
  · have hput : (tree.put location node).nodes.lookup other =
        if other = location then some node else tree.nodes.lookup other := by
      unfold put
      by_cases hother : other = location
      · subst hother
        split
        · next hsome => rw [if_pos rfl, lookup_replace_self hsome]
        · next hnone =>
            rw [Option.not_isSome_iff_eq_none] at hnone
            simp [List.lookup_append, hnone]
      · rw [if_neg hother]
        split
        · exact lookup_replace_other hother tree.nodes node
        · have hskip : (other == location) = false := by simpa using hother
          simp [List.lookup_append, List.lookup_cons, hskip]
    have hbelow : ¬other.isEmpty = true := by simpa using hempty
    simp only [node?, if_neg hbelow, hput]

/-! Directories. -/

def SameDirectories (before after : FileTree) : Prop :=
  after.workingDirectory = before.workingDirectory ∧
    ∀ location, after.isDirectoryAt location = before.isDirectoryAt location

instance : Std.Refl SameDirectories where
  refl _ := ⟨rfl, fun _ => rfl⟩

instance : IsTrans FileTree SameDirectories where
  trans _ _ _ hfirst hsecond :=
    ⟨hsecond.1.trans hfirst.1, fun location => (hsecond.2 location).trans (hfirst.2 location)⟩

instance : Std.Symm SameDirectories where
  symm _ _ hsame := ⟨hsame.1.symm, fun location => (hsame.2 location).symm⟩

theorem step?_of_sameDirectories {before after : FileTree} (hsame : SameDirectories before after)
    {location next : Location} {part : String} (hstep : before.step? location part = some next)
    (hdirectory : before.isDirectoryAt next = true) : after.step? location part = some next := by
  unfold step? at hstep ⊢
  rw [hsame.2]
  by_cases hhere : before.isDirectoryAt location = true
  · simp only [hhere, Bool.not_true, Bool.false_eq_true, if_false] at hstep ⊢
    by_cases hup : part = ".."
    · simpa only [hup, if_true] using hstep
    · simp only [hup, if_false, Option.ite_none_right_eq_some, Option.some.injEq] at hstep ⊢
      obtain ⟨-, rfl⟩ := hstep
      rw [← hsame.2, isDirectoryAt_iff] at hdirectory
      exact ⟨by rw [hdirectory]; rfl, rfl⟩
  · simp [hhere] at hstep

theorem isDirectoryAt_of_step? {tree : FileTree} {location next : Location} {part : String}
    (hstep : tree.step? location part = some next) : tree.isDirectoryAt location = true := by
  unfold step? at hstep
  by_cases hhere : tree.isDirectoryAt location = true
  · exact hhere
  · simp [hhere] at hstep

theorem walk_of_sameDirectories {before after : FileTree} (hsame : SameDirectories before after)
    {parts : List String} {location last : Location}
    (hwalk : parts.foldlM before.step? location = some last)
    (hlast : before.isDirectoryAt last = true) :
    parts.foldlM after.step? location = some last := by
  -- every place on the way is a directory, the last one by assumption
  induction parts generalizing location with
  | nil => exact hwalk
  | cons part rest ih =>
      rw [List.foldlM_cons] at hwalk ⊢
      obtain ⟨next, hstep, hrest⟩ := Option.bind_eq_some_iff.mp hwalk
      have hnext : before.isDirectoryAt next = true := by
        cases rest with
        | nil =>
            cases hrest
            exact hlast
        | cons second others =>
            rw [List.foldlM_cons] at hrest
            obtain ⟨_, hsecond, -⟩ := Option.bind_eq_some_iff.mp hrest
            exact isDirectoryAt_of_step? hsecond
      rw [step?_of_sameDirectories hsame hstep hnext]
      exact ih hrest

/-- The path ends in a name, which stands for a place in a directory that the rest of the path
leads to. -/
def Leads (tree : FileTree) (path : Path) (location : Location) : Prop :=
  ∃ parts part directory, path.parts = parts ++ [part] ∧ part ≠ ".." ∧
    parts.foldlM tree.step? (tree.start path) = some directory ∧
    tree.isDirectoryAt directory = true ∧ location = directory ++ [part]

theorem Leads.of_sameDirectories {before after : FileTree} {path : Path} {location : Location}
    (hleads : before.Leads path location) (hsame : SameDirectories before after) :
    after.Leads path location := by
  obtain ⟨parts, part, directory, hparts, hpart, hwalk, hdirectory, rfl⟩ := hleads
  have hstart : after.start path = before.start path := by
    unfold start
    rw [hsame.1]
  refine ⟨parts, part, directory, hparts, hpart, ?_, (hsame.2 directory).trans hdirectory, rfl⟩
  rw [hstart]
  exact walk_of_sameDirectories hsame hwalk hdirectory

theorem Leads.locate? {tree : FileTree} {path : Path} {location : Location}
    (hleads : tree.Leads path location) :
    tree.locate? path = if (tree.node? location).isSome then some location else none := by
  obtain ⟨parts, part, directory, hparts, hpart, hwalk, hdirectory, rfl⟩ := hleads
  unfold FileTree.locate?
  rw [hparts, List.foldlM_append, hwalk]
  change (tree.step? directory part >>= pure) = _
  simp [step?, hdirectory, hpart]

theorem Leads.find? {tree : FileTree} {path : Path} {location : Location}
    (hleads : tree.Leads path location) : tree.find? path = tree.node? location := by
  unfold FileTree.find?
  rw [hleads.locate?]
  cases hnode : tree.node? location with
  | none => rfl
  | some node => exact hnode

theorem Leads.parent {tree : FileTree} {path : Path} {location : Location}
    (hleads : tree.Leads path location) : tree.isDirectoryAt location.dropLast = true := by
  obtain ⟨parts, part, directory, -, -, -, hdirectory, rfl⟩ := hleads
  simpa using hdirectory

theorem Leads.ne_root {tree : FileTree} {path : Path} {location : Location}
    (hleads : tree.Leads path location) : location ≠ [] := by
  obtain ⟨parts, part, directory, -, -, -, -, rfl⟩ := hleads
  simp

/-- A path whose parent is there leads to a place, unless it stands for a directory itself. -/
theorem leads_of_parent {tree : FileTree} (htree : tree.IsTree) {path : Path}
    {directory : Location} (hlocate : tree.locate? path.parent = some directory)
    (hdirectory : tree.isDirectoryAt directory = true)
    (hfree : tree.find? path ≠ some .directory) :
    tree.Leads path (directory ++ [path.name]) := by
  have hnode := isDirectoryAt_iff.mp hdirectory
  -- without components the path is its own parent, with a double dot it is a directory further up
  rcases List.eq_nil_or_concat path.parts with hparts | ⟨parts, part, hparts⟩
  · have hsame : path.parent = path := by
      cases path
      simp_all [Path.parent]
    rw [hsame] at hlocate
    exact absurd (by simp [find?, hlocate, hnode]) hfree
  · have hwalk : parts.foldlM tree.step? (tree.start path) = some directory := by
      simpa [FileTree.locate?, Path.parent, hparts, start, Path.isAbsolute] using hlocate
    have hname : path.name = part := by simp [Path.name, hparts]
    refine ⟨parts, part, directory, by simpa using hparts, ?_, hwalk, hdirectory, by rw [hname]⟩
    rintro rfl
    have hup : tree.locate? path = some directory.dropLast := by
      simp [FileTree.locate?, hparts, hwalk, step?, hdirectory]
    have hparent := htree directory (by rw [hnode]; rfl)
    exact hfree (by simpa [find?, hup] using isDirectoryAt_iff.mp hparent)

/-! One write. -/

/-- A write puts the text where the path leads to; no directory is there. -/
theorem write_eq_ok {tree after : FileTree} (htree : tree.IsTree) {path : Path} {text : String}
    (hwrite : tree.write path text = .ok after) :
    ∃ location, tree.Leads path location ∧ tree.node? location ≠ some .directory ∧
      after = tree.put location (.file text) := by
  unfold write at hwrite
  split at hwrite
  · cases hwrite
  · cases hwrite
  · cases hwrite
  · next hparent hfree =>
      split at hwrite
      · next directory hlocate =>
          cases hwrite
          have hdirectory : tree.isDirectoryAt directory = true := by
            rw [isDirectoryAt_iff]
            simpa [find?, hlocate] using hparent
          have hleads := leads_of_parent htree hlocate hdirectory hfree
          refine ⟨directory ++ [path.name], hleads, ?_, rfl⟩
          rw [← hleads.find?]
          exact hfree
      · cases hwrite

theorem put_sameDirectories {tree : FileTree} {location : Location} (hroot : location ≠ [])
    (hfree : tree.node? location ≠ some .directory) (text : String) :
    SameDirectories tree (tree.put location (.file text)) := by
  refine ⟨?_, fun other => ?_⟩
  · unfold put
    split <;> rfl
  · unfold isDirectoryAt
    rw [node?_put hroot]
    split
    · next hother =>
        subst hother
        simpa using hfree
    · rfl

theorem put_isTree {tree : FileTree} (htree : tree.IsTree) {location : Location}
    (hroot : location ≠ []) (hfree : tree.node? location ≠ some .directory)
    (hparent : tree.isDirectoryAt location.dropLast = true) (text : String) :
    (tree.put location (.file text)).IsTree := by
  intro other hsome
  rw [(put_sameDirectories hroot hfree text).2]
  rw [node?_put hroot] at hsome
  split at hsome
  · next hother =>
      subst hother
      exact hparent
  · exact htree other hsome

/-- A path that leads to something leads there after a write, too. -/
theorem Leads.put {tree : FileTree} {path : Path} {place location : Location}
    (hleads : tree.Leads path place) (hsome : (tree.node? place).isSome = true)
    (hroot : location ≠ []) (hfree : tree.node? location ≠ some .directory) (text : String) :
    (tree.put location (.file text)).Leads path place ∧
      ((tree.put location (.file text)).node? place).isSome = true ∧
      (tree.put location (.file text)).locate? path = tree.locate? path := by
  have hafter := hleads.of_sameDirectories (put_sameDirectories hroot hfree text)
  have hthere : ((tree.put location (.file text)).node? place).isSome = true := by
    rw [node?_put hroot]
    split
    · rfl
    · exact hsome
  exact ⟨hafter, hthere, by rw [hafter.locate?, hleads.locate?, if_pos hthere, if_pos hsome]⟩

/-! Several writes. -/

def writeAll (tree : FileTree) (entries : List (Path × String)) : Except Failure FileTree :=
  entries.foldlM (fun tree entry => tree.write entry.1 entry.2) tree

/-- The text of the last entry that goes to a place. -/
def lastWritten (tree : FileTree) (entries : List (Path × String)) (place : Option Location) :
    Option String :=
  ((entries.filter fun entry => tree.locate? entry.1 = place).getLast?).map (·.2)

/-- What entries written one after the other leave of a tree. -/
structure Written (tree : FileTree) (entries : List (Path × String)) (after : FileTree) : Prop where
  isTree : after.IsTree
  directories : SameDirectories tree after
  placed : ∀ entry ∈ entries, ∃ location, after.Leads entry.1 location ∧
    (after.node? location).isSome = true
  node? : ∀ location, after.node? location =
    ((after.lastWritten entries (some location)).map FileNode.file).or (tree.node? location)

theorem Written.nil {tree : FileTree} (htree : tree.IsTree) : tree.Written [] tree where
  isTree := htree
  directories := refl_of SameDirectories tree
  placed := by simp
  node? _ := rfl

theorem Written.locate? {tree after : FileTree} {entries : List (Path × String)}
    (hwritten : tree.Written entries after) {entry : Path × String} (hmem : entry ∈ entries) :
    ∃ location, after.Leads entry.1 location ∧ after.locate? entry.1 = some location := by
  obtain ⟨location, hleads, hsome⟩ := hwritten.placed entry hmem
  exact ⟨location, hleads, by rw [hleads.locate?, if_pos hsome]⟩

theorem exists_of_lastWritten {tree : FileTree} {entries : List (Path × String)}
    {place : Option Location} {text : String} (hlast : tree.lastWritten entries place = some text) :
    ∃ entry ∈ entries, tree.locate? entry.1 = place := by
  obtain ⟨entry, hentry, -⟩ := Option.map_eq_some_iff.mp hlast
  obtain ⟨hmem, hplace⟩ := List.mem_filter.mp (List.mem_of_getLast? hentry)
  exact ⟨entry, hmem, of_decide_eq_true hplace⟩

theorem lastWritten_append {tree : FileTree} (entries : List (Path × String))
    (entry : Path × String) (place : Option Location) :
    tree.lastWritten (entries ++ [entry]) place =
      if tree.locate? entry.1 = place then some entry.2 else tree.lastWritten entries place := by
  unfold lastWritten
  rw [List.filter_append, List.getLast?_append]
  by_cases hplace : tree.locate? entry.1 = place
  · simp [hplace]
  · simp [hplace]

theorem lastWritten_congr {before after : FileTree} {entries : List (Path × String)}
    (hsame : ∀ entry ∈ entries, after.locate? entry.1 = before.locate? entry.1)
    (place : Option Location) :
    after.lastWritten entries place = before.lastWritten entries place := by
  unfold lastWritten
  congr 2
  apply List.filter_congr
  intro entry hmem
  rw [hsame entry hmem]

theorem Written.append {tree middle after : FileTree} {entries : List (Path × String)}
    (hwritten : tree.Written entries middle) {path : Path} {text : String}
    (hwrite : middle.write path text = .ok after) :
    tree.Written (entries ++ [(path, text)]) after := by
  obtain ⟨location, hleads, hfree, rfl⟩ := write_eq_ok hwritten.isTree hwrite
  have hroot := hleads.ne_root
  have hsame := put_sameDirectories hroot hfree text
  have hself : ((middle.put location (.file text)).node? location).isSome = true := by
    simp [node?_put hroot]
  have hkept : ∀ entry ∈ entries,
      (middle.put location (.file text)).locate? entry.1 = middle.locate? entry.1 := by
    intro entry hmem
    obtain ⟨place, hentry, hsome⟩ := hwritten.placed entry hmem
    exact (hentry.put hsome hroot hfree text).2.2
  have hnew := hleads.of_sameDirectories hsame
  refine ⟨put_isTree hwritten.isTree hroot hfree hleads.parent text,
    trans_of SameDirectories hwritten.directories hsame, ?_, fun other => ?_⟩
  · intro entry hmem
    rcases List.mem_append.mp hmem with hold | hlast
    · obtain ⟨place, hentry, hsome⟩ := hwritten.placed entry hold
      obtain ⟨hentry, hsome, -⟩ := hentry.put hsome hroot hfree text
      exact ⟨place, hentry, hsome⟩
    · rw [List.mem_singleton.mp hlast]
      exact ⟨location, hnew, hself⟩
  · rw [node?_put hroot, lastWritten_append, lastWritten_congr hkept, hnew.locate?, if_pos hself]
    by_cases hother : other = location
    · simp [hother]
    · rw [if_neg hother, if_neg (by simpa using Ne.symm hother)]
      exact hwritten.node? other

theorem written_of_writeAll {tree after : FileTree} {entries : List (Path × String)}
    (htree : tree.IsTree) (hwrite : tree.writeAll entries = .ok after) :
    tree.Written entries after := by
  -- the last entry decides, so the induction takes entries off the end
  induction entries using List.reverseRecOn generalizing after with
  | nil =>
      cases hwrite
      exact .nil htree
  | append_singleton entries entry ih =>
      unfold writeAll at hwrite
      rw [List.foldlM_append] at hwrite
      obtain ⟨middle, hfirst, hlast⟩ := exists_of_bind_eq_ok hwrite
      obtain ⟨_, hlast, hend⟩ := exists_of_bind_eq_ok hlast
      cases hend
      exact (ih hfirst).append hlast

/-- A path that was written to holds the last text that was written to its place. -/
theorem Written.find? {tree after : FileTree} {entries : List (Path × String)}
    (hwritten : tree.Written entries after) {entry : Path × String} (hmem : entry ∈ entries) :
    ∃ text, after.lastWritten entries (after.locate? entry.1) = some text ∧
      after.find? entry.1 = some (.file text) := by
  obtain ⟨location, hleads, hlocate⟩ := hwritten.locate? hmem
  have hhere : entry ∈ entries.filter fun other => after.locate? other.1 = some location :=
    List.mem_filter.mpr ⟨hmem, by simpa using hlocate⟩
  cases hlast : after.lastWritten entries (some location) with
  | none =>
      simp only [lastWritten, Option.map_eq_none_iff, List.getLast?_eq_none_iff] at hlast
      rw [hlast] at hhere
      cases hhere
  | some text =>
      refine ⟨text, by rw [hlocate, hlast], ?_⟩
      rw [hleads.find?, hwritten.node?, hlast]
      rfl

theorem Written.unchanged_iff {tree after : FileTree} {entries : List (Path × String)}
    (hwritten : tree.Written entries after) :
    (∀ location, after.node? location = tree.node? location) ↔
      ∀ entry ∈ entries, tree.find? entry.1 =
        (after.lastWritten entries (after.locate? entry.1)).map FileNode.file := by
  constructor
  · intro hsame entry hmem
    obtain ⟨location, hleads, -⟩ := hwritten.locate? hmem
    obtain ⟨text, hlast, hfind⟩ := hwritten.find? hmem
    rw [hlast, (hleads.of_sameDirectories (symm_of SameDirectories hwritten.directories)).find?,
      ← hsame, ← hleads.find?, hfind]
    rfl
  · intro hall location
    rw [hwritten.node?]
    cases hlast : after.lastWritten entries (some location) with
    | none => rfl
    | some text =>
        obtain ⟨entry, hmem, hplace⟩ := exists_of_lastWritten hlast
        obtain ⟨found, hleads, hfound⟩ := hwritten.locate? hmem
        have hlocation : found = location := Option.some.inj (hfound.symm.trans hplace)
        have hbefore := hall entry hmem
        rw [hplace, hlast, (hleads.of_sameDirectories
          (symm_of SameDirectories hwritten.directories)).find?, hlocation] at hbefore
        exact hbefore.symm

end FileTree

end ScreenFlow
