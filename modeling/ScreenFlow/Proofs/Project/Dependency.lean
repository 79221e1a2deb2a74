import ScreenFlow.Project.Dependency
import ScreenFlow.Proofs.Project.Path

/-!
References read back.  A reference starts with one or two dots and a slash; behind the directory that
it is seen from, it leads to the file that it was made for, less the extension of a script file.
-/

namespace ScreenFlow

namespace Path

/-- The path with another last component. -/
def renamed (path : Path) (name : String) : Path :=
  { path with parts := path.parts.dropLast ++ [name] }

theorem renamed_concat {root : String} (parts : List String) (name other : String) :
    renamed { root, parts := parts ++ [name] } other = { root, parts := parts ++ [other] } := by
  rw [renamed, List.dropLast_concat]

theorem name_concat {root : String} (parts : List String) (name : String) :
    Path.name { root, parts := parts ++ [name] } = name := by
  rw [Path.name, List.getLast?_concat, Option.getD_some]

end Path

namespace Dependency

open ScreenFlow.Path

/-! Names of script files. -/

/-- The name of a file without the extension of a script file, if it has one behind anything. -/
inductive Bare : String → String → Prop
  | script {stem extension : String} (hextension : extension ∈ scriptExtensions)
      (hstem : stem ≠ "") : Bare (stem ++ extension) stem
  | other {name : String} (hnone : ∀ stem extension, extension ∈ scriptExtensions → stem ≠ "" →
      name ≠ stem ++ extension) : Bare name name

theorem startsWithDot_of_mem_scriptExtensions : ∀ extension ∈ scriptExtensions,
    extension.toList = '.' :: extension.toList.tail ∧ extension.toList.tail ≠ [] ∧
      '.' ∉ extension.toList.tail := by
  decide

theorem splitName_script {stem extension : String} (hextension : extension ∈ scriptExtensions)
    (hstem : stem ≠ "") :
    splitName (stem ++ extension).toList = (stem.toList, extension.toList) := by
  obtain ⟨hdot, hending, hplain⟩ := startsWithDot_of_mem_scriptExtensions extension hextension
  have hfilled : ¬stem.toList.isEmpty = true := by simpa using hstem
  have hcut := Text.cutLast?_append hplain stem.toList
  rw [← hdot] at hcut
  rw [splitName, String.toList_append, hcut]
  dsimp only
  rw [if_neg (by simp [hstem, hending]), ← hdot]

theorem exists_of_hasScriptExtension {path : Path} (hscript : hasScriptExtension path = true) :
    ∃ stem extension, extension ∈ scriptExtensions ∧ stem ≠ "" ∧
      path.name = stem ++ extension := by
  have hsuffix : path.suffix ∈ scriptExtensions := List.contains_iff_mem.mp hscript
  have hfilled : path.suffix ≠ "" := fun hempty =>
    absurd (hempty ▸ hsuffix) (by decide)
  unfold suffix splitName at hsuffix hfilled
  split at hsuffix
  · next stem ending hcut =>
      split at hsuffix
      · next hnone => simp_all
      · next hsome =>
          obtain ⟨hname, -⟩ := Text.of_cutLast?_eq_some hcut
          refine ⟨String.ofList stem, _, hsuffix, ?_, ?_⟩
          · simp_all
          · rw [← String.toList_inj]
            simpa using hname
  · next hnone => simp_all

/-- What a bare name leaves out of a path is what is left out in a reference to it. -/
theorem Bare.withoutExtension_eq {name bare : String} (hbare : Bare name bare) (root : String)
    (parts : List String) :
    withoutExtension { root, parts := parts ++ [name] } = { root, parts := parts ++ [bare] } := by
  unfold withoutExtension
  cases hbare with
  | @script _ extension hextension hstem =>
      have hsplit := splitName_script hextension hstem
      have hscript : hasScriptExtension { root, parts := parts ++ [bare ++ extension] } = true := by
        rw [hasScriptExtension, suffix, name_concat, hsplit, String.ofList_toList]
        exact List.contains_iff_mem.mpr hextension
      rw [if_pos hscript, withoutSuffix, stem, name_concat, hsplit, List.dropLast_concat,
        String.ofList_toList]
  | other hnone =>
      refine if_neg fun hscript => ?_
      obtain ⟨stem, extension, hextension, hstem, hname⟩ := exists_of_hasScriptExtension hscript
      rw [name_concat] at hname
      exact hnone stem extension hextension hstem hname

theorem Bare.isName {name bare : String} (hbare : Bare name bare) (hname : IsName name)
    (htells : ∃ c ∈ bare.toList, c ≠ '.') : IsName bare := by
  obtain ⟨c, hc, hother⟩ := htells
  have hdots {text : String} (htext : ∀ d ∈ text.toList, d = '.') : bare ≠ text := by
    rintro rfl
    exact hother (htext c hc)
  cases hbare with
  | script hextension hstem =>
      refine ⟨hstem, fun hslash => hname.noSlash ?_, hdots (by simp), hdots (by simp)⟩
      rw [String.toList_append]
      exact List.mem_append_left _ hslash
  | other => exact hname

/-! References. -/

theorem startsWith_asReference (relative : Path) :
    startsWith (asReference relative) "./" = true ∨
      startsWith (asReference relative) "../" = true := by
  unfold asReference
  dsimp only
  split
  · next hstart => exact Bool.or_eq_true_iff.mp hstart
  · exact .inl (by simp [startsWith, String.toList_append])

theorem parse_asReference {relative : Path} {parts : List String}
    (hbare : withoutExtension relative = { parts }) (hparts : ∀ part ∈ parts, IsStep part)
    (hne : parts ≠ []) : Path.parse (asReference relative) = { parts } := by
  unfold asReference
  dsimp only
  rw [hbare]
  split
  · exact parse_toText hparts hne
  · exact parse_behind_dot hparts hne

/-- A file that is not on the way to the directory parts from it before its name. -/
theorem commonLength_le_of_not_prefix {directory folders : List String} {name : String}
    (hbelow : ¬(folders ++ [name]) <+: directory) :
    commonLength directory (folders ++ [name]) ≤ folders.length := by
  by_contra hlong
  refine hbelow ?_
  have hcommon := take_commonLength directory (folders ++ [name])
  rw [List.take_of_length_le (i := commonLength directory (folders ++ [name]))
    (l := folders ++ [name]) (by simp; omega)] at hcommon
  rw [← hcommon]
  exact List.take_prefix _ _

/-- The way from a directory to a file, with the bare name in place of the name, leads to the file
under that name. -/
theorem collapse_relativeParts {directory folders : List String} {name bare : String}
    (hdirectory : ∀ part ∈ directory, part ≠ "..") (hfolders : ∀ part ∈ folders, part ≠ "..")
    (hbare : bare ≠ "..") (hbelow : ¬(folders ++ [name]) <+: directory) :
    ∃ steps, relativeParts directory (folders ++ [name]) = steps ++ [name] ∧
      (∀ part ∈ steps, part ∈ folders ∨ part = "..") ∧
      collapse (directory ++ (steps ++ [bare])) = folders ++ [bare] := by
  have hcommon := commonLength_le_of_not_prefix hbelow
  have htake := take_commonLength directory (folders ++ [name])
  have hlength := commonLength_le directory (folders ++ [name])
  generalize hplace : commonLength directory (folders ++ [name]) = common at *
  refine ⟨List.replicate (directory.length - common) ".." ++ folders.drop common, ?_, ?_, ?_⟩
  · rw [relativeParts, hplace, List.drop_append_of_le_length hcommon, List.append_assoc]
  · intro part hpart
    rcases List.mem_append.mp hpart with hback | hname
    · exact .inr (List.eq_of_mem_replicate hback)
    · exact .inl (List.mem_of_mem_drop hname)
  · have hnames : ∀ part ∈ folders.drop common ++ [bare], part ≠ ".." :=
      List.forall_mem_append.mpr ⟨fun part hpart => hfolders part (List.mem_of_mem_drop hpart),
        List.forall_mem_singleton.mpr hbare⟩
    rw [List.append_assoc, collapse_climb hdirectory hlength hnames, htake,
      List.take_append_of_le_length hcommon, ← List.append_assoc, List.take_append_drop]

/-- A reference from a directory to a file that is not on the way to it starts with one or two dots
and a slash.  Joined to the directory and normalised, it gives the file, without the extension of a
script file if it has one.  A reference tells nothing of the root, which is the directory's; the two
differ only where one of the paths has two slashes in front. -/
theorem reference_leads_to_target {directory target : Path} {bare : String}
    (hdirectory : directory.IsNormal) (htarget : target.IsNormal)
    (hbelow : ¬target.parts <+: directory.parts) (hbare : Bare target.name bare)
    (htells : ∃ c ∈ bare.toList, c ≠ '.') (workingDirectory : Path) :
    (startsWith (reference workingDirectory directory target) "./" = true ∨
        startsWith (reference workingDirectory directory target) "../" = true) ∧
      (directory.child (reference workingDirectory directory target)).normalize workingDirectory =
        { target.renamed bare with root := directory.root } := by
  refine ⟨startsWith_asReference _, ?_⟩
  obtain ⟨root, parts⟩ := target
  obtain ⟨folders, name, rfl⟩ : ∃ folders name, parts = folders ++ [name] := by
    rcases List.eq_nil_or_concat parts with rfl | ⟨folders, name, rfl⟩
    · exact absurd List.nil_prefix hbelow
    · exact ⟨folders, name, List.concat_eq_append⟩
  obtain ⟨hfolders, hname⟩ := List.forall_mem_append.mp htarget.names
  rw [name_concat] at hbare
  have hbareName := hbare.isName (hname name (List.mem_singleton_self _)) htells
  obtain ⟨steps, hrelative, hsteps, hcollapse⟩ := collapse_relativeParts
    (fun part hpart => (hdirectory.names part hpart).ne_dots)
    (fun part hpart => (hfolders part hpart).ne_dots) hbareName.ne_dots hbelow
  have hparts : ∀ part ∈ steps ++ [bare], IsStep part :=
    List.forall_mem_append.mpr
      ⟨fun part hpart => (hsteps part hpart).imp_left (hfolders part),
        List.forall_mem_singleton.mpr (.inl hbareName)⟩
  have hparse : Path.parse (reference workingDirectory directory
      { root, parts := folders ++ [name] }) = { parts := steps ++ [bare] } := by
    rw [reference, normalize_of_isNormal hdirectory, normalize_of_isNormal htarget, hrelative]
    exact parse_asReference (hbare.withoutExtension_eq "" steps) hparts (by simp)
  rw [renamed_concat, child, hparse, join, if_neg (by simp [isAbsolute])]
  have habsolute :
      ({ directory with parts := directory.parts ++ (steps ++ [bare]) } : Path).isAbsolute =
        true := hdirectory.absolute
  rw [Path.normalize, join, if_pos habsolute, hcollapse]

/-- A screen seen from the tests next to it. -/
theorem reference_leads_to_screen :
    ((Path.absolute ["p", "implications"]).child (reference (.absolute [])
        (.absolute ["p", "implications"]) (.absolute ["p", "screens", "A.screen.ts"]))).normalize
      (.absolute []) = .absolute ["p", "screens", "A.screen"] :=
  have hdirectory : (Path.absolute ["p", "implications"]).IsNormal := by decide
  have htarget : (Path.absolute ["p", "screens", "A.screen.ts"]).IsNormal := by decide
  have hbare : Bare ("A.screen" ++ ".ts") "A.screen" := .script (by decide) (by decide)
  (reference_leads_to_target hdirectory htarget (by decide) hbare ⟨'A', by decide, by decide⟩
    (.absolute [])).2

end Dependency

end ScreenFlow
