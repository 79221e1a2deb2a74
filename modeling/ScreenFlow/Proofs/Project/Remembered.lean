import ScreenFlow.Proofs.Project.Lookup
import Mathlib.Data.List.DropRight

/-!
Units over time.  Between two loads files change, units are loaded and units are forgotten; what a
load then gives is the unit that was built by the first load that went well since the unit was last
forgotten, whatever has been done to the files meanwhile, and whatever has been done about other
units.
-/

namespace ScreenFlow

open Effect

theorem lookup_filter_ne {κ ν : Type} [BEq κ] [LawfulBEq κ] (entries : List (κ × ν))
    (key wanted : κ) :
    (entries.filter fun entry => entry.1 != key).lookup wanted =
      if wanted == key then none else entries.lookup wanted := by
  induction entries with
  | nil => simp
  | cons entry rest ih =>
      obtain ⟨k, v⟩ := entry
      by_cases hkey : k = key
      · subst hkey
        rw [List.filter_cons_of_neg (by simp), ih, List.lookup_cons]
        cases wanted == k <;> rfl
      · rw [List.filter_cons_of_pos (by simpa using hkey), List.lookup_cons, ih, List.lookup_cons]
        cases hwanted : wanted == k with
        | false => rfl
        | true => rw [eq_of_beq hwanted, beq_false_of_ne hkey]; rfl

namespace Session

/-- What may happen while a session lasts: a unit is asked for, one unit or every unit is forgotten,
or the files become others. -/
inductive Happening where
  | load (path : Path)
  | forget (path : Option Path)
  | edit (nodes : List (Location × FileNode))

namespace Happening

def after (session : Session) : Happening → Session
  | load path => ((unit path).run.run session).2
  | forget path => session.forget path
  | edit nodes => { session with files := { session.files with nodes } }

def edited (files : FileTree) : Happening → FileTree
  | edit nodes => { files with nodes }
  | _ => files

end Happening

def later (session : Session) (history : List Happening) : Session :=
  history.foldl Happening.after session

/-- Each happening with the files that it meets. -/
def moments (files : FileTree) : List Happening → List (FileTree × Happening)
  | [] => []
  | happening :: rest => (files, happening) :: moments (happening.edited files) rest

/-- The unit of the path is forgotten, alone or with all others. -/
def forgets (path : Path) : FileTree × Happening → Bool
  | (_, .forget none) => true
  | (files, .forget (some other)) => files.resolve path == files.resolve other
  | _ => false

/-- What a load of the path builds from the files as they are. -/
def built? (marker : String) (path : Path) : FileTree × Happening → Option StateUnit
  | (files, .load other) =>
      if files.resolve path == files.resolve other then
        (freshUnit files marker (files.resolve path)).toOption
      else none
  | _ => none

/-- What the first load that went well has built, since the unit was last forgotten. -/
def firstBuilt? (marker : String) (path : Path) (moments : List (FileTree × Happening)) :
    Option StateUnit :=
  (moments.rtakeWhile fun moment => !forgets path moment).findSome? (built? marker path)

/-! One step. -/

def remembered? (session : Session) (path : Path) : Option StateUnit :=
  session.units.lookup (session.files.resolve path)

theorem known_eq (session : Session) (path : Path) :
    session.known path = ((session.remembered? path).map .ok).getD (session.unitNow path) := by
  unfold known remembered?
  cases session.units.lookup (session.files.resolve path) <;> rfl

theorem after_load (session : Session) (path : Path) :
    Happening.after session (.load path) =
      match session.remembered? path,
        freshUnit session.files session.marker (session.files.resolve path) with
      | none, .ok found =>
          { session with units := (session.files.resolve path, found) :: session.units }
      | _, _ => session := by
  change ((unit path).run.run session).2 = _
  unfold unit remembered?
  rw [run_bind, run_get]
  dsimp only
  cases session.units.lookup (session.files.resolve path) with
  | some known => rfl
  | none =>
      cases freshUnit session.files session.marker (session.files.resolve path) <;> rfl

theorem after_files (session : Session) (happening : Happening) :
    (happening.after session).files = happening.edited session.files := by
  cases happening with
  | load path => exact (unit_keeps path session).project.files
  | forget path => cases path <;> rfl
  | edit nodes => rfl

theorem after_marker (session : Session) (happening : Happening) :
    (happening.after session).marker = session.marker := by
  cases happening with
  | load path => exact (unit_keeps path session).project.marker
  | forget path => cases path <;> rfl
  | edit nodes => rfl

theorem resolve_edited (files : FileTree) (happening : Happening) (path : Path) :
    (happening.edited files).resolve path = files.resolve path := by
  cases happening <;> rfl

theorem remembered?_after (session : Session) (happening : Happening) (path : Path) :
    (happening.after session).remembered? path =
      if forgets path (session.files, happening) then none
      else (session.remembered? path).or
        (built? session.marker path (session.files, happening)) := by
  have hfiles := after_files session happening
  unfold remembered?
  rw [hfiles, resolve_edited]
  cases happening with
  | edit nodes => exact (Option.or_none).symm
  | forget target =>
      cases target with
      | none => rfl
      | some other =>
          change (session.units.filter _).lookup _ = _
          rw [lookup_filter_ne]
          unfold forgets built?
          dsimp only
          rw [Option.or_none]
  | load other =>
      rw [after_load]
      unfold forgets built? remembered?
      dsimp only
      cases hsame : session.files.resolve path == session.files.resolve other with
      | true =>
          rw [← eq_of_beq hsame]
          cases hlookup : session.units.lookup (session.files.resolve path) with
          | some known => exact hlookup
          | none =>
              cases freshUnit session.files session.marker (session.files.resolve path) with
              | error failure => exact hlookup
              | ok found => exact List.lookup_cons_self
      | false =>
          cases session.units.lookup (session.files.resolve other) with
          | some known => simp
          | none =>
              cases freshUnit session.files session.marker (session.files.resolve other) with
              | error failure => simp
              | ok found => simp [List.lookup_cons, hsame]

/-! Histories. -/

theorem later_concat (session : Session) (history : List Happening) (last : Happening) :
    session.later (history ++ [last]) = last.after (session.later history) := by
  unfold later
  rw [List.foldl_append]
  rfl

theorem moments_concat (session : Session) (history : List Happening) (last : Happening) :
    moments session.files (history ++ [last]) =
      moments session.files history ++ [((session.later history).files, last)] := by
  induction history generalizing session with
  | nil => rfl
  | cons first rest ih =>
      change _ :: moments (first.edited session.files) (rest ++ [last]) =
        _ :: (moments (first.edited session.files) rest ++ _)
      rw [← after_files, ih]
      rfl

theorem later_marker (session : Session) (history : List Happening) :
    (session.later history).marker = session.marker := by
  induction history generalizing session with
  | nil => rfl
  | cons first rest ih => exact (ih (first.after session)).trans (after_marker session first)

theorem firstBuilt?_concat (marker : String) (path : Path) (moments : List (FileTree × Happening))
    (last : FileTree × Happening) :
    firstBuilt? marker path (moments ++ [last]) =
      if forgets path last then none
      else (firstBuilt? marker path moments).or (built? marker path last) := by
  unfold firstBuilt?
  rw [List.rtakeWhile_concat]
  cases forgets path last with
  | true => rfl
  | false =>
      change List.findSome? _ (List.rtakeWhile _ _ ++ [last]) = _
      rw [List.findSome?_append, List.findSome?_singleton]
      rfl

/-- What is remembered of a unit is what the first load since it was last forgotten has built. -/
theorem remembered?_later (files : FileTree) (marker : String) (history : List Happening)
    (path : Path) :
    (later { files, marker } history).remembered? path =
      firstBuilt? marker path (moments files history) := by
  -- From the end: whether the last happening forgets the unit decides over all that was before.
  induction history using List.reverseRecOn with
  | nil => rfl
  | append_singleton earlier last ih =>
      have hmoments := moments_concat { files, marker } earlier last
      dsimp only at hmoments
      rw [later_concat, remembered?_after, ih, later_marker, hmoments, firstBuilt?_concat]

/-! One path beside another. -/

/-- The sessions give the same unit for the path, now and after the same happenings. -/
structure SameFor (path : Path) (first second : Session) : Prop where
  files : second.files = first.files
  marker : second.marker = first.marker
  remembered : second.remembered? path = first.remembered? path

theorem SameFor.after {path : Path} {first second : Session} (hsame : SameFor path first second)
    (happening : Happening) : SameFor path (happening.after first) (happening.after second) where
  files := by rw [after_files, after_files, hsame.files]
  marker := by rw [after_marker, after_marker, hsame.marker]
  remembered := by
    rw [remembered?_after, remembered?_after, hsame.files, hsame.marker, hsame.remembered]

theorem SameFor.later {path : Path} {first second : Session} (hsame : SameFor path first second)
    (history : List Happening) : SameFor path (first.later history) (second.later history) := by
  induction history generalizing first second with
  | nil => exact hsame
  | cons happening rest ih => exact ih (hsame.after happening)

theorem SameFor.known {path : Path} {first second : Session} (hsame : SameFor path first second) :
    second.known path = first.known path := by
  rw [known_eq, known_eq, hsame.remembered,
    SameProject.unitNow ⟨hsame.files, hsame.marker⟩]

def Happening.target? : Happening → Option Path
  | load path => some path
  | forget path => path
  | edit _ => none

theorem sameFor_after_other {session : Session} {path other : Path} {happening : Happening}
    (htarget : happening.target? = some other)
    (hother : session.files.resolve other ≠ session.files.resolve path) :
    SameFor path (happening.after session) session := by
  have hne : (session.files.resolve path == session.files.resolve other) = false :=
    beq_false_of_ne hother.symm
  refine ⟨?_, (after_marker session happening).symm, ?_⟩
  · rw [after_files]
    cases happening with
    | edit nodes => cases htarget
    | _ => rfl
  · rw [remembered?_after]
    cases happening with
    | edit nodes => cases htarget
    | load target =>
        cases htarget
        simp [forgets, built?, hne]
    | forget target =>
        cases htarget
        simp [forgets, built?, hne]

theorem run_unit_of_error {session : Session} {path : Path} {failure : Failure}
    (hrun : ((unit path).run.run session).1 = .error failure) :
    ((unit path).run.run session).2 = session := by
  rw [run_unit_eq_known, known_eq] at hrun
  have hafter := after_load session path
  change ((unit path).run.run session).2 = _ at hafter
  rw [hafter]
  unfold unitNow at hrun
  cases hremembered : session.remembered? path with
  | some known => rfl
  | none =>
      rw [hremembered] at hrun
      cases hfresh : freshUnit session.files session.marker (session.files.resolve path) with
      | error cause => rfl
      | ok found =>
          rw [hfresh] at hrun
          cases hrun

/-- After any history, a load gives what the first load since the unit was last forgotten has built,
or else what is there now; when it fails nothing changes; and what is done about other paths makes no
difference to later loads. -/
theorem unit_after_history (files : FileTree) (marker : String) (history : List Happening)
    (path : Path) :
    let session := later { files, marker } history
    ((unit path).run.run session).1 =
        ((firstBuilt? marker path (moments files history)).map .ok).getD
          (session.unitNow path) ∧
      (∀ failure, ((unit path).run.run session).1 = .error failure →
        ((unit path).run.run session).2 = session) ∧
      ∀ happening other, Happening.target? happening = some other →
        session.files.resolve other ≠ session.files.resolve path → ∀ future,
          ((unit path).run.run (session.later (happening :: future))).1 =
            ((unit path).run.run (session.later future)).1 := by
  refine ⟨?_, fun _ hfailure => run_unit_of_error hfailure, ?_⟩
  · rw [run_unit_eq_known, known_eq, remembered?_later]
  · intro happening other htarget hother future
    rw [run_unit_eq_known, run_unit_eq_known]
    exact ((sameFor_after_other htarget hother).later future).known.symm

def statusFile (status : String) : FileNode :=
  .file (Json.text (.map [(.name "meta", .map [(.name "status", .text status)])]) none)

/-- A unit is asked for before it is there, is written, loaded, and written anew. -/
def rewritten : List Happening := [
  .load (.parse "u.json"),
  .edit [(["u.json"], statusFile "draft")],
  .load (.parse "u.json"),
  .edit [(["u.json"], statusFile "paid")]]

theorem rewritten_firstBuilt? :
    (firstBuilt? "tests" (.parse "u.json") (moments {} rewritten)).map (·.graph.rootStatus) =
      some (some "draft") := by
  decide +kernel

theorem rewritten_missing :
    (((firstBuilt? "tests" (.parse "v.json") (moments {} rewritten)).map .ok).getD
        ((later { files := {} } rewritten).unitNow (.parse "v.json"))).isOk = false := by
  decide +kernel

/-- The unit is given as it was first written; a unit that is not there changes nothing when it is
asked for, and makes no difference when it is forgotten. -/
theorem rewritten_unit :
    let session := later { files := {} } rewritten
    (∃ built, ((unit (.parse "u.json")).run.run session).1 = .ok built ∧
        built.graph.rootStatus = some "draft") ∧
      (∃ failure, ((unit (.parse "v.json")).run.run session).1 = .error failure ∧
        ((unit (.parse "v.json")).run.run session).2 = session) ∧
      (session.files.resolve (.parse "v.json") ≠ session.files.resolve (.parse "u.json") ∧
        ((unit (.parse "u.json")).run.run
            (session.later [.forget (some (.parse "v.json"))])).1 =
          ((unit (.parse "u.json")).run.run (session.later [])).1) := by
  obtain ⟨hfirst, -, hothers⟩ := unit_after_history {} "tests" rewritten (.parse "u.json")
  obtain ⟨hmissing, hfails, -⟩ := unit_after_history {} "tests" rewritten (.parse "v.json")
  refine ⟨?_, ?_, ?_⟩
  · obtain ⟨built, hbuilt, hstatus⟩ := Option.map_eq_some_iff.mp rewritten_firstBuilt?
    rw [hbuilt] at hfirst
    exact ⟨built, hfirst, hstatus⟩
  · have hnone := rewritten_missing
    rw [← hmissing] at hnone
    cases hresult : ((unit (.parse "v.json")).run.run (later { files := {} } rewritten)).1 with
    | ok found =>
        rw [hresult] at hnone
        cases hnone
    | error failure => exact ⟨failure, rfl, hfails failure hresult⟩
  · have hother : (later { files := {} } rewritten).files.resolve (.parse "v.json") ≠
        (later { files := {} } rewritten).files.resolve (.parse "u.json") := by
      decide +kernel
    exact ⟨hother, hothers _ _ rfl hother []⟩

end Session

end ScreenFlow
