import ScreenFlow.Project.Incoming
import ScreenFlow.Proofs.Project.Session

/-!
Looking for the unit that defines a state, and for the edge that a unit declares.  Whatever units are
loaded on the way, the search is reading in every sense in which loading one unit is.  What it finds
depends on the units that the session gives, those it remembers before those that are there now.
-/

namespace ScreenFlow

open Effect

variable {α : Type}

/-! The search, in any sense of reading. -/

section

variable {K E : Session → Session → Prop} [Std.Refl K]

namespace Work

theorem ofExcept_reads (result : Except Failure α) : Reads K E (ofExcept result) := by
  cases result with
  | ok a => exact .pure a
  | error failure => exact .throw failure

omit [Std.Refl K] in
theorem outcome_reads {work : Work α} (hwork : Reads K E work) : Reads K E (outcome work) where
  keeps := hwork.keeps
  steady first second halike := (hwork.steady first second halike).imp (congrArg Except.ok) id

variable [IsTrans Session K]

theorem attempt_reads {work : Work α} (hwork : Reads K E work) : Reads K E work.attempt := by
  refine (outcome_reads hwork).bind fun result => ?_
  cases result with
  | ok a => exact .pure (some a)
  | error failure =>
      change Reads K E (if failure.isReported then _ else _)
      split
      · exact .pure none
      · exact .throw failure

end Work

theorem Compilation.ofExcept_reads {K E : Desk → Desk → Prop} [Std.Refl K]
    (result : Except Failure α) : Reads K E (ofExcept result) := by
  cases result with
  | ok a => exact .pure a
  | error failure => exact .throw failure

variable [IsTrans Session K]

theorem Locator.scan_reads (hunit : ∀ path, Reads K E (Session.unit path)) (status : String)
    (paths : List Path) : Reads K E (scan status paths) := by
  induction paths with
  | nil => exact .pure none
  | cons path rest ih =>
      refine (Work.attempt_reads (hunit path)).bind fun found => ?_
      split
      · split
        · exact .pure _
        · exact ih
      · exact ih

theorem Locator.locate_reads (hunit : ∀ path, Reads K E (Session.unit path))
    (hfiles : ∀ first second, E first second → first.files = second.files) (locator : Locator)
    (status : String) : Reads K E (locator.locate status) := by
  refine .get_bind (fun session => ?_) fun first second halike => by
    simp only [hfiles first second halike]
  dsimp only
  -- registered or not, the rest of the search is the same
  split
  on_goal 1 => refine .bind (Work.ofExcept_reads _) fun registered => ?_
  on_goal 2 => refine .bind (.pure none) fun registered => ?_
  all_goals
    split
    · exact .pure _
    · refine .bind (Work.ofExcept_reads _) fun found => ?_
      split
      · exact .pure _
      · exact .bind (Work.ofExcept_reads _) fun _ => scan_reads hunit status _

theorem Incoming.firstDeclaring_reads {load : Path → Work StateUnit}
    (hload : ∀ path, Reads K E (load path)) (state event : String) (paths : List Path) :
    Reads K E (firstDeclaring load state event paths) := by
  induction paths with
  | nil => exact .pure none
  | cons path rest ih =>
      refine (Work.attempt_reads (hload path)).bind fun found => ?_
      split
      · exact .pure _
      · exact ih

end

/-! The units that a session gives. -/

namespace Session

/-- The same units are given for the same project, whichever of them are remembered. -/
structure SameUnits (before after : Session) : Prop where
  project : before.SameProject after
  known : ∀ path, after.known path = before.known path

instance : Std.Refl SameUnits where
  refl _ := ⟨⟨rfl, rfl⟩, fun _ => rfl⟩

instance : IsTrans Session SameUnits where
  trans _ _ _ hfirst hsecond :=
    ⟨⟨hsecond.project.files.trans hfirst.project.files,
        hsecond.project.marker.trans hfirst.project.marker⟩,
      fun path => (hsecond.known path).trans (hfirst.known path)⟩

theorem SameUnits.symm {first second : Session} (hsame : first.SameUnits second) :
    second.SameUnits first :=
  ⟨⟨hsame.project.files.symm, hsame.project.marker.symm⟩, fun path => (hsame.known path).symm⟩

/-- A unit that was not remembered is given as before once it is. -/
theorem sameUnits_remember {session : Session} {path : Path} {found : StateUnit}
    (hlookup : session.units.lookup (session.files.resolve path) = none)
    (hfresh : freshUnit session.files session.marker (session.files.resolve path) = .ok found) :
    session.SameUnits
      { session with units := (session.files.resolve path, found) :: session.units } where
  project := ⟨rfl, rfl⟩
  known other := by
    unfold known unitNow
    dsimp only
    by_cases hother : session.files.resolve other = session.files.resolve path
    · rw [hother, hlookup, hfresh, List.lookup_cons_self]
      rfl
    · rw [List.lookup_cons, beq_false_of_ne hother]

theorem unit_reads (path : Path) : Reads SameUnits SameUnits (unit path) := by
  have hmoves : Moves SameUnits (unit path) := by
    intro session
    unfold unit
    rw [run_bind, run_get]
    dsimp only
    cases hlookup : session.units.lookup (session.files.resolve path) with
    | some unit => exact refl_of SameUnits session
    | none =>
        cases hfresh : freshUnit session.files session.marker (session.files.resolve path) with
        | error failure => exact refl_of SameUnits session
        | ok found => exact sameUnits_remember hlookup hfresh
  refine ⟨hmoves, fun first second hsame => ⟨?_, ?_⟩⟩
  · rw [run_unit_eq_known, run_unit_eq_known, hsame.known]
  · exact trans_of SameUnits (hmoves first).symm (trans_of SameUnits hsame (hmoves second))

end Session

end ScreenFlow
