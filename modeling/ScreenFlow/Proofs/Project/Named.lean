import ScreenFlow.Proofs.Project.IndexEntry
import ScreenFlow.Proofs.Project.Remembered
import ScreenFlow.Proofs.ReadsOnly

/-!
A transition that the caller names.  The units that may declare it are read as they are now; which
of the units those are, beside the compiled one, is looked up among the units as they are
remembered.
-/

namespace ScreenFlow

open Effect

theorem Work.run_ofExcept {α : Type} (result : Except Failure α) (session : Session) :
    (Work.ofExcept result).run.run session = (result, session) := by
  cases result <;> rfl

/-- Work that fails in a reported way counts as having given nothing. -/
theorem Work.run_attempt {α : Type} (work : Work α) (session : Session)
    (hreported : ∀ failure, (work.run.run session).1 = .error failure →
      failure.isReported = true) :
    work.attempt.run.run session =
      (.ok (work.run.run session).1.toOption, (work.run.run session).2) := by
  have houtcome : (Work.outcome work).run.run session =
      (.ok (work.run.run session).1, (work.run.run session).2) := rfl
  unfold Work.attempt
  rw [run_bind, houtcome]
  cases hresult : (work.run.run session).1 with
  | ok a => rfl
  | error failure =>
      dsimp only
      rw [if_pos (hreported failure hresult)]
      rfl

namespace Session

instance : Std.Refl SameProject where
  refl _ := ⟨rfl, rfl⟩

instance : IsTrans Session SameProject where
  trans _ _ _ hfirst hsecond :=
    ⟨hsecond.files.trans hfirst.files, hsecond.marker.trans hfirst.marker⟩

theorem isReported_of_unitNow {session : Session} {path : Path} {failure : Failure}
    (hunit : session.unitNow path = .error failure) : failure.isReported = true := by
  unfold unitNow at hunit
  cases hfresh : freshUnit session.files session.marker (session.files.resolve path) with
  | ok found =>
      rw [hfresh] at hunit
      cases hunit
  | error cause =>
      rw [hfresh] at hunit
      cases hunit
      rfl

theorem isReported_of_known {session : Session} {path : Path} {failure : Failure}
    (hunit : session.known path = .error failure) : failure.isReported = true := by
  rw [known_eq] at hunit
  cases hremembered : session.remembered? path with
  | some known =>
      rw [hremembered] at hunit
      cases hunit
  | none =>
      rw [hremembered] at hunit
      exact isReported_of_unitNow hunit

/-- A unit that is loaded anew is given as it is now, whatever is remembered of it. -/
theorem run_reload_eq_unitNow (session : Session) (path : Path) :
    ((reload path).run.run session).1 = session.unitNow path := by
  have hforgotten := remembered?_after session (.forget (some path)) path
  rw [if_pos (by simp [forgets])] at hforgotten
  change ((unit path).run.run (session.forget (some path))).1 = _
  rw [run_unit_eq_known, known_eq]
  change ((((session.forget (some path)).remembered? path).map Except.ok).getD
    (session.unitNow path)) = _
  rw [show (session.forget (some path)).remembered? path = none from hforgotten]
  rfl

theorem reload_sameProject (path : Path) : Moves SameProject (reload path) :=
  fun session => ((reload_readsOnly path).keeps session).project

/-- Loading a unit gives what the session shows of it, and changes nothing that it shows. -/
structure Shows (view : Session → Path → Except Failure StateUnit)
    (load : Path → Work StateUnit) : Prop where
  gives : ∀ session path, ((load path).run.run session).1 = view session path
  reported : ∀ {session path failure}, view session path = .error failure →
    failure.isReported = true
  steady : ∀ session path, view ((load path).run.run session).2 = view session

theorem unit_shows : Shows known unit where
  gives := run_unit_eq_known
  reported := isReported_of_known
  steady session path := funext ((unit_reads path).keeps session).known

theorem reload_shows : Shows unitNow reload where
  gives := run_reload_eq_unitNow
  reported := isReported_of_unitNow
  steady session path := funext (reload_sameProject path session).unitNow

end Session

/-! Where a status is looked for. -/

namespace Locator

def tells (session : Session) (status : String) (path : Path) : Bool :=
  (session.known path).toOption.any fun unit => declares unit.graph status

def registered (locator : Locator) (files : FileTree) (status : String) :
    Except Failure (Option Path) :=
  match (locator.registry.unitOf? status).filter (· != "") with
  | some name => locator.byName files name
  | none => .ok none

/-- The file that a status leads to in a session: the registered one, else that of its conventional
name, else the first whose unit declares it. -/
def located (locator : Locator) (session : Session) (status : String) :
    Except Failure (Option Path) := do
  match ← locator.registered session.files status with
  | some path => return some path
  | none =>
      match ← locator.byName session.files (conventionalName status) with
      | some path => return some path
      | none => return (← locator.candidates session.files).find? (tells session status)

theorem run_scan (session : Session) (status : String) (paths : List Path) :
    ((scan status paths).run.run session).1 = .ok (paths.find? (tells session status)) := by
  induction paths generalizing session with
  | nil => rfl
  | cons path rest ih =>
      -- The first unit may be remembered now; what the session gives for the others is the same.
      have hattempt := Work.run_attempt (Session.unit path) session
        fun failure hfailure => Session.isReported_of_known
          ((session.run_unit_eq_known path).symm.trans hfailure)
      have hsame := (Session.unit_reads path).keeps session
      have htells : tells ((Session.unit path).run.run session).2 status =
          tells session status := by
        funext other
        unfold tells
        rw [hsame.known]
      have hrest := ih ((Session.unit path).run.run session).2
      unfold scan
      rw [run_bind, hattempt]
      dsimp only
      rw [session.run_unit_eq_known path, List.find?_cons]
      unfold tells
      cases session.known path with
      | error failure => exact hrest.trans (by rw [htells]; rfl)
      | ok found =>
          change ((if declares found.graph status then pure (some path)
            else scan status rest : Work (Option Path)).run.run _).1 = _
          cases hdeclares : declares found.graph status with
          | true =>
              simp only [Except.toOption, Option.any_some, hdeclares]
              rfl
          | false =>
              simp only [Except.toOption, Option.any_some, hdeclares]
              exact hrest.trans (by rw [htells]; rfl)

theorem candidates_of_found {locator : Locator} {files : FileTree} {python json : List Path}
    (hunits : files.isDirectory locator.unitsDir = true)
    (hpython : (Glob.parseDeep ("*" ++ ".py")).toOption.map (·.paths files locator.unitsDir) =
      some python)
    (hjson : (Glob.parseDeep ("*" ++ ".json")).toOption.map (·.paths files locator.unitsDir) =
      some json) :
    locator.candidates files = .ok (Path.sort ((python ++ json).filter (!isHidden ·))) := by
  unfold candidates suffixes
  cases hpy : Glob.parseDeep ("*" ++ ".py") with
  | error failure =>
      rw [hpy] at hpython
      cases hpython
  | ok first =>
      cases hjs : Glob.parseDeep ("*" ++ ".json") with
      | error failure =>
          rw [hjs] at hjson
          cases hjson
      | ok second =>
          rw [hpy] at hpython
          rw [hjs] at hjson
          cases hpython
          cases hjson
          simp only [List.mapM_cons, List.mapM_nil, hpy, hjs, hunits]
          change Except.ok _ = _
          simp

theorem locate_eq (locator : Locator) (status : String) :
    locator.locate status = (do
      let files := (← get).files
      match ← Work.ofExcept (locator.registered files status) with
      | some path => return some path
      | none =>
          match ← Work.ofExcept (locator.byName files (conventionalName status)) with
          | some path => return some path
          | none => scan status (← Work.ofExcept (locator.candidates files))) := by
  unfold locate registered
  cases (locator.registry.unitOf? status).filter (· != "") <;> rfl

theorem run_locate (locator : Locator) (session : Session) (status : String) :
    ((locator.locate status).run.run session).1 = locator.located session status := by
  rw [locate_eq, run_bind, run_get]
  unfold located
  dsimp only
  rw [run_bind, Work.run_ofExcept]
  cases locator.registered session.files status with
  | error failure => rfl
  | ok known =>
      cases known with
      | some path => rfl
      | none =>
          dsimp only
          rw [run_bind, Work.run_ofExcept]
          cases locator.byName session.files (conventionalName status) with
          | error failure => rfl
          | ok found =>
              cases found with
              | some path => rfl
              | none =>
                  dsimp only
                  rw [run_bind, Work.run_ofExcept]
                  cases locator.candidates session.files with
                  | error failure => rfl
                  | ok paths => exact run_scan session status paths

end Locator

namespace Incoming

/-! The first unit that declares an edge, among units that are shown in one way or another. -/

/-- The first of the files whose unit, as it is shown, declares the edge, and what it declares. -/
def firstShown? (view : Path → Except Failure StateUnit) (state event : String)
    (paths : List Path) : Option (Path × Edge) :=
  paths.findSome? fun path =>
    ((view path).toOption.bind fun unit => declared? unit.graph state event).map (path, ·)

theorem run_firstDeclaring {view : Session → Path → Except Failure StateUnit}
    {load : Path → Work StateUnit} (hshows : Session.Shows view load) (session : Session)
    (state event : String) (paths : List Path) :
    ((firstDeclaring load state event paths).run.run session).1 =
      .ok (firstShown? (view session) state event paths) := by
  induction paths generalizing session with
  | nil => rfl
  | cons path rest ih =>
      have hattempt := Work.run_attempt (load path) session
        fun failure hfailure => hshows.reported ((hshows.gives session path).symm.trans hfailure)
      have hrest := ih ((load path).run.run session).2
      rw [hshows.steady] at hrest
      unfold firstShown? at hrest ⊢
      unfold firstDeclaring
      rw [run_bind, hattempt]
      dsimp only
      rw [hshows.gives, List.findSome?_cons]
      cases (view session path).toOption.bind fun unit => declared? unit.graph state event with
      | some edge => rfl
      | none => exact hrest

/-! The units that may declare the edge, as they are now. -/

def declaredNow? (session : Session) (named : NamedTransition) (path : Path) : Option Edge :=
  (session.unitNow path).toOption.bind fun unit =>
    declared? unit.graph named.fromState named.event

/-- The first of the files whose unit declares the transition now, and what it declares. -/
def firstNow? (session : Session) (named : NamedTransition) (paths : List Path) :
    Option (Path × Edge) :=
  paths.findSome? fun path => (declaredNow? session named path).map (path, ·)

def ownFile (task : Assignment) (state : String) : List Path :=
  if (task.unit.graph.recordIn state).isSome then [task.unit.path] else []

/-- The file that the state leads to, unless it is that of the compiled unit. -/
def otherFile? (task : Assignment) (files : FileTree) (found : Option Path) : Option Path :=
  found.filter fun path => files.resolve path != files.resolve task.unit.path

/-- The transition that was found, else its two ends alone. -/
def resolved (named : NamedTransition) (target : String) : Option (Path × Edge) → Transition
  | some (path, edge) => .ofEdge named.event named.fromState edge (some path.toText)
  | none => { event := named.event, fromState := named.fromState, toState := target }

theorem declaredNow?_of_sameProject {first second : Session} (hsame : first.SameProject second)
    (named : NamedTransition) : declaredNow? second named = declaredNow? first named := by
  funext path
  unfold declaredNow?
  rw [hsame.unitNow]

theorem firstNow?_of_sameProject {first second : Session} (hsame : first.SameProject second)
    (named : NamedTransition) : firstNow? second named = firstNow? first named := by
  funext paths
  unfold firstNow?
  rw [declaredNow?_of_sameProject hsame]

theorem run_firstDeclaring_reload (session : Session) (named : NamedTransition)
    (paths : List Path) :
    ((firstDeclaring Session.reload named.fromState named.event paths).run.run session).1 =
      .ok (firstNow? session named paths) :=
  run_firstDeclaring Session.reload_shows session named.fromState named.event paths

theorem candidates_sameProject (task : Assignment) (sources : TransitionSources)
    (state : String) : Moves Session.SameProject (candidates task sources state) :=
  fun session => ((candidates_readsOnly task sources state).keeps session).project

theorem run_candidates (task : Assignment) (sources : TransitionSources) (state : String)
    (session : Session) :
    ((candidates task sources state).run.run session).1 =
      (sources.locator.located session state).map fun found =>
        ownFile task state ++ (otherFile? task session.files found).toList := by
  have hfiles := (sources.locator.locate_readsOnly state).files_eq session
  unfold candidates
  dsimp only
  rw [run_bind_fst, Locator.run_locate]
  cases sources.locator.located session state with
  | error failure => rfl
  | ok found =>
      change (Except.ok (_ ++ (Option.filter _ found).toList) : Except Failure (List Path)) = _
      rw [hfiles]
      rfl

theorem run_noteDifferences (named : NamedTransition) (target platform : String)
    (found : Transition) (desk : Desk) :
    ∃ after, (ExceptT.run (noteDifferences named target platform found)).run desk =
      (.ok (), after) := by
  unfold noteDifferences
  dsimp only
  cases !StateName.denotes found.toState target <;> cases !found.appliesTo platform <;>
    exact ⟨_, rfl⟩

theorem run_noted (named : NamedTransition) (target platform : String) (found : Transition)
    (desk : Desk) :
    ((ExceptT.run (do
      noteDifferences named target platform found
      return found)).run desk).1 = .ok found := by
  obtain ⟨after, hnotes⟩ := run_noteDifferences named target platform found desk
  rw [run_bind, hnotes]
  rfl

/-- The named transition, as the first unit that declares it now tells it. -/
theorem run_ofNamed (task : Assignment) (sources : TransitionSources) (named : NamedTransition)
    (target : String) (desk : Desk) :
    ((ExceptT.run (ofNamed task sources named target)).run desk).1 =
      (sources.locator.located desk.session named.fromState).map fun found =>
        resolved named target (firstNow? desk.session named
          (ownFile task named.fromState ++
            (otherFile? task desk.session.files found).toList)) := by
  have hpaths := run_candidates task sources named.fromState desk.session
  have hsame := candidates_sameProject task sources named.fromState desk.session
  unfold ofNamed
  rw [run_bind, Compilation.run_ofWork]
  cases hrun : (candidates task sources named.fromState).run.run desk.session with
  | mk result after =>
      rw [hrun] at hpaths hsame
      dsimp only at hpaths hsame ⊢
      cases hfound : sources.locator.located desk.session named.fromState with
      | error failure =>
          rw [hfound] at hpaths
          rw [hpaths]
          rfl
      | ok found =>
          rw [hfound] at hpaths
          rw [hpaths]
          dsimp only [Except.map]
          have hfirst := run_firstDeclaring_reload after named (ownFile task named.fromState ++
            (otherFile? task desk.session.files found).toList)
          rw [firstNow?_of_sameProject hsame] at hfirst
          rw [run_bind, Compilation.run_ofWork, hfirst]
          dsimp only
          cases firstNow? desk.session named (ownFile task named.fromState ++
              (otherFile? task desk.session.files found).toList) with
          | none => rfl
          | some declared => exact run_noted named target task.platform _ _

/-! The same question with another memory. -/

/-- What the unit that was found declares now, with its path, if it is not the compiled one. -/
def otherDeclared? (task : Assignment) (session : Session) (named : NamedTransition)
    (found : Option Path) : Option (String × Edge) :=
  (otherFile? task session.files found).bind fun path =>
    (declaredNow? session named path).map (path.toText, ·)

/-- The same of the unit that the state leads to in the session. -/
def elsewhere? (task : Assignment) (sources : TransitionSources) (named : NamedTransition)
    (session : Session) : Except Failure (Option (String × Edge)) :=
  (sources.locator.located session named.fromState).map (otherDeclared? task session named)

theorem resolved_eq_iff (named : NamedTransition) (target : String)
    (first second : Option (Path × Edge)) :
    resolved named target first = resolved named target second ↔
      first.map (Prod.map Path.toText id) = second.map (Prod.map Path.toText id) := by
  cases first with
  | none => cases second <;> simp [resolved, Transition.ofEdge]
  | some first =>
      obtain ⟨path, edge, platforms, action⟩ := first
      cases second with
      | none => simp [resolved, Transition.ofEdge]
      | some second =>
          obtain ⟨other, edge, platforms, action⟩ := second
          simp only [resolved, Transition.ofEdge, Option.map_some, Prod.map_apply, id_eq,
            Transition.mk.injEq, Option.some.injEq, Prod.mk.injEq, Edge.mk.injEq]
          tauto

theorem firstNow?_otherFile (task : Assignment) (session : Session) (named : NamedTransition)
    (found : Option Path) :
    (firstNow? session named (otherFile? task session.files found).toList).map
        (Prod.map Path.toText id) =
      otherDeclared? task session named found := by
  unfold firstNow? otherDeclared?
  cases otherFile? task session.files found with
  | none => rfl
  | some path =>
      rw [Option.toList_some, List.findSome?_singleton, Option.map_map]
      rfl

theorem firstNow?_isSome (session : Session) (named : NamedTransition) (paths : List Path) :
    (firstNow? session named paths).isSome = true ↔
      ∃ path ∈ paths, (declaredNow? session named path).isSome = true := by
  unfold firstNow?
  simp only [List.findSome?_isSome_iff, Option.isSome_map]

/-- Which other unit the state leads to matters only where the compiled unit declares nothing. -/
theorem resolved_found_eq_iff (task : Assignment) (named : NamedTransition) (target : String)
    (session : Session) (found other : Option Path) :
    resolved named target (firstNow? session named
          (ownFile task named.fromState ++ (otherFile? task session.files found).toList)) =
        resolved named target (firstNow? session named
          (ownFile task named.fromState ++ (otherFile? task session.files other).toList)) ↔
      (∃ path ∈ ownFile task named.fromState, (declaredNow? session named path).isSome = true) ∨
        otherDeclared? task session named found = otherDeclared? task session named other := by
  rw [resolved_eq_iff, ← firstNow?_isSome, ← firstNow?_otherFile, ← firstNow?_otherFile]
  unfold firstNow?
  rw [List.findSome?_append, List.findSome?_append]
  cases (ownFile task named.fromState).findSome? fun path =>
      (declaredNow? session named path).map (path, ·) with
  | none => simp only [Option.none_or, Option.isSome_none, Bool.false_eq_true, false_or]
  | some declared => simp only [Option.some_or, Option.isSome_some, true_or]

/-- Whether a state can be looked for does not depend on what is remembered. -/
theorem located_eq_or_ok {first second : Session} (hsame : first.SameProject second)
    (locator : Locator) (status : String) :
    locator.located second status = locator.located first status ∨
      ∃ found other, locator.located first status = .ok found ∧
        locator.located second status = .ok other := by
  unfold Locator.located
  rw [hsame.files]
  cases locator.registered first.files status with
  | error failure => exact .inl rfl
  | ok known =>
      cases known with
      | some path => exact .inl rfl
      | none =>
          cases locator.byName first.files (Locator.conventionalName status) with
          | error failure => exact .inl rfl
          | ok found =>
              cases found with
              | some path => exact .inl rfl
              | none =>
                  cases locator.candidates first.files with
                  | error failure => exact .inl rfl
                  | ok paths => exact .inr ⟨_, _, rfl, rfl⟩

/-- A named transition is the same with a new memory exactly when the compiled unit declares it now,
or else when the state leads to the same declaration with both. -/
theorem ofNamed_forgotten_iff (task : Assignment) (sources : TransitionSources)
    (named : NamedTransition) (target : String) (desk : Desk) :
    ((ExceptT.run (ofNamed task sources named target)).run desk).1 =
        ((ExceptT.run (ofNamed task sources named target)).run
          { desk with session := desk.session.forget none }).1 ↔
      (∃ path ∈ ownFile task named.fromState,
          (declaredNow? desk.session named path).isSome = true) ∨
        elsewhere? task sources named desk.session =
          elsewhere? task sources named (desk.session.forget none) := by
  have hsame : desk.session.SameProject (desk.session.forget none) := ⟨rfl, rfl⟩
  rw [run_ofNamed, run_ofNamed]
  unfold elsewhere?
  dsimp only
  have hdeclared : otherDeclared? task (desk.session.forget none) named =
      otherDeclared? task desk.session named := by
    funext found
    unfold otherDeclared?
    rw [hsame.files, declaredNow?_of_sameProject hsame]
  rw [hsame.files, hdeclared, firstNow?_of_sameProject hsame]
  rcases located_eq_or_ok hsame sources.locator named.fromState with
    hlocated | ⟨found, other, hfound, hother⟩
  · -- Nothing was looked up in the memory, or looking failed before it came to that.
    rw [hlocated]
    exact ⟨fun _ => .inr rfl, fun _ => rfl⟩
  · rw [hfound, hother]
    simp only [Except.map, Except.ok.injEq]
    exact resolved_found_eq_iff task named target desk.session found other

def payingFile : FileNode :=
  .file (Json.text (.map [(.name "states", .map [(.name "cart", .map [(.name "on", .map [
    (.name "PAY", .text "done")])])])]) none)

def unitFiles (unit : FileNode) : List (Location × FileNode) := [
  (["tests"], .directory),
  (["tests", "a.json"], unit)]

/-- The unit has got its cart after it was loaded. -/
def grownDesk : Desk where
  session := Session.later { files := { nodes := unitFiles (Session.statusFile "draft") } }
    [.load (.absolute ["tests", "a.json"]), .edit (unitFiles payingFile)]

theorem grownDesk_candidates :
    unindexed.locator.candidates grownDesk.session.files =
      .ok [.absolute ["tests", "a.json"]] := by
  have hpython : (Glob.parseDeep ("*" ++ ".py")).toOption.map
      (·.paths grownDesk.session.files unindexed.locator.unitsDir) = some [] := by
    decide +kernel
  have hjson : (Glob.parseDeep ("*" ++ ".json")).toOption.map
      (·.paths grownDesk.session.files unindexed.locator.unitsDir) =
        some [.absolute ["tests", "a.json"]] := by
    decide +kernel
  rw [Locator.candidates_of_found (by decide +kernel) hpython hjson]
  change Except.ok (Path.sort [_]) = _
  rw [Path.sort, List.mergeSort_singleton]

theorem grownDesk_located (session : Session) (hfiles : session.files = grownDesk.session.files) :
    unindexed.locator.located session "cart" =
      .ok ([.absolute ["tests", "a.json"]].find? (Locator.tells session "cart")) := by
  have hconventional : (unindexed.locator.byName grownDesk.session.files
      (Locator.conventionalName "cart")).toOption = some none := by
    decide +kernel
  unfold Locator.located
  rw [hfiles, grownDesk_candidates]
  cases hbyName : unindexed.locator.byName grownDesk.session.files
      (Locator.conventionalName "cart") with
  | error failure =>
      rw [hbyName] at hconventional
      cases hconventional
  | ok found =>
      rw [hbyName] at hconventional
      cases hconventional
      rfl

/-- What remembers the unit as it was does not look for the cart there. -/
theorem not_ofNamed_forgotten_grown :
    ¬ ∀ task sources named target desk,
      ((ExceptT.run (ofNamed task sources named target)).run desk).1 =
        ((ExceptT.run (ofNamed task sources named target)).run
          { desk with session := desk.session.forget none }).1 := by
  intro hall
  have hsame := hall (graphTask {}) unindexed ⟨"PAY", "cart"⟩ "done" grownDesk
  rw [run_ofNamed, run_ofNamed] at hsame
  dsimp only at hsame
  rw [grownDesk_located grownDesk.session rfl,
    grownDesk_located (grownDesk.session.forget none) rfl] at hsame
  have hpath := congrArg (fun result => result.toOption.map (·.sourcePath)) hsame
  exact absurd hpath (by decide +kernel)

end Incoming

end ScreenFlow
