import ScreenFlow.Json.Writer
import ScreenFlow.Proofs.Project.FileTree
import ScreenFlow.Proofs.ReadsOnly

/-!
What generating tests does to the files of a project.  Every test is written as soon as it is
compiled, so a run has written its tests one after the other, and a run that fails has written those
that were finished by then.
-/

namespace ScreenFlow

namespace Generator

open Effect

theorem run_writeTest (path : Path) (code : String) (session : Session) :
    (writeTest path code).run.run session =
      match session.files.write path code with
      | .ok files => (.ok (), { session with files })
      | .error failure => (.error failure, session) := by
  unfold writeTest
  rw [run_bind, run_get]
  dsimp only
  rw [run_bind]
  cases session.files.write path code <;> rfl

/-- A test that is ready to be written to its path. -/
def compiled (generator : Generator) (unit : StateUnit) (request : UnitRequest)
    (state : Option String) : Work (Path × GeneratedTest) := do
  let ((document, path), ledger) ← generator.document unit request state
  Work.ofExcept (Document.checkContext document.context)
  let code ← generator.templates.emit TemplateSource.unitTestName document.context
  return (path, {
    code, document
    degradations := ledger.degradations
    path := some path })

theorem test_eq_compiled (generator : Generator) (unit : StateUnit) (request : UnitRequest)
    (state : Option String) :
    generator.test unit request true state = (do
      let (path, test) ← generator.compiled unit request state
      writeTest path test.code
      return test) := by
  simp [test, compiled]

theorem compiled_readsOnly (generator : Generator) (unit : StateUnit) (request : UnitRequest)
    (state : Option String) : Work.ReadsOnly (generator.compiled unit request state) :=
  (document_readsOnly generator unit request state).bind fun _ =>
    (Work.ofExcept_readsOnly _).bind fun _ =>
    (TemplateSource.emit_readsOnly _ _ _).bind fun _ => .pure _

theorem compiled_path (generator : Generator) (unit : StateUnit) (request : UnitRequest)
    (state : Option String) :
    Returns (generator.compiled unit request state) fun result =>
      result.2.path = some result.1 :=
  .bind (.any _) fun _ _ => .bind (.any _) fun _ _ => .bind (.any _) fun _ _ => .pure rfl

variable {generator : Generator} {unit : StateUnit} {request : UnitRequest}
  {state : Option String} {session after : Session}

/-- A finished test has been written where it belongs, and nothing else has. -/
theorem test_ok {test : GeneratedTest}
    (hrun : (generator.test unit request true state).run.run session = (.ok test, after)) :
    ∃ path, test.path = some path ∧ session.files.write path test.code = .ok after.files := by
  rw [test_eq_compiled] at hrun
  obtain ⟨⟨path, found⟩, middle, hcompiled, hrun⟩ := exists_of_run_bind_eq_ok hrun
  have hkept := (compiled_readsOnly generator unit request state).files_eq session
  rw [hcompiled] at hkept
  have hpath := compiled_path generator unit request state session _ _ hcompiled
  obtain ⟨_, written, hwrite, hrun⟩ := exists_of_run_bind_eq_ok hrun
  cases hrun
  rw [run_writeTest] at hwrite
  split at hwrite
  · next files hfiles =>
      cases hwrite
      rw [hkept] at hfiles
      exact ⟨path, hpath, hfiles⟩
  · cases hwrite

/-- A test that fails has not been written, and nothing else has. -/
theorem test_error {failure : Failure}
    (hrun : (generator.test unit request true state).run.run session = (.error failure, after)) :
    after.files = session.files := by
  rw [test_eq_compiled] at hrun
  have hkept := (compiled_readsOnly generator unit request state).files_eq session
  rcases of_run_bind_eq_error hrun with hcompiled | ⟨⟨path, found⟩, middle, hcompiled, hrun⟩
  · rw [hcompiled] at hkept
    exact hkept
  · rw [hcompiled] at hkept
    rcases of_run_bind_eq_error hrun with hwrite | ⟨_, written, -, hrun⟩
    · rw [run_writeTest] at hwrite
      split at hwrite
      · cases hwrite
      · cases hwrite
        exact hkept
    · cases hrun

/-! The tests of several states. -/

/-- The tests that are finished before the first failure. -/
def finished (generator : Generator) (unit : StateUnit) (request : UnitRequest) :
    Session → List (Option String) → List GeneratedTest
  | _, [] => []
  | session, state :: rest =>
      match (generator.test unit request true state).run.run session with
      | (.ok test, after) => test :: finished generator unit request after rest
      | (.error _, _) => []

def written (tests : List GeneratedTest) : List (Path × String) :=
  tests.filterMap fun test => test.path.map (·, test.code)

theorem mem_written {tests : List GeneratedTest} {test : GeneratedTest} {path : Path}
    (hmem : test ∈ tests) (hpath : test.path = some path) : (path, test.code) ∈ written tests :=
  List.mem_filterMap.mpr ⟨test, hmem, by rw [hpath]; rfl⟩

/-- The finished tests are written one by one; all are finished when nothing fails. -/
theorem run_states (generator : Generator) (unit : StateUnit) (request : UnitRequest)
    (states : List (Option String)) (session : Session) :
    session.files.writeAll (written (finished generator unit request session states)) =
        .ok ((states.mapM (generator.test unit request true)).run.run session).2.files ∧
      (∀ test ∈ finished generator unit request session states, test.path.isSome = true) ∧
      ∀ tests, ((states.mapM (generator.test unit request true)).run.run session).1 = .ok tests →
        tests = finished generator unit request session states := by
  induction states generalizing session with
  | nil => exact ⟨rfl, by simp [finished], fun tests htests => by cases htests; rfl⟩
  | cons state rest ih =>
      rw [List.mapM_cons, run_bind]
      unfold finished
      cases hrun : (generator.test unit request true state).run.run session with
      | mk result after =>
          cases result with
          | error failure =>
              refine ⟨?_, by simp, fun tests htests => by cases htests⟩
              exact congrArg Except.ok (test_error hrun).symm
          | ok test =>
              obtain ⟨path, hpath, hwrite⟩ := test_ok hrun
              obtain ⟨hrest, hpaths, hall⟩ := ih after
              have hentries (tests : List GeneratedTest) :
                  written (test :: tests) = (path, test.code) :: written tests := by
                simp [written, hpath]
              dsimp only
              rw [run_bind, hentries, FileTree.writeAll, List.foldlM_cons, hwrite]
              cases hothers : (rest.mapM (generator.test unit request true)).run.run after with
              | mk others last =>
                  rw [hothers] at hrest hall
                  refine ⟨?_, ?_, fun tests htests => ?_⟩
                  · cases others <;> exact hrest
                  · exact List.forall_mem_cons.mpr ⟨by rw [hpath]; rfl, hpaths⟩
                  · cases others with
                    | error failure => cases htests
                    | ok found =>
                        cases htests
                        rw [hall found rfl]

/-- The states that are asked for: the one named or, of several, all that have a set-up. -/
def askedStates (request : UnitRequest) (graph : StateGraph) : List (Option String) :=
  if request.state.isNone && graph.isMultiState then (statesWithSetup graph).map some
  else [request.state]

/-- One state or several, the results are those of the states that are asked for. -/
theorem items_forStates {α : Type} (request : UnitRequest)
    (action : StateUnit → Option String → Work α) :
    Outcome.items <$> forStates request action = (do
      let unit ← Session.reload request.unit
      (askedStates request unit.graph).mapM (action unit)) := by
  unfold forStates askedStates
  rw [map_bind]
  congr 1
  funext unit
  split
  · simp [Outcome.items, Function.comp_def]
  · simp [Outcome.items]

def finishedTests (generator : Generator) (request : UnitRequest) (session : Session) :
    List GeneratedTest :=
  match (Session.reload request.unit).run.run session with
  | (.ok unit, loaded) =>
      finished generator unit request loaded (askedStates request unit.graph)
  | (.error _, _) => []

/-- A run has written the tests that it finished, one by one; they are what it gives when nothing
fails. -/
theorem run_generate {result : Except Failure (Outcome GeneratedTest)}
    (hrun : (generator.generate request true).run.run session = (result, after)) :
    session.files.writeAll (written (finishedTests generator request session)) =
        .ok after.files ∧
      (∀ test ∈ finishedTests generator request session, test.path.isSome = true) ∧
      ∀ outcome, result = .ok outcome →
        outcome.items = finishedTests generator request session := by
  have hitems : (do
      let unit ← Session.reload request.unit
      (askedStates request unit.graph).mapM (generator.test unit request true) :
      Work (List GeneratedTest)).run.run session = (result.map Outcome.items, after) := by
    rw [← items_forStates request fun unit => generator.test unit request true, run_map]
    unfold generate at hrun
    rw [hrun]
  have hfiles := (Session.reload_readsOnly request.unit).files_eq session
  rw [run_bind] at hitems
  unfold finishedTests
  cases hload : (Session.reload request.unit).run.run session with
  | mk loading loaded =>
      rw [hload] at hfiles hitems
      cases loading with
      | error failure =>
          obtain ⟨hresult, rfl⟩ := Prod.mk.inj hitems
          refine ⟨congrArg Except.ok hfiles.symm, by simp, ?_⟩
          rintro outcome rfl
          cases hresult
      | ok unit =>
          dsimp only at hitems ⊢
          have hstates := run_states generator unit request (askedStates request unit.graph) loaded
          rw [hitems, hfiles] at hstates
          obtain ⟨hwrite, hpaths, hall⟩ := hstates
          refine ⟨hwrite, hpaths, ?_⟩
          rintro outcome rfl
          exact hall outcome.items rfl

/-! A small project. -/

/-- A project of one unit, beside a template that gives the name of the state. -/
def smallProject (states : Entries) : Session where
  files := {
    nodes := [
      (["u.json"], .file (Json.text
        (.map [(.name "initial", .text "a"), (.name "states", .map states)]) none)),
      (["templates"], .directory),
      (["templates", TemplateSource.unitTestName], .file "\x7b\x7b state \x7d\x7d")] }

def smallState (name : String) (info more : Entries) : Key × Value :=
  (.name name, .map ((.name "meta", .map ((.name "setup", .list [.map []]) :: info)) :: more))

def smallRun (states : Entries) : Except Failure (Outcome GeneratedTest) × Session :=
  (generate { templates := .directory (.absolute ["templates"]) }
    { unit := .parse "u.json" } true).run.run (smallProject states)

theorem smallProject_isTree (states : Entries) : (smallProject states).files.IsTree :=
  FileTree.isTree_of_nodes (List.forall_mem_cons.mpr ⟨rfl, List.forall_mem_cons.mpr
    ⟨rfl, List.forall_mem_singleton.mpr rfl⟩⟩)

end Generator

end ScreenFlow
