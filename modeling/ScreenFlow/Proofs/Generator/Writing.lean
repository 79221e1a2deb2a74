import ScreenFlow.Proofs.Generator

/-!
What a run leaves written.  Two tests may belong to one path, and the file then holds the one that was
written last.  The tests finished before a failure stay written, so a run that fails leaves the project
unchanged exactly when each of them was there before.
-/

namespace ScreenFlow

namespace Generator

/-! Runs that succeed. -/

/-- The file of each result holds the code of the last result that goes to the same place. -/
theorem generate_ok_file {generator : Generator} {request : UnitRequest}
    {session after : Session} {outcome : Outcome GeneratedTest} (htree : session.files.IsTree)
    (hrun : (generator.generate request true).run.run session = (.ok outcome, after)) :
    ∀ test ∈ outcome.items, ∃ path text, test.path = some path ∧
      after.files.lastWritten (written outcome.items) (after.files.locate? path) = some text ∧
      after.files.find? path = some (.file text) := by
  obtain ⟨hwrite, hpaths, hall⟩ := run_generate hrun
  rw [hall outcome rfl]
  have hwritten := FileTree.written_of_writeAll htree hwrite
  intro test hmem
  obtain ⟨path, hpath⟩ := Option.isSome_iff_exists.mp (hpaths test hmem)
  obtain ⟨text, hlast, hfind⟩ := hwritten.find? (mem_written hmem hpath)
  exact ⟨path, text, hpath, hlast, hfind⟩

/-- Two states that name one file for their tests. -/
def sharedFile : Entries :=
  [smallState "a" [(.name "testFile", .text "t")] [],
    smallState "b" [(.name "testFile", .text "t")] []]

def codes (result : Except Failure (Outcome GeneratedTest)) :
    Option (List (Option Path × String)) :=
  match result with
  | .ok (.many tests) => some (tests.map fun test => (test.path, test.code))
  | _ => none

theorem sharedFile_run :
    (codes (smallRun sharedFile).1, (smallRun sharedFile).2.files.find? (.absolute ["t"])) =
      (some [(some (.absolute ["t"]), "a"), (some (.absolute ["t"]), "b")],
        some (.file "b")) := by
  decide +kernel

theorem sharedFile_many :
    ∃ tests, smallRun sharedFile = (.ok (.many tests), (smallRun sharedFile).2) ∧
      tests.map (fun test => (test.path, test.code)) =
        [(some (.absolute ["t"]), "a"), (some (.absolute ["t"]), "b")] := by
  have hcodes := (Prod.mk.inj sharedFile_run).1
  cases hrun : smallRun sharedFile with
  | mk result after =>
      rw [hrun] at hcodes
      match result with
      | .ok (.many tests) => exact ⟨tests, rfl, Option.some.inj hcodes⟩
      | .ok (.one test) => cases hcodes
      | .error failure => cases hcodes

theorem sharedFile_file :
    (smallProject sharedFile).files.IsTree ∧
      ∃ generator request tests,
        (generate generator request true).run.run (smallProject sharedFile) =
          (.ok (.many tests), (smallRun sharedFile).2) ∧
        ∀ test ∈ tests, ∃ path text, test.path = some path ∧
          (smallRun sharedFile).2.files.lastWritten (written tests)
            ((smallRun sharedFile).2.files.locate? path) = some text ∧
          (smallRun sharedFile).2.files.find? path = some (.file text) := by
  obtain ⟨tests, hrun, -⟩ := sharedFile_many
  have htree := smallProject_isTree sharedFile
  exact ⟨htree, _, _, tests, hrun, generate_ok_file htree hrun⟩

theorem not_own_code_sharedFile :
    ¬ ∀ generator request session after tests, session.files.IsTree →
      (generate generator request true).run.run session = (.ok (.many tests), after) →
        ∀ test ∈ tests, ∃ path, test.path = some path ∧
          after.files.find? path = some (.file test.code) := by
  intro hall
  obtain ⟨tests, hrun, htests⟩ := sharedFile_many
  have hfirst : (some (Path.absolute ["t"]), "a") ∈
      tests.map (fun test => (test.path, test.code)) := by
    rw [htests]
    exact List.mem_cons_self
  obtain ⟨test, hmem, hcode⟩ := List.mem_map.mp hfirst
  obtain ⟨hpath, hcode⟩ := Prod.mk.inj hcode
  obtain ⟨path, hown, hfile⟩ := hall _ _ _ _ tests (smallProject_isTree sharedFile) hrun test hmem
  rw [hpath] at hown
  cases hown
  rw [(Prod.mk.inj sharedFile_run).2, hcode] at hfile
  exact absurd hfile (by decide)

/-! Runs that fail. -/

/-- The exact condition under which a failed run has changed no file. -/
theorem generate_error_unchanged_iff {generator : Generator} {request : UnitRequest}
    {session after : Session} {failure : Failure} (htree : session.files.IsTree)
    (hrun : (generator.generate request true).run.run session = (.error failure, after)) :
    (∀ location, after.files.node? location = session.files.node? location) ↔
      ∀ test ∈ finishedTests generator request session, ∀ path, test.path = some path →
        session.files.find? path =
          (after.files.lastWritten (written (finishedTests generator request session))
            (after.files.locate? path)).map FileNode.file := by
  have hwritten := FileTree.written_of_writeAll htree (run_generate hrun).1
  rw [hwritten.unchanged_iff]
  constructor
  · intro hentries test hmem path hpath
    exact hentries (path, test.code) (mem_written hmem hpath)
  · intro htests entry hmem
    obtain ⟨test, htest, hentry⟩ := List.mem_filterMap.mp hmem
    obtain ⟨path, hpath, rfl⟩ := Option.map_eq_some_iff.mp hentry
    exact htests test htest path hpath

/-- Two states; the steps that lead into the second store twice under one name. -/
def repeatedStore : Entries :=
  let step : Value := .map [(.name "method", .text "m"), (.name "storeAs", .text "x")]
  let edge : Value := .map [
    (.name "target", .text "b"),
    (.name "actionDetails", .map [(.name "steps", .list [step, step])])]
  [smallState "a" [] [(.name "on", .map [(.name "G", edge)])], smallState "b" [] []]

/-- The run fails at the second state, when the test of the first has been written. -/
theorem repeatedStore_run :
    ((smallRun repeatedStore).1.isOk,
      (smallRun repeatedStore).2.files.node? ["A-Web-UNIT.spec.js"]) =
      (false, some (.file "a")) := by
  decide +kernel

theorem repeatedStore_error :
    ∃ failure, smallRun repeatedStore = (.error failure, (smallRun repeatedStore).2) := by
  have hfails := (Prod.mk.inj repeatedStore_run).1
  cases hrun : smallRun repeatedStore with
  | mk result after =>
      rw [hrun] at hfails
      cases result with
      | error failure => exact ⟨failure, rfl⟩
      | ok outcome => cases hfails

theorem repeatedStore_unchanged_iff :
    (smallProject repeatedStore).files.IsTree ∧
      ∃ generator request failure,
        (generate generator request true).run.run (smallProject repeatedStore) =
          (.error failure, (smallRun repeatedStore).2) ∧
        ((∀ location, (smallRun repeatedStore).2.files.node? location =
            (smallProject repeatedStore).files.node? location) ↔
          ∀ test ∈ finishedTests generator request (smallProject repeatedStore),
            ∀ path, test.path = some path →
              (smallProject repeatedStore).files.find? path =
                ((smallRun repeatedStore).2.files.lastWritten
                  (written (finishedTests generator request (smallProject repeatedStore)))
                  ((smallRun repeatedStore).2.files.locate? path)).map FileNode.file) := by
  obtain ⟨failure, hrun⟩ := repeatedStore_error
  have htree := smallProject_isTree repeatedStore
  exact ⟨htree, _, _, failure, hrun, generate_error_unchanged_iff htree hrun⟩

theorem not_unchanged_repeatedStore :
    ¬ ∀ generator request session after failure, session.files.IsTree →
      (generate generator request true).run.run session = (.error failure, after) →
        ∀ location, after.files.node? location = session.files.node? location := by
  intro hall
  obtain ⟨failure, hrun⟩ := repeatedStore_error
  have hsame := hall _ _ _ _ failure (smallProject_isTree repeatedStore) hrun
    ["A-Web-UNIT.spec.js"]
  rw [(Prod.mk.inj repeatedStore_run).2] at hsame
  cases hsame

end Generator

end ScreenFlow
