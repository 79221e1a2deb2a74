import ScreenFlow.Proofs.Discovery
import ScreenFlow.Proofs.Project.Incoming
import ScreenFlow.Proofs.Project.Lookup

/-!
What becomes of an index entry.  The unit that declares its edge adds what is done on the way and may
name other platforms; the two ends stay those of the entry.  Neither the target nor the platforms
that the unit declares are compared with those of the entry.
-/

namespace ScreenFlow

open Effect

variable {α : Type}

namespace Compilation

theorem run_ofWork (work : Work α) (desk : Desk) :
    (ExceptT.run (ofWork work)).run desk =
      ((work.run.run desk.session).1, { desk with session := (work.run.run desk.session).2 }) :=
  rfl

theorem ofWork_pure (a : α) : ofWork (pure a) = pure a := rfl

theorem ofWork_bind {β : Type} (work : Work α) (next : α → Work β) :
    ofWork (work >>= next) = ofWork work >>= fun a => ofWork (next a) := by
  funext desk
  change (ExceptT.run (ofWork (work >>= next))).run desk =
    (ExceptT.run (ofWork work >>= fun a => ofWork (next a))).run desk
  rw [run_ofWork, run_bind, run_bind, run_ofWork]
  cases work.run.run desk.session with
  | mk result session => cases result <;> rfl

theorem ofWork_ofExcept (result : Except Failure α) :
    ofWork (Work.ofExcept result) = ofExcept result := by
  cases result <;> rfl

end Compilation

namespace Incoming

/-! An entry and the unit that declares its edge. -/

/-- The files in which the edge of an entry is looked for, and the first that declares it. -/
def lookUp (task : Assignment) (sources : TransitionSources) (entry : IndexEntry) :
    Work (List Path × Option (Path × Edge)) := do
  let source ← Work.ofExcept (sourceOf task.projectRoot entry)
  let located ← sources.locator.locate entry.fromState
  let paths := source ++ located.toList
  return (paths, ← firstDeclaring Session.unit entry.fromState entry.event paths)

/-- The platforms of an entry: those that its unit names, if it names any, else its own. -/
def platformsInForce (entry : IndexEntry) (edge : Edge) : List String :=
  if edge.platforms.isEmpty then entry.platforms else edge.platforms

/-- An entry with what the unit in a file declares for it. -/
def completed (entry : IndexEntry) (path : Path) (edge : Edge) : Transition where
  event := entry.event
  fromState := entry.fromState
  toState := entry.toState
  platforms := platformsInForce entry edge
  action := edge.action
  sourcePath := some path.toText

/-- The note about an entry that no unit declares. -/
def undeclared (entry : IndexEntry) (paths : List Path) : Degradation :=
  ⟨"transition", Transition.words entry.fromState entry.event entry.toState,
    "index entry without action details", paths.map Path.toText⟩

theorem ofEntry_eq (task : Assignment) (sources : TransitionSources) (entry : IndexEntry) :
    ofEntry task sources entry = (do
      match ← Compilation.ofWork (lookUp task sources entry) with
      | (_, some (path, edge)) => return completed entry path edge
      | (paths, none) => do
          Compilation.ofCompile (Compile.degrade (undeclared entry paths))
          Compilation.ofExcept entry.toTransition) := by
  unfold ofEntry lookUp
  simp only [Compilation.ofWork_bind, Compilation.ofWork_ofExcept, Compilation.ofWork_pure,
    bind_assoc, pure_bind]
  refine bind_congr fun source => bind_congr fun located => bind_congr fun found => ?_
  cases found <;> rfl

theorem run_ofEntry (task : Assignment) (sources : TransitionSources) (entry : IndexEntry)
    (desk : Desk) :
    (ExceptT.run (ofEntry task sources entry)).run desk =
      match (lookUp task sources entry).run.run desk.session with
      | (.ok (_, some (path, edge)), session) =>
          (.ok (completed entry path edge), { desk with session })
      | (.ok (paths, none), session) =>
          (entry.toTransition, { session, ledger := desk.ledger.degrade (undeclared entry paths) })
      | (.error failure, session) => (.error failure, { desk with session }) := by
  rw [ofEntry_eq, run_bind, Compilation.run_ofWork]
  cases (lookUp task sources entry).run.run desk.session with
  | mk result session =>
      match result with
      | .error failure => rfl
      | .ok (_, some (path, edge)) => rfl
      | .ok (paths, none) => cases entry.toTransition <;> rfl

theorem locate_reads (sources : TransitionSources) (entry : IndexEntry) :
    Reads Session.SameUnits Session.SameUnits (sources.locator.locate entry.fromState) :=
  sources.locator.locate_reads Session.unit_reads (fun _ _ hsame => hsame.project.files.symm) _

theorem lookUp_reads (task : Assignment) (sources : TransitionSources) (entry : IndexEntry) :
    Reads Session.SameUnits Session.SameUnits (lookUp task sources entry) :=
  (Work.ofExcept_reads _).bind fun _ => (locate_reads sources entry).bind fun _ =>
    (firstDeclaring_reads Session.unit_reads _ _ _).bind fun _ => .pure _

theorem known_of_attempt {session after : Session} {path : Path} {unit : StateUnit}
    (hrun : (Session.unit path).attempt.run.run session = (.ok (some unit), after)) :
    session.known path = .ok unit := by
  have hknown := session.run_unit_eq_known path
  obtain ⟨result, between, hresult, hrest⟩ := exists_of_run_bind_eq_ok hrun
  change ((Except.ok ((Session.unit path).run.run session).1 : Except Failure _), _) = _ at hresult
  obtain ⟨hresult, -⟩ := Prod.mk.inj hresult
  cases hresult
  rw [hknown] at hrest
  cases hunit : session.known path with
  | error failure =>
      rw [hunit] at hrest
      dsimp only at hrest
      split at hrest <;> cases hrest
  | ok found =>
      rw [hunit] at hrest
      cases hrest
      rfl

/-- The edge that is found is declared by the unit that the session gives for the file. -/
theorem declared_of_firstDeclaring {session after : Session} {state event : String}
    {paths : List Path} {path : Path} {edge : Edge}
    (hrun : (firstDeclaring Session.unit state event paths).run.run session =
      (.ok (some (path, edge)), after)) :
    ∃ unit, session.known path = .ok unit ∧ declared? unit.graph state event = some edge := by
  induction paths generalizing session with
  | nil => cases hrun
  | cons first rest ih =>
      obtain ⟨found, between, hattempt, hrest⟩ := exists_of_run_bind_eq_ok hrun
      -- what the rest of the search is given is what the session gave before it
      have hsame := (Work.attempt_reads (Session.unit_reads first)).keeps.of_run hattempt
      cases hdeclared : found.bind fun unit => declared? unit.graph state event with
      | some other =>
          rw [hdeclared] at hrest
          cases hrest
          obtain ⟨unit, rfl, hedge⟩ := Option.bind_eq_some_iff.mp hdeclared
          exact ⟨unit, known_of_attempt hattempt, hedge⟩
      | none =>
          rw [hdeclared] at hrest
          obtain ⟨unit, hunit, hedge⟩ := ih hrest
          exact ⟨unit, (hsame.known path).symm.trans hunit, hedge⟩

theorem declared_of_lookUp {task : Assignment} {sources : TransitionSources} {entry : IndexEntry}
    {session after : Session} {paths : List Path} {path : Path} {edge : Edge}
    (hlook : (lookUp task sources entry).run.run session =
      (.ok (paths, some (path, edge)), after)) :
    ∃ unit, session.known path = .ok unit ∧
      declared? unit.graph entry.fromState entry.event = some edge := by
  obtain ⟨source, first, hsource, hlook⟩ := exists_of_run_bind_eq_ok hlook
  obtain ⟨located, second, hlocate, hlook⟩ := exists_of_run_bind_eq_ok hlook
  obtain ⟨found, third, hfound, hlook⟩ := exists_of_run_bind_eq_ok hlook
  cases hlook
  have hread : Reads Session.SameUnits Session.SameUnits
      (Work.ofExcept (sourceOf task.projectRoot entry)) := Work.ofExcept_reads _
  have hsame := trans_of Session.SameUnits (hread.keeps.of_run hsource)
    ((locate_reads sources entry).keeps.of_run hlocate)
  obtain ⟨unit, hunit, hedge⟩ := declared_of_firstDeclaring hfound
  exact ⟨unit, (hsame.known path).symm.trans hunit, hedge⟩

end Incoming

/-! What is noted. -/

/-- The note has been added between the two. -/
def Desk.Added (before after : Desk) (note : Degradation) : Prop :=
  ∃ added, after.ledger.degradations = before.ledger.degradations ++ added ∧ note ∈ added

theorem Desk.not_added {before after : Desk} (hledger : after.ledger = before.ledger)
    (note : Degradation) : ¬ before.Added after note := by
  rintro ⟨added, hadded, hmem⟩
  rw [hledger, List.self_eq_append_right] at hadded
  exact List.not_mem_nil (hadded ▸ hmem)

/-- The note is about the edge of the entry. -/
def Degradation.IsAbout (note : Degradation) (entry : IndexEntry) : Prop :=
  note.component = "transition" ∧
    ∃ rest, note.subject = Transition.departure entry.fromState entry.event ++ rest

namespace Incoming

/-- An entry that a unit completes is noted in no case, so that it is noticed when the unit
contradicts it only if there is nothing to notice. -/
theorem ofEntry_noticed_iff {task : Assignment} {sources : TransitionSources} {entry : IndexEntry}
    {desk : Desk} {paths : List Path} {path : Path} {edge : Edge} {session : Session}
    (hlook : (lookUp task sources entry).run.run desk.session =
      (.ok (paths, some (path, edge)), session)) :
    (∃ unit, desk.session.known path = .ok unit ∧
        declared? unit.graph entry.fromState entry.event = some edge) ∧
      ∃ after,
        (ExceptT.run (ofEntry task sources entry)).run desk =
            (.ok (completed entry path edge), after) ∧
          ((StateName.denotes edge.target entry.toState = true ∨
              ∃ note, desk.Added after note ∧ note.IsAbout entry) ↔
            StateName.denotes edge.target entry.toState = true) := by
  refine ⟨declared_of_lookUp hlook, { desk with session }, ?_, ?_⟩
  · rw [run_ofEntry, hlook]
  · refine or_iff_left ?_
    rintro ⟨note, hadded, -⟩
    exact Desk.not_added rfl note hadded

/-- A unit whose cart is left by one edge, and its own task. -/
def cartTask (edge : Edge) : Assignment :=
  graphTask {
    initial := some "cart"
    states := [("cart", { on := [("PAY", edge)] }), ("paid", {}), ("refused", {})] }

/-- A project of that unit alone. -/
def cartDesk (edge : Value) : Desk where
  session := {
    files := {
      nodes := [
        (["u.json"], .file (Json.text
          (.map [(.name "initial", .text "cart"), (.name "states", .map [
            (.name "cart", .map [(.name "on", .map [(.name "PAY", edge)])]),
            (.name "paid", .map []), (.name "refused", .map [])])]) none))] } }

/-- What the index knows of the edge. -/
def paidEntry : IndexEntry where
  event := "PAY"
  fromState := "cart"
  toState := "paid"
  sourceFile := .text "u.json"

def refusal : Edge where
  target := "refused"

theorem refusal_lookUp :
    ∃ paths path edge session,
      (lookUp (cartTask refusal) unindexed paidEntry).run.run
          (cartDesk (.text "refused")).session = (.ok (paths, some (path, edge)), session) ∧
        edge.target = "refused" := by
  have htarget : (((lookUp (cartTask refusal) unindexed paidEntry).run.run
      (cartDesk (.text "refused")).session).1.toOption.bind (·.2)).map (·.2.target) =
        some "refused" := by
    decide +kernel
  cases hlook : (lookUp (cartTask refusal) unindexed paidEntry).run.run
      (cartDesk (.text "refused")).session with
  | mk result session =>
      rw [hlook] at htarget
      match result with
      | .error failure => cases htarget
      | .ok (paths, none) => cases htarget
      | .ok (paths, some (path, edge)) =>
          exact ⟨paths, path, edge, session, rfl, Option.some.inj htarget⟩

theorem refusal_noticed_iff :
    ∃ task sources entry desk paths path edge session,
      (lookUp task sources entry).run.run desk.session =
          (.ok (paths, some (path, edge)), session) ∧
        (∃ unit, desk.session.known path = .ok unit ∧
          declared? unit.graph entry.fromState entry.event = some edge) ∧
        ∃ after,
          (ExceptT.run (ofEntry task sources entry)).run desk =
              (.ok (completed entry path edge), after) ∧
            ((StateName.denotes edge.target entry.toState = true ∨
                ∃ note, desk.Added after note ∧ note.IsAbout entry) ↔
              StateName.denotes edge.target entry.toState = true) := by
  obtain ⟨paths, path, edge, session, hlook, -⟩ := refusal_lookUp
  exact ⟨_, _, _, cartDesk (.text "refused"), paths, path, edge, session, hlook,
    ofEntry_noticed_iff hlook⟩

theorem not_noticed_refusal :
    ¬ ∀ task sources entry desk paths path edge session,
      (lookUp task sources entry).run.run desk.session =
          (.ok (paths, some (path, edge)), session) →
        ∃ after,
          (ExceptT.run (ofEntry task sources entry)).run desk =
              (.ok (completed entry path edge), after) ∧
            (StateName.denotes edge.target entry.toState = true ∨
              ∃ note, desk.Added after note ∧ note.IsAbout entry) := by
  intro hall
  obtain ⟨paths, path, edge, session, hlook, htarget⟩ := refusal_lookUp
  obtain ⟨after, hrun, hdenotes | ⟨note, hadded, -⟩⟩ :=
    hall _ _ _ (cartDesk (.text "refused")) paths path edge session hlook
  · rw [htarget] at hdenotes
    exact absurd hdenotes (by decide +kernel)
  · rw [run_ofEntry, hlook] at hrun
    cases hrun
    exact Desk.not_added rfl note hadded

end Incoming

end ScreenFlow
