import ScreenFlow.Proofs.Generator

/-!
A generator that has been in use.  Previews and inspections read the project and leave it as it is,
so their results do not depend on what was asked for before; the states of a unit may be asked for
in one call or one by one.
-/

namespace ScreenFlow

namespace Generator

open Effect

variable {α : Type}

/-- A call that writes no file. -/
inductive Enquiry where
  | preview (request : UnitRequest)
  | inspect (request : UnitRequest)

/-- The session that a call leaves behind, whether it fails or not. -/
def Enquiry.after (generator : Generator) (session : Session) : Enquiry → Session
  | preview request => ((generator.generate request false).run.run session).2
  | inspect request => ((generator.inspect request).run.run session).2

/-- The session after some calls. -/
def used (generator : Generator) (session : Session) (calls : List Enquiry) : Session :=
  calls.foldl (Enquiry.after generator) session

/-! What a call does. -/

theorem forStates_readsOnly (request : UnitRequest) {action : StateUnit → Option String → Work α}
    (haction : ∀ unit state, Work.ReadsOnly (action unit state)) :
    Work.ReadsOnly (forStates request action) := by
  refine (Session.reload_readsOnly _).bind fun unit => ?_
  split
  · exact (Reads.mapM (fun state => haction unit (some state)) _).bind fun _ => .pure _
  · exact (haction unit _).bind fun _ => .pure _

theorem preview_readsOnly (generator : Generator) (unit : StateUnit) (request : UnitRequest)
    (state : Option String) : Work.ReadsOnly (generator.test unit request false state) :=
  (document_readsOnly generator unit request state).bind fun _ =>
    (Work.ofExcept_readsOnly _).bind fun _ =>
    (TemplateSource.emit_readsOnly _ _ _).bind fun _ => .pure _

theorem generate_readsOnly (generator : Generator) (request : UnitRequest) :
    Work.ReadsOnly (generator.generate request false) :=
  forStates_readsOnly request fun unit => preview_readsOnly generator unit request

theorem inspect_readsOnly (generator : Generator) (request : UnitRequest) :
    Work.ReadsOnly (generator.inspect request) := by
  unfold inspect
  exact forStates_readsOnly _ fun unit state =>
    (document_readsOnly generator unit _ state).bind fun _ => .pure _

theorem Enquiry.keeps (generator : Generator) (session : Session) (call : Enquiry) :
    session.Keeps (call.after generator session) := by
  cases call with
  | preview request => exact (generate_readsOnly generator request).keeps session
  | inspect request => exact (inspect_readsOnly generator request).keeps session

theorem used_keeps (generator : Generator) (session : Session) (calls : List Enquiry) :
    session.Keeps (used generator session calls) := by
  induction calls generalizing session with
  | nil => exact refl_of Session.Keeps session
  | cons call rest ih =>
      exact trans_of Session.Keeps (call.keeps generator session) (ih _)

/-- However differently they have been used, two sessions that began as one are alike. -/
theorem used_twins (generator : Generator) {session : Session} (htrue : session.Truthful)
    (calls others : List Enquiry) :
    (used generator session calls).Twins (used generator session others) :=
  ((htrue.twins.of_keeps (used_keeps generator session calls)).symm.of_keeps
    (used_keeps generator session others)).symm

/-! A generator and its first session. -/

theorem run_choose (asked : Option String) (session : Session) :
    ∃ source, (TemplateSource.choose asked).run.run session = (.ok source, session) := by
  unfold TemplateSource.choose
  rw [run_bind, run_get]
  dsimp only
  split
  · exact ⟨_, rfl⟩
  · exact ⟨_, rfl⟩

/-- What `create` does once it knows the marker. -/
theorem run_create_marked (root : Option Path) (templatesDir : Option String) (marker : String)
    (session : Session) :
    ∃ generator,
      (do modify fun session => { session with marker, units := [] }
          return { projectRoot := root, templates := ← TemplateSource.choose templatesDir } :
        Work Generator).run.run session =
        (.ok generator, { session with marker, units := [] }) := by
  obtain ⟨source, hsource⟩ := run_choose templatesDir { session with marker, units := [] }
  rw [run_bind, run_modify]
  dsimp only
  rw [run_bind, hsource]
  exact ⟨_, rfl⟩

theorem truthful_of_forgotten {session : Session} (htrue : session.Truthful) (marker : String) :
    Session.Truthful { session with marker, units := [] } :=
  { htrue with units := fun _ hmem => (List.not_mem_nil hmem).elim }

/-- A generator can be created for any project, and its session holds nothing that is not so. -/
theorem create_truthful (projectRoot templatesDir : Option String) {session : Session}
    (htrue : session.Truthful) :
    ∃ generator created,
      (create projectRoot templatesDir).run.run session = (.ok generator, created) ∧
        created.Truthful := by
  unfold create
  rw [run_bind, run_get]
  dsimp only
  cases (projectRoot.filter (· != "")).map fun root => session.files.resolve (.parse root) with
  | none =>
      obtain ⟨generator, hcreate⟩ := run_create_marked none templatesDir "tests" session
      exact ⟨generator, _, hcreate, truthful_of_forgotten htrue _⟩
  | some root =>
      have hresult := Session.run_config htrue root
      have hkeeps := Session.config_keeps root session
      cases hconfig : (Session.config root).run.run session with
      | mk result after =>
          rw [hconfig] at hresult hkeeps
          dsimp only at hresult ⊢
          rw [run_bind, hconfig, hresult]
          obtain ⟨generator, hcreate⟩ := run_create_marked (some root) templatesDir _ after
          exact ⟨generator, _, hcreate, truthful_of_forgotten (hkeeps.truthful htrue) _⟩

theorem empty_truthful (files : FileTree) (environment : Option String) :
    Session.Truthful { files, templatesDir := environment } where
  units _ hmem := (List.not_mem_nil hmem).elim
  configs _ hmem := (List.not_mem_nil hmem).elim
  templates _ hmem := (List.not_mem_nil hmem).elim

/-- A used generator gives what a new one would give, the same results or the same failure. -/
theorem generate_used_eq_created (files : FileTree)
    (environment projectRoot templatesDir : Option String) (calls : List Enquiry)
    (request : UnitRequest) :
    ∃ generator created,
      (create projectRoot templatesDir).run.run { files, templatesDir := environment } =
          (.ok generator, created) ∧
        ((generator.generate request false).run.run (used generator created calls)).1 =
          ((generator.generate request false).run.run created).1 := by
  obtain ⟨generator, created, hcreate, htrue⟩ :=
    create_truthful projectRoot templatesDir (empty_truthful files environment)
  refine ⟨generator, created, hcreate, ?_⟩
  exact ((generate_readsOnly generator request).steady _ _ (used_twins generator htrue calls [])).1

/-! Several states. -/

/-- What is done for a unit is done with the unit as it is now. -/
theorem run_forStates (request : UnitRequest) (action : StateUnit → Option String → Work α)
    {session : Session} (htrue : session.Truthful) {unit : StateUnit}
    (hload : session.unitNow request.unit = .ok unit) :
    ∃ loaded, session.Keeps loaded ∧
      (forStates request action).run.run session =
        (if request.state.isNone && unit.graph.isMultiState then
            Outcome.many <$> (statesWithSetup unit.graph).mapM fun state => action unit (some state)
          else Outcome.one <$> action unit request.state).run.run loaded := by
  have hresult := Session.run_reload htrue request.unit
  have hkeeps := (Session.reload_readsOnly request.unit).keeps session
  cases hreload : (Session.reload request.unit).run.run session with
  | mk result loaded =>
      rw [hreload] at hresult hkeeps
      dsimp only at hresult
      rw [hload] at hresult
      subst hresult
      refine ⟨loaded, hkeeps, ?_⟩
      unfold forStates
      rw [run_bind, hreload]
      simp only [map_eq_pure_bind]

theorem run_generate_one (generator : Generator) (request : UnitRequest) {session : Session}
    (htrue : session.Truthful) {unit : StateUnit}
    (hload : session.unitNow request.unit = .ok unit) (state : String) :
    ∃ loaded, session.Keeps loaded ∧
      ((generator.generate { request with state := some state } false).run.run session).1 =
        Outcome.one <$> ((generator.test unit request false (some state)).run.run loaded).1 := by
  obtain ⟨loaded, hkeeps, hrun⟩ := run_forStates { request with state := some state }
    (fun unit => generator.test unit request false) htrue hload
  refine ⟨loaded, hkeeps, (congrArg Prod.fst hrun).trans ?_⟩
  rw [if_neg (by simp), run_map]
  rfl

theorem run_generate_many (generator : Generator) (request : UnitRequest) {session : Session}
    (htrue : session.Truthful) {unit : StateUnit}
    (hload : session.unitNow request.unit = .ok unit) (hmulti : unit.graph.isMultiState = true) :
    ∃ loaded, session.Keeps loaded ∧
      ((generator.generate { request with state := none } false).run.run session).1 =
        Outcome.many <$> (((statesWithSetup unit.graph).mapM fun state =>
          generator.test unit request false (some state)).run.run loaded).1 := by
  obtain ⟨loaded, hkeeps, hrun⟩ := run_forStates { request with state := none }
    (fun unit => generator.test unit request false) htrue hload
  refine ⟨loaded, hkeeps, (congrArg Prod.fst hrun).trans ?_⟩
  rw [if_pos (by simp [hmulti]), run_map]
  rfl

/-- The states of a unit asked for together give what they give when each is asked for by itself, in
whatever sessions; the first that fails is the one whose failure is seen. -/
theorem generate_eq_separate (files : FileTree)
    (environment projectRoot templatesDir : Option String) (calls : List Enquiry)
    (others : String → List Enquiry) (request : UnitRequest) :
    ∃ generator created,
      (create projectRoot templatesDir).run.run { files, templatesDir := environment } =
          (.ok generator, created) ∧
        ∀ unit, created.unitNow request.unit = .ok unit → unit.graph.isMultiState = true →
          ∃ single : String → Except Failure GeneratedTest,
            (∀ state,
              ((generator.generate { request with state := some state } false).run.run
                  (used generator created (others state))).1 = Outcome.one <$> single state) ∧
              ((generator.generate { request with state := none } false).run.run
                  (used generator created calls)).1 =
                Outcome.many <$> (statesWithSetup unit.graph).mapM single := by
  obtain ⟨generator, created, hcreate, htrue⟩ :=
    create_truthful projectRoot templatesDir (empty_truthful files environment)
  refine ⟨generator, created, hcreate, fun unit hload hmulti => ?_⟩
  have hused (calls : List Enquiry) :
      (used generator created calls).Truthful ∧
        (used generator created calls).unitNow request.unit = .ok unit := by
    have hkeeps := used_keeps generator created calls
    exact ⟨hkeeps.truthful htrue, by rw [hkeeps.project.unitNow, hload]⟩
  -- each call loads the unit anew and goes on in a session of its own
  choose loaded hloaded hone using fun state =>
    run_generate_one generator request (hused (others state)).1 (hused _).2 state
  obtain ⟨together, htogether, hmany⟩ :=
    run_generate_many generator request (hused calls).1 (hused _).2 hmulti
  refine ⟨_, hone, hmany.trans ?_⟩
  have halike (state : String) : together.Twins (loaded state) := by
    have htwins := (used_twins generator htrue calls (others state)).of_keeps htogether
    exact (htwins.symm.of_keeps (hloaded state)).symm
  rw [Reads.run_mapM (fun state => preview_readsOnly generator unit request (some state))
    Session.Twins.of_keeps _ halike]

/-- Two states that differ in name alone. -/
def twoStates : Entries :=
  [smallState "a" [] [], smallState "b" [] []]

theorem twoStates_loaded :
    ((((create none (some "templates")).run.run (smallProject twoStates)).2.unitNow
        (.parse "u.json")).toOption.map fun unit =>
      (unit.graph.isMultiState, statesWithSetup unit.graph)) = some (true, ["a", "b"]) := by
  decide +kernel

/-- Both states after an inspection of the unit, and each on its own after a preview of it. -/
theorem twoStates_separate :
    let request : UnitRequest := { unit := .parse "u.json" }
    ∃ generator created,
      (create none (some "templates")).run.run (smallProject twoStates) =
          (.ok generator, created) ∧
        ∃ unit, created.unitNow request.unit = .ok unit ∧ unit.graph.isMultiState = true ∧
          statesWithSetup unit.graph = ["a", "b"] ∧
          ∃ single : String → Except Failure GeneratedTest,
            (∀ state,
              ((generator.generate { request with state := some state } false).run.run
                  (used generator created [.preview { request with state := some state }])).1 =
                Outcome.one <$> single state) ∧
              ((generator.generate { request with state := none } false).run.run
                  (used generator created [.inspect request])).1 =
                Outcome.many <$> (statesWithSetup unit.graph).mapM single := by
  intro request
  obtain ⟨generator, created, hcreate, hseparate⟩ :=
    generate_eq_separate (smallProject twoStates).files none none (some "templates")
      [.inspect request] (fun state => [.preview { request with state := some state }]) request
  have hloaded := twoStates_loaded
  refine ⟨generator, created, hcreate, ?_⟩
  rw [show (create none (some "templates")).run.run (smallProject twoStates) =
    (.ok generator, created) from hcreate] at hloaded
  cases hunit : created.unitNow request.unit with
  | error failure =>
      rw [hunit] at hloaded
      cases hloaded
  | ok unit =>
      rw [hunit] at hloaded
      obtain ⟨hmulti, hstates⟩ := Prod.mk.inj (Option.some.inj hloaded)
      exact ⟨unit, rfl, hmulti, hstates, hseparate unit hunit hmulti⟩

end Generator

end ScreenFlow
