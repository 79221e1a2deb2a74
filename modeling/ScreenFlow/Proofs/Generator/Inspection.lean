import ScreenFlow.Proofs.Document.Summary
import ScreenFlow.Proofs.Generator.History

/-!
Inspecting what can be generated.  A test is made in some mode and for some place, an inspection in
the usual mode and for the usual place; the summaries are the same.
-/

namespace ScreenFlow

open Effect

theorem Compilation.run_follows {α β : Type} {L : Ledger → Ledger → Prop} {R : α → β → Prop}
    {task : Compilation α} {other : Compilation β}
    (hfollows : Follows (Desk.Twins Eq) (Desk.Twins L) R task other)
    (degradations : List Degradation) :
    Follows Session.Twins Session.Twins (fun first second => R first.1 second.1)
      (run task degradations) (run other degradations) := by
  intro first second htwins result after hrun
  have hdesks : Desk.Twins Eq { session := first, ledger := { degradations } }
      { session := second, ledger := { degradations } } := ⟨htwins, rfl⟩
  rw [run_run] at hrun
  cases hfirst : (ExceptT.run task).run { session := first, ledger := { degradations } } with
  | mk ending desk =>
      rw [hfirst] at hrun
      cases ending with
      | error failure => cases hrun
      | ok a =>
          cases hrun
          obtain ⟨b, last, hsecond, hab, hlast⟩ := hfollows _ _ hdesks a desk hfirst
          exact ⟨(b, last.ledger), last.session, by rw [run_run, hsecond], hab, hlast.session⟩

namespace Generator

theorem document_follows (generator : Generator) (unit : StateUnit) (request : UnitRequest)
    (state : Option String) (forceRaw : Bool) (outputDir : Option String) :
    Follows Session.Twins Session.Twins
      (fun first second => first.1.1.summary = second.1.1.summary)
      (generator.document unit request state)
      (generator.document unit { request with forceRaw, outputDir } state) := by
  have hcommission : Follows Session.Twins Session.Twins
      (fun first second : Commission => first.task = second.task ∧ first.sources = second.sources)
      (generator.commission unit request)
      (generator.commission unit { request with forceRaw, outputDir }) := by
    refine (Session.config_readsOnly _).steady.follows.bind ?_
    rintro config _ rfl
    refine .get_bind fun before another htwins => ?_
    dsimp only
    rw [htwins.project.files]
    refine (Work.ofExcept_readsOnly _).steady.follows.bind ?_
    rintro sources _ rfl
    exact .pure ⟨rfl, rfl⟩
  refine hcommission.bind fun first second hsame => ?_
  obtain ⟨htask, hsources⟩ := hsame
  rw [htask, hsources]
  exact Compilation.run_follows (Compilation.document_follows _ _ _ _ _ _) _

/-- A state whose test can be made can be inspected, with the summary of the test. -/
theorem preview_follows (generator : Generator) (unit : StateUnit) (request : UnitRequest)
    (state : Option String) (forceRaw : Bool) (outputDir : Option String) :
    Follows Session.Twins Session.Twins
      (fun (test : GeneratedTest) summary => summary = test.document.summary)
      (generator.test unit request false state)
      (do return (← generator.document unit { request with forceRaw, outputDir } state).1.1.summary)
      := by
  refine (document_follows generator unit request state forceRaw outputDir).bind
    fun first second hsummary => ?_
  refine .of_returns (((Work.ofExcept_readsOnly _).bind fun _ =>
    (TemplateSource.emit_readsOnly _ _ _).bind fun _ => .pure _).keeps) ?_ Session.Twins.of_keeps
  exact .bind (.any _) fun _ _ => .bind (.any _) fun _ _ => .pure hsummary.symm

theorem generate_follows_inspect (generator : Generator) (request : UnitRequest) :
    Follows Session.Twins Session.Twins
      (fun tests summaries => summaries = tests.map (·.document.summary))
      (generator.generate request false) (generator.inspect request) := by
  unfold generate inspect forStates
  refine (Session.reload_readsOnly _).steady.follows.bind ?_
  rintro unit _ rfl
  have hpreview := preview_follows generator unit request
  dsimp only
  split
  · refine (Follows.mapM (fun state => hpreview (some state) false none) _).bind
      fun tests summaries hall => .pure ?_
    have hmap : tests.map (·.document.summary) = summaries :=
      List.forall₂_eq_eq_eq ▸ List.forall₂_map_left_iff.mpr (hall.imp fun _ _ => Eq.symm)
    rw [← hmap]
    rfl
  · refine (hpreview request.state false none).bind fun test summary hsummary => .pure ?_
    rw [hsummary]
    rfl

/-- Whatever can be generated, in whatever mode and for whatever place, can be inspected, with the
summaries of the tests.  What was asked for before does not matter. -/
theorem inspect_eq_summaries (files : FileTree)
    (environment projectRoot templatesDir : Option String) (calls others : List Enquiry)
    (request : UnitRequest) :
    ∃ generator created,
      (create projectRoot templatesDir).run.run { files, templatesDir := environment } =
          (.ok generator, created) ∧
        ∀ tests,
          ((generator.generate request false).run.run (used generator created calls)).1 =
              .ok tests →
            ((generator.inspect { request with forceRaw := false, outputDir := none }).run.run
                (used generator created others)).1 = .ok (tests.map (·.document.summary)) := by
  obtain ⟨generator, created, hcreate, htrue⟩ :=
    create_truthful projectRoot templatesDir (empty_truthful files environment)
  refine ⟨generator, created, hcreate, fun tests htests => ?_⟩
  obtain ⟨summaries, after, hinspect, rfl, -⟩ :=
    generate_follows_inspect generator request _ _ (used_twins generator htrue calls others) tests _
      (Prod.ext htests rfl)
  exact congrArg Prod.fst hinspect

/-- A state with a screen, in the older form, on which one element is checked. -/
def shownState : Entries :=
  let named (fields : List (String × Value)) : Value :=
    .map (fields.map fun field => (.name field.1, field.2))
  let screen := named [("instance", .text "s"), ("visible", .text "t")]
  [smallState "a" [(.name "mirrorsOn", named [("UI", named [("Web", named [("s", screen)])])])] []]

def shownRequest : UnitRequest where
  unit := .parse "u.json"
  state := some "a"
  forceRaw := true
  outputDir := some "out"

/-- A preview by a new generator. -/
def newPreview (states : Entries) (request : UnitRequest) :
    Except Failure (Outcome GeneratedTest) :=
  match (create none (some "templates")).run.run (smallProject states) with
  | (.ok generator, created) => ((generator.generate request false).run.run created).1
  | (.error failure, _) => .error failure

theorem newPreview_eq {states : Entries} {generator : Generator} {created : Session}
    (hcreate : (create none (some "templates")).run.run (smallProject states) =
      (.ok generator, created)) (request : UnitRequest) :
    newPreview states request = ((generator.generate request false).run.run created).1 := by
  unfold newPreview
  rw [hcreate]

theorem shownState_raw :
    ((newPreview shownState shownRequest).toOption.map fun tests => tests.items.map fun test =>
      (test.document.screens.map (·.decision.mode),
        test.document.summary.references.map Reference.instanceName)) =
      some [([.raw], ["s"])] := by
  decide +kernel

/-- The state can be generated in raw mode for another directory, and inspected after that. -/
theorem shownState_summaries :
    ∃ generator created,
      (create none (some "templates")).run.run (smallProject shownState) =
          (.ok generator, created) ∧
        ∃ tests,
          ((generator.generate shownRequest false).run.run created).1 = .ok tests ∧
            ((generator.inspect { shownRequest with forceRaw := false, outputDir := none }).run.run
                (used generator created [.preview shownRequest])).1 =
              .ok (tests.map (·.document.summary)) := by
  obtain ⟨generator, created, hcreate, hinspect⟩ :=
    inspect_eq_summaries (smallProject shownState).files none none (some "templates")
      [] [.preview shownRequest] shownRequest
  have hpreview := shownState_raw
  rw [newPreview_eq hcreate] at hpreview
  cases hgenerate : ((generator.generate shownRequest false).run.run created).1 with
  | error failure =>
      rw [hgenerate] at hpreview
      cases hpreview
  | ok tests => exact ⟨generator, created, hcreate, tests, hgenerate, hinspect tests hgenerate⟩

end Generator

end ScreenFlow
