import ScreenFlow.Generator
import ScreenFlow.Proofs.Project.Lookup

/-!
A test is compiled by reading alone: units, settings and templates are read and remembered,
references are looked up, and the files stay as they are.  What is found depends on the files and
not on what is remembered of them.
-/

namespace ScreenFlow

open Effect

variable {α : Type}

/-! Work in a session. -/

namespace Work

theorem ReadsOnly.files_eq {work : Work α} (hreads : work.ReadsOnly) (session : Session) :
    (work.run.run session).2.files = session.files :=
  (hreads.keeps session).project.files

theorem ofExcept_readsOnly (result : Except Failure α) : ReadsOnly (ofExcept result) :=
  ofExcept_reads result

end Work

theorem TemplateSource.emit_readsOnly (source : TemplateSource) (name : String)
    (context : Template.Context) : Work.ReadsOnly (source.emit name context) :=
  (template_readsOnly source name).bind fun _ => Work.ofExcept_readsOnly _

theorem Locator.locate_readsOnly (locator : Locator) (status : String) :
    Work.ReadsOnly (locator.locate status) :=
  locator.locate_reads Session.unit_readsOnly (fun _ _ htwins => htwins.project.files.symm) status

/-! Compilations. -/

namespace Desk

def Keeps (before after : Desk) : Prop :=
  before.session.Keeps after.session

instance : Std.Refl Keeps where
  refl desk := refl_of Session.Keeps desk.session

instance : IsTrans Desk Keeps where
  trans _ _ _ hfirst hsecond := trans_of Session.Keeps hfirst hsecond

/-- The sessions are twins, and the ledgers are alike in the way that `L` says. -/
structure Twins (L : Ledger → Ledger → Prop) (first second : Desk) : Prop where
  session : first.session.Twins second.session
  ledger : L first.ledger second.ledger

end Desk

namespace Compilation

/-- A compilation that reads the project; what it records depends on what was recorded before. -/
abbrev ReadsOnly (task : Compilation α) : Prop := Reads Desk.Keeps (Desk.Twins Eq) task

theorem ofWork_readsOnly {work : Work α} (hwork : Work.ReadsOnly work) :
    ReadsOnly (ofWork work) where
  keeps desk := hwork.keeps desk.session
  steady first second htwins := by
    obtain ⟨hresult, hafter⟩ := hwork.steady first.session second.session htwins.session
    exact ⟨hresult, hafter, htwins.ledger⟩

theorem ofCompile_readsOnly (task : Compile α) : ReadsOnly (ofCompile task) where
  keeps desk := refl_of Session.Keeps desk.session
  steady first second htwins := by
    obtain ⟨hsession, hledger⟩ := htwins
    change (task.run first.ledger).1 = (task.run second.ledger).1 ∧
      Desk.Twins Eq { first with ledger := (task.run first.ledger).2 }
        { second with ledger := (task.run second.ledger).2 }
    rw [hledger]
    exact ⟨rfl, hsession, rfl⟩

theorem ofExcept_readsOnly (result : Except Failure α) : ReadsOnly (ofExcept result) :=
  ofExcept_reads result

theorem degrade_readsOnly (component subject fallback : String) (alternatives : List String) :
    ReadsOnly (degrade component subject fallback alternatives) :=
  ofCompile_readsOnly _

theorem files_readsOnly : ReadsOnly files :=
  .get_bind (fun _ => .pure _) fun _ _ htwins => by rw [htwins.session.project.files]

theorem run_run (task : Compilation α) (degradations : List Degradation) (session : Session) :
    (Compilation.run task degradations).run.run session =
      match ExceptT.run task |>.run { session, ledger := { degradations } } with
      | (.ok a, desk) => (.ok (a, desk.ledger), desk.session)
      | (.error failure, desk) => (.error failure, desk.session) := by
  unfold Compilation.run
  rw [Effect.run_bind, Effect.run_get]
  dsimp only
  cases ExceptT.run task |>.run { session, ledger := { degradations } } with
  | mk result desk => cases result <;> rfl

theorem run_readsOnly {task : Compilation α} (htask : ReadsOnly task)
    (degradations : List Degradation) : Work.ReadsOnly (run task degradations) := by
  have hkeeps : Moves Session.Keeps (run task degradations) := by
    intro session
    have hdesk := htask.keeps { session, ledger := { degradations } }
    rw [run_run]
    cases hrun : ExceptT.run task |>.run { session, ledger := { degradations } } with
    | mk result desk =>
        rw [hrun] at hdesk
        cases result with
        | ok a => exact hdesk
        | error failure => exact hdesk
  refine .of_result hkeeps fun first second htwins => ?_
  obtain ⟨hresult, hafter⟩ := htask.steady { session := first, ledger := { degradations } }
    { session := second, ledger := { degradations } } ⟨htwins, rfl⟩
  rw [run_run, run_run]
  cases hfirst : ExceptT.run task |>.run { session := first, ledger := { degradations } } with
  | mk result desk =>
      cases hsecond : ExceptT.run task |>.run
          { session := second, ledger := { degradations } } with
      | mk other last =>
          rw [hfirst, hsecond] at hresult hafter
          dsimp only at hresult hafter
          rw [← hresult]
          cases result with
          | ok a => exact congrArg (fun ledger => Except.ok (a, ledger)) hafter.ledger
          | error failure => rfl

end Compilation

namespace Incoming

theorem candidates_readsOnly (task : Assignment) (sources : TransitionSources) (state : String) :
    Work.ReadsOnly (candidates task sources state) :=
  (sources.locator.locate_readsOnly state).bind fun located =>
    .get_bind (fun _ => .pure _) fun first second htwins => by
      simp only [htwins.project.files]

theorem noteDifferences_readsOnly (named : NamedTransition) (target platform : String)
    (found : Transition) :
    Compilation.ReadsOnly (noteDifferences named target platform found) := by
  unfold noteDifferences
  dsimp only
  split
  · refine (Compilation.degrade_readsOnly _ _ _ _).bind fun _ => ?_
    split
    · exact Compilation.degrade_readsOnly _ _ _ _
    · exact .pure _
  · split
    · exact Compilation.degrade_readsOnly _ _ _ _
    · exact .pure _

theorem ofNamed_readsOnly (task : Assignment) (sources : TransitionSources)
    (named : NamedTransition) (target : String) :
    Compilation.ReadsOnly (ofNamed task sources named target) := by
  refine (Compilation.ofWork_readsOnly (candidates_readsOnly task sources _)).bind fun paths =>
    (Compilation.ofWork_readsOnly
      (firstDeclaring_reads Session.reload_readsOnly _ _ paths)).bind fun found => ?_
  split
  · exact (noteDifferences_readsOnly named target _ _).bind fun _ => .pure _
  · exact (Compilation.degrade_readsOnly _ _ _ _).bind fun _ => .pure _

theorem ofEntry_readsOnly (task : Assignment) (sources : TransitionSources)
    (entry : IndexEntry) : Compilation.ReadsOnly (ofEntry task sources entry) := by
  refine (Compilation.ofExcept_readsOnly _).bind fun source =>
    (Compilation.ofWork_readsOnly (sources.locator.locate_readsOnly _)).bind fun located =>
    (Compilation.ofWork_readsOnly
      (firstDeclaring_reads Session.unit_readsOnly _ _ _)).bind fun found => ?_
  split
  · exact .pure _
  · exact (Compilation.degrade_readsOnly _ _ _ _).bind fun _ => Compilation.ofExcept_readsOnly _

theorem choosePrimary_readsOnly (target : String) (transitions : List Transition)
    (previous : Option String) :
    Compilation.ReadsOnly (choosePrimary target transitions previous) := by
  unfold choosePrimary
  dsimp only
  split
  · exact .pure _
  · exact .pure _
  · exact .pure _
  · exact (Compilation.degrade_readsOnly _ _ _ _).bind fun _ => .pure _

theorem found_readsOnly (task : Assignment) (sources : TransitionSources) (target : String) :
    Compilation.ReadsOnly (found task sources target) := by
  refine .bind (.mapM (ofEntry_readsOnly task sources) _) fun transitions => ?_
  split
  · dsimp only
    split
    · exact .pure _
    · exact .pure _
  · exact .pure _

theorem resolve_readsOnly (task : Assignment) (sources : TransitionSources) (target : String)
    (named : Option NamedTransition) (previous : Option String) :
    Compilation.ReadsOnly (resolve task sources target named previous) := by
  unfold resolve
  split
  · exact (ofNamed_readsOnly task sources _ target).bind fun _ => .pure _
  · exact (found_readsOnly task sources target).bind fun _ =>
      (choosePrimary_readsOnly target _ previous).bind fun _ => .pure _

end Incoming

theorem StateSummary.extract_readsOnly (task : Assignment) (sources : TransitionSources)
    (state : Option String) (record : StateRecord) (named : Option NamedTransition) :
    Compilation.ReadsOnly (extract task sources state record named) :=
  (Incoming.resolve_readsOnly task sources _ named _).bind fun _ => .pure _

namespace Compilation

theorem reference_readsOnly (task : Assignment) (artifact : Path) (target platform : String) :
    ReadsOnly (reference task artifact target platform) := by
  refine files_readsOnly.bind fun tree => (ofExcept_readsOnly _).bind fun found => ?_
  split
  · exact .pure _
  · exact (degrade_readsOnly _ _ _ _).bind fun _ => .pure _

theorem helperReference_readsOnly (task : Assignment) (artifact : Path) :
    ReadsOnly (helperReference task artifact) := by
  refine files_readsOnly.bind fun tree => ?_
  dsimp only
  split
  · exact .pure _
  · exact (degrade_readsOnly _ _ _ _).bind fun _ => .pure _

theorem importOf_readsOnly (task : Assignment) (artifact : Path) (reference : Reference) :
    ReadsOnly (importOf task artifact reference) :=
  (reference_readsOnly task artifact _ _).bind fun _ => .pure _

theorem assemble_readsOnly (task : Assignment) (record : StateRecord) (summary : StateSummary)
    (artifact : Path) (forceRaw : Bool) :
    ReadsOnly (assemble task record summary artifact forceRaw) := by
  refine (ofCompile_readsOnly _).bind fun _ => (ofCompile_readsOnly _).bind fun _ =>
    (ofExcept_readsOnly _).bind fun _ => (ofCompile_readsOnly _).bind fun _ =>
    .get_bind (fun desk => ?_) fun first second htwins => by rw [htwins.ledger]
  exact (Reads.mapM (importOf_readsOnly task artifact) _).bind fun _ =>
    (helperReference_readsOnly task artifact).bind fun _ => .pure _

theorem document_readsOnly (task : Assignment) (sources : TransitionSources) (directory : Path)
    (request : StateRequest) : ReadsOnly (document task sources directory request) :=
  (ofExcept_readsOnly _).bind fun record =>
    (StateSummary.extract_readsOnly task sources _ record _).bind fun _ =>
    (ofExcept_readsOnly _).bind fun _ =>
    (assemble_readsOnly task record _ _ _).bind fun _ => .pure _

end Compilation

namespace Generator

theorem commission_readsOnly (generator : Generator) (unit : StateUnit) (request : UnitRequest) :
    Work.ReadsOnly (generator.commission unit request) :=
  (Session.config_readsOnly _).bind fun _ =>
    .get_bind (fun _ => (Work.ofExcept_readsOnly _).bind fun _ => .pure _)
      fun first second htwins => by simp only [htwins.project.files]

theorem document_readsOnly (generator : Generator) (unit : StateUnit) (request : UnitRequest)
    (state : Option String) : Work.ReadsOnly (generator.document unit request state) :=
  (commission_readsOnly generator unit request).bind fun _ =>
    Compilation.run_readsOnly (Compilation.document_readsOnly _ _ _ _) _

end Generator

end ScreenFlow
