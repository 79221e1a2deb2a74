import ScreenFlow.Proofs.Document.Summary
import ScreenFlow.Proofs.Generator
import ScreenFlow.Proofs.Naming.Identifier

/-!
The function of a generated test.  The built-in template declares and exports it under the name of
the action; whether that name is an identifier is decided by the status and the previous state
alone.
-/

namespace ScreenFlow

open Effect Script

/-! The name in the text of the test. -/

namespace Template

theorem exists_of_render_append {context : Context} {first second : List Node} {text : String}
    (hrender : render context (first ++ second) = .ok text) :
    ∃ before after, render context first = .ok before ∧ render context second = .ok after ∧
      text = before ++ after := by
  induction first generalizing text with
  | nil => exact ⟨"", text, rfl, hrender, String.empty_append.symm⟩
  | cons node rest ih =>
      rw [List.cons_append, render] at hrender
      obtain ⟨start, hnode, hrender⟩ := exists_of_bind_eq_ok hrender
      obtain ⟨more, hmore, hrender⟩ := exists_of_bind_eq_ok hrender
      cases hrender
      obtain ⟨before, after, hbefore, hafter, rfl⟩ := ih hmore
      refine ⟨start ++ before, after, ?_, hafter, (String.append_assoc ..).symm⟩
      rw [render, hnode, hbefore]
      rfl

/-- A text of the context between two texts of the template. -/
def around (opening name closing : String) : List Node :=
  [.text opening, UnitTest.put name, .text closing]

theorem render_around {context : Context} {name value : String}
    (hvalue : context.lookup name = some (.text value)) (opening closing : String) :
    render context (around opening name closing) = .ok (opening ++ (value ++ closing)) := by
  have hname : renderNode context (UnitTest.put name) = .ok value := by
    rw [UnitTest.put, renderNode, valueOf, evaluate, lookup, hvalue]
    rfl
  simp only [around, render, renderNode, hname, bind, Except.bind, pure, Except.pure]
  rw [String.append_empty]

end Template

/-- The built-in template declares a function under the name and exports it last. -/
theorem Template.UnitTest.render_declares {document : Document} {code : String}
    (hrender : render document.context nodes = .ok code) :
    ∃ before between, code =
      before ++ ("async function " ++ (document.summary.actionName ++ "(")) ++ between ++
        ("module.exports = \x7b " ++ (document.summary.actionName ++ ", META \x7d;\n")) := by
  have hname : document.context.lookup "action_name" =
      some (.text document.summary.actionName) := rfl
  have hnodes : nodes = header ++ requires ++ functionHead.take 11 ++
      around "async function " "action_name" "(" ++
      (functionHead.drop 14 ++ statements ++ saving ++ cases.take 3) ++
      around "module.exports = \x7b " "action_name" ", META \x7d;\n" := rfl
  rw [hnodes] at hrender
  obtain ⟨start, exported, hstart, hexported, rfl⟩ := exists_of_render_append hrender
  obtain ⟨head, between, hhead, -, rfl⟩ := exists_of_render_append hstart
  obtain ⟨before, declared, -, hdeclared, rfl⟩ := exists_of_render_append hhead
  rw [render_around hname] at hdeclared hexported
  cases hdeclared
  cases hexported
  exact ⟨before, between, rfl⟩

/-! Summaries of tests. -/

/-- The action of the summary is named for the selected record of the unit. -/
def StateSummary.NamedFor (unit : StateUnit) (summary : StateSummary) : Prop :=
  ∃ record, unit.graph.selected unit.className summary.state = .ok record ∧
    summary.actionName = ScreenFlow.actionName (summary.status.getD "")
      (summary.primary.map (·.fromState)) record.info.actionOverride

namespace Compilation

theorem run_returns {α : Type} {Result : α → Prop} {task : Compilation α}
    (htask : Returns task Result) (degradations : List Degradation) :
    Returns (run task degradations) fun result => Result result.1 := by
  intro before result after hrun
  rw [run_run] at hrun
  cases hresult : (ExceptT.run task).run { session := before, ledger := { degradations } } with
  | mk ending desk =>
      rw [hresult] at hrun
      cases ending with
      | error failure => cases hrun
      | ok a =>
          cases hrun
          exact htask _ a desk hresult

theorem assemble_returns (task : Assignment) (record : StateRecord) (summary : StateSummary)
    (artifact : Path) (forceRaw : Bool) :
    Returns (assemble task record summary artifact forceRaw) fun document =>
      ∃ references, document.summary = { summary with references } := by
  unfold assemble
  exact .bind (.any _) fun _ _ => .bind (.any _) fun _ _ => .bind (.any _) fun _ _ =>
    .bind (.any _) fun _ _ => .bind (.any _) fun _ _ => .bind (.any _) fun _ _ =>
    .bind (.any _) fun _ _ => .pure ⟨_, rfl⟩

theorem extract_returns (task : Assignment) (sources : TransitionSources) (state : Option String)
    (record : StateRecord) (named : Option NamedTransition) :
    Returns (StateSummary.extract task sources state record named) fun summary =>
      ∃ incoming, summary = StateSummary.ofRecord task state record incoming :=
  .bind (.any _) fun incoming _ => .pure ⟨incoming, rfl⟩

theorem document_returns (task : Assignment) (sources : TransitionSources) (directory : Path)
    (request : StateRequest) :
    Returns (document task sources directory request) fun result =>
      result.1.summary.NamedFor task.unit := by
  unfold document
  rw [ofExcept_eq_lift]
  refine .bind (.lift fun record hrecord => hrecord) fun record hrecord => ?_
  refine .bind (extract_returns _ _ _ _ _) fun summary hsummary => ?_
  refine .bind (.any _) fun _ _ => ?_
  refine .bind (assemble_returns _ _ _ _ _) fun found hfound => .pure ?_
  obtain ⟨incoming, rfl⟩ := hsummary
  obtain ⟨references, hfound⟩ := hfound
  dsimp only
  rw [hfound]
  cases hselected : task.unit.graph.selected task.unit.className request.state with
  | error failure =>
      rw [hselected] at hrecord
      cases hrecord
  | ok selected =>
      rw [hselected] at hrecord
      cases hrecord
      exact ⟨record, hselected, rfl⟩

end Compilation

namespace Generator

variable (generator : Generator) (unit : StateUnit) (request : UnitRequest)

theorem document_returns (state : Option String) :
    Returns (generator.document unit request state) fun result =>
      result.1.1.summary.NamedFor unit := by
  have hcommission : Returns (generator.commission unit request) fun found =>
      found.task.unit = unit :=
    .bind (.any _) fun _ _ => .bind (.any _) fun _ _ => .bind (.any _) fun _ _ => .pure rfl
  refine .bind hcommission fun found hunit => ?_
  rw [← hunit]
  exact Compilation.run_returns (Compilation.document_returns _ _ _ _) _

theorem test_returns (writes : Bool) (state : Option String) :
    Returns (generator.test unit request writes state) fun test =>
      test.document.summary.NamedFor unit := by
  refine .bind (document_returns generator unit request state) fun found hfound => ?_
  refine .bind (.any _) fun _ _ => .bind (.any _) fun _ _ => ?_
  dsimp only
  split
  · exact .bind (.any _) fun _ _ => .pure hfound
  · exact .pure hfound

variable {generator request}

theorem namedFor_of_generate {writes : Bool} {session after : Session}
    {outcome : Outcome GeneratedTest}
    (hrun : (generator.generate request writes).run.run session = (.ok outcome, after)) :
    ∃ unit loaded, (Session.reload request.unit).run.run session = (.ok unit, loaded) ∧
      ∀ test ∈ outcome.items, test.document.summary.NamedFor unit := by
  have hitems : (Outcome.items <$> generator.generate request writes).run.run session =
      (.ok outcome.items, after) := by
    rw [run_map, hrun]
    rfl
  rw [generate, items_forStates] at hitems
  obtain ⟨unit, loaded, hload, hitems⟩ := exists_of_run_bind_eq_ok hitems
  exact ⟨unit, loaded, hload,
    Returns.mapM (test_returns generator unit request writes) _ _ _ _ hitems⟩

/-- Every test that is generated for a state without a name that overrides: its action is an
identifier exactly when the status and the previous state can name a function.  The built-in
template declares and exports a function of that name. -/
theorem generate_actionName_isIdentifier_iff {writes : Bool} {session after : Session}
    {outcome : Outcome GeneratedTest}
    (hrun : (generator.generate request writes).run.run session = (.ok outcome, after)) :
    ∃ unit loaded, (Session.reload request.unit).run.run session = (.ok unit, loaded) ∧
      ∀ test ∈ outcome.items, ∃ record,
        unit.graph.selected unit.className test.document.summary.state = .ok record ∧
        (record.info.actionOverride = none → ∀ others : Bool → Char → Bool,
          (Script.IsIdentifier others test.document.summary.actionName ↔
            NamesFunction others (test.document.summary.status.getD "")
              (test.document.summary.primary.map (·.fromState)))) ∧
        ∀ code, Template.render test.document.context Template.UnitTest.nodes = .ok code →
          ∃ before between, code =
            before ++ ("async function " ++ (test.document.summary.actionName ++ "(")) ++ between ++
              ("module.exports = \x7b " ++ (test.document.summary.actionName ++ ", META \x7d;\n"))
    := by
  obtain ⟨unit, loaded, hload, hitems⟩ := namedFor_of_generate hrun
  refine ⟨unit, loaded, hload, fun test htest => ?_⟩
  obtain ⟨record, hrecord, hname⟩ := hitems test htest
  refine ⟨record, hrecord, fun hoverride others => ?_, fun code =>
    Template.UnitTest.render_declares⟩
  rw [hname, hoverride]
  exact isIdentifier_actionName_iff _ _

/-- Two states without any transition; the name of the second is a reserved word. -/
def namedStates : Entries :=
  [smallState "in-draft" [] [], smallState "new" [] []]

/-- What the action of a test is named after, its name, and whether the built-in template can be
rendered for it. -/
def toldName (test : GeneratedTest) :
    Option String × Option String × Option String × String × Bool :=
  let summary := test.document.summary
  (summary.state, summary.status, summary.primary.map (·.fromState), summary.actionName,
    (Template.render test.document.context Template.UnitTest.nodes).isOk)

theorem namedStates_told :
    ((smallRun namedStates).1.toOption.map fun outcome => outcome.items.map toldName) =
      some [(some "in-draft", some "in-draft", none, "inDraft", true),
        (some "new", some "new", none, "new", true)] := by
  decide +kernel

theorem namedStates_overrides :
    ((Session.reload (.parse "u.json")).run.run (smallProject namedStates)).1.toOption.map
        (fun unit => ["in-draft", "new"].map fun name =>
          (unit.graph.selected unit.className (some name)).toOption.map (·.info.actionOverride)) =
      some [some none, some none] := by
  decide +kernel

theorem namedStates_run :
    ∃ outcome after draft new, smallRun namedStates = (.ok outcome, after) ∧
      outcome.items = [draft, new] ∧
      toldName draft = (some "in-draft", some "in-draft", none, "inDraft", true) ∧
      toldName new = (some "new", some "new", none, "new", true) := by
  have htold := namedStates_told
  cases hrun : smallRun namedStates with
  | mk result after =>
      rw [hrun] at htold
      cases result with
      | error failure => cases htold
      | ok outcome =>
          obtain ⟨draft, others, hitems, hdraft, hothers⟩ :=
            List.map_eq_cons_iff.mp (Option.some.inj htold)
          obtain ⟨new, rest, rfl, hnew, hrest⟩ := List.map_eq_cons_iff.mp hothers
          cases List.map_eq_nil_iff.mp hrest
          exact ⟨outcome, after, draft, new, rfl, hitems, hdraft, hnew⟩

theorem namedStates_override {unit : StateUnit} {loaded : Session}
    (hload : (Session.reload (.parse "u.json")).run.run (smallProject namedStates) =
      (.ok unit, loaded)) {name : String} (hname : name = "in-draft" ∨ name = "new")
    {record : StateRecord}
    (hrecord : unit.graph.selected unit.className (some name) = .ok record) :
    record.info.actionOverride = none := by
  have hoverrides := namedStates_overrides
  rw [hload] at hoverrides
  simp only [Except.toOption, Option.map_some, Option.some.injEq, List.map_cons, List.cons.injEq]
    at hoverrides
  rcases hname with rfl | rfl
  · have hfirst := hoverrides.1
    rw [hrecord] at hfirst
    exact Option.some.inj hfirst
  · have hsecond := hoverrides.2.1
    rw [hrecord] at hsecond
    exact Option.some.inj hsecond

theorem inDraft_namesFunction (others : Bool → Char → Bool) :
    NamesFunction others "in-draft" none := by
  have hruns : Naming.runs "in-draft".toList = [['i', 'n'], ['d', 'r', 'a', 'f', 't']] := by decide
  refine (namesFunction_iff_of_ascii (by simp) (by simp)).mpr
    ⟨?_, ?_, by simp, fun _ => by decide⟩
  · rw [hruns]
    rintro run ⟨⟩
    exact ⟨by rintro c ⟨⟩; rfl, List.forall_mem_singleton.mpr rfl⟩
  · rw [hruns, List.tail_cons, List.forall_mem_singleton]
    exact List.all_eq_true.mp rfl

theorem inDraft_isIdentifier :
    ∃ outcome after, smallRun namedStates = (.ok outcome, after) ∧ ∃ test ∈ outcome.items,
      test.document.summary.actionName = "inDraft" ∧
      (∀ others, Script.IsIdentifier others test.document.summary.actionName) ∧
      ∃ code before between,
        Template.render test.document.context Template.UnitTest.nodes = .ok code ∧ code =
          before ++ ("async function " ++ (test.document.summary.actionName ++ "(")) ++ between ++
            ("module.exports = \x7b " ++ (test.document.summary.actionName ++ ", META \x7d;\n"))
    := by
  obtain ⟨outcome, after, draft, new, hrun, hitems, hdraft, -⟩ := namedStates_run
  have hmem : draft ∈ outcome.items := hitems ▸ List.mem_cons_self
  simp only [toldName, Prod.mk.injEq] at hdraft
  obtain ⟨hstate, hstatus, hprimary, hname, hrendered⟩ := hdraft
  obtain ⟨unit, loaded, hload, htests⟩ := generate_actionName_isIdentifier_iff hrun
  obtain ⟨record, hrecord, hiff, hcode⟩ := htests draft hmem
  rw [hstate] at hrecord
  obtain ⟨code, hrender⟩ := exists_of_isOk hrendered
  obtain ⟨before, between, hbetween⟩ := hcode code hrender
  refine ⟨outcome, after, hrun, draft, hmem, hname, fun others => ?_, code, before, between,
    hrender, hbetween⟩
  rw [hiff (namedStates_override hload (.inl rfl) hrecord) others, hstatus, hprimary]
  exact inDraft_namesFunction others

theorem not_generate_actionName_isIdentifier :
    ¬ ∀ (generator : Generator) (request : UnitRequest) (writes : Bool) (session after : Session)
      (outcome : Outcome GeneratedTest) (unit : StateUnit) (loaded : Session),
      (generator.generate request writes).run.run session = (.ok outcome, after) →
      (Session.reload request.unit).run.run session = (.ok unit, loaded) →
      ∀ test ∈ outcome.items, ∀ record,
        unit.graph.selected unit.className test.document.summary.state = .ok record →
        record.info.actionOverride = none →
        ∃ others, Script.IsIdentifier others test.document.summary.actionName := by
  intro hall
  obtain ⟨outcome, after, draft, new, hrun, hitems, -, hnew⟩ := namedStates_run
  have hmem : new ∈ outcome.items := hitems ▸ List.mem_cons_of_mem _ List.mem_cons_self
  simp only [toldName, Prod.mk.injEq] at hnew
  obtain ⟨hstate, -, -, hname, -⟩ := hnew
  obtain ⟨unit, loaded, hload, htests⟩ := namedFor_of_generate hrun
  obtain ⟨record, hrecord, -⟩ := htests new hmem
  have hoverride : record.info.actionOverride = none :=
    namedStates_override hload (.inr rfl) (hstate ▸ hrecord)
  obtain ⟨others, hidentifier⟩ :=
    hall _ _ _ _ _ _ unit loaded hrun hload new hmem record hrecord hoverride
  rw [hname] at hidentifier
  exact hidentifier.free (by decide)

end Generator

end ScreenFlow
