import ScreenFlow.Document.Extraction
import ScreenFlow.Proofs.Effect
import ScreenFlow.Proofs.Naming.Words
import ScreenFlow.Proofs.Project.Path

/-!
The name of a test file.  A name that the state declares loses its directories; one that is made
from the action, the event and the platform keeps every slash of what it is made from.
-/

namespace ScreenFlow

/-! A name that is made. -/

/-- The texts that the name of an action is made from. -/
def actionSources (target : String) (fromState override : Option String) : List String :=
  match fromState.filter (· != "") with
  | some state => [target, state]
  | none => [(override.filter (· != "")).getD target]

theorem slash_mem_pascalCase (text : String) :
    '/' ∈ (pascalCase text).toList ↔ '/' ∈ text.toList := by
  rw [pascalCase, String.toList_ofList]
  exact Naming.mem_pascal_iff (by decide) (by decide) text.toList

theorem slash_mem_camelCase (text : String) :
    '/' ∈ (camelCase text).toList ↔ '/' ∈ text.toList := by
  rw [camelCase, String.toList_ofList]
  exact Naming.mem_camel_iff (by decide) (by decide) text.toList

theorem slash_mem_eventPart (event : String) :
    '/' ∈ (eventPart event).toList ↔ '/' ∈ event.toList := by
  rw [eventPart, upperText, String.toList_ofList, Text.mem_upper_iff (by decide), replaceChar,
    String.toList_ofList, List.mem_flatMap]
  constructor
  · rintro ⟨c, hc, hmem⟩
    split at hmem
    · cases hmem
    · rwa [List.mem_singleton.mp hmem]
  · intro hmem
    exact ⟨'/', hmem, by simp⟩

theorem slash_mem_actionName (target : String) (fromState override : Option String) :
    '/' ∈ (actionName target fromState override).toList ↔
      ∃ text ∈ actionSources target fromState override, '/' ∈ text.toList := by
  unfold actionName actionSources
  cases fromState.filter (· != "") with
  | some state => simp [slash_mem_camelCase, slash_mem_pascalCase]
  | none =>
      cases override.filter (· != "") with
      | some name => simp
      | none => simp [slash_mem_camelCase]

theorem mem_toList_intercalate {c : Char} {separator : String} (hc : c ∉ separator.toList)
    (texts : List String) :
    c ∈ (separator.intercalate texts).toList ↔ ∃ text ∈ texts, c ∈ text.toList := by
  induction texts with
  | nil => simp
  | cons text rest ih =>
      cases rest with
      | nil => simp
      | cons next others =>
          rw [String.intercalate_cons_cons, String.toList_append, String.toList_append,
            List.mem_append, List.mem_append, ih]
          simp [hc]

theorem slash_mem_specFileName (action suffix : String) (event : Option String) :
    '/' ∈ (specFileName action suffix event specExtension).toList ↔
      ∃ text ∈ action :: event.toList ++ [suffix], '/' ∈ text.toList := by
  have hending : '/' ∉ "-UNIT.".toList ∧ '/' ∉ specExtension.toList := by decide
  unfold specFileName
  rw [String.toList_append, String.toList_append, List.mem_append, List.mem_append,
    mem_toList_intercalate (by decide)]
  cases event with
  | none => simp [hending, slash_mem_pascalCase]
  | some event =>
      by_cases hempty : event = ""
      · simp [hending, slash_mem_pascalCase, hempty]
      · simp [hending, slash_mem_pascalCase, slash_mem_eventPart, Option.filter, hempty]

theorem specFileName_isName_iff (action suffix : String) (event : Option String) :
    Path.IsName (specFileName action suffix event specExtension) ↔
      ∀ text ∈ action :: event.toList ++ [suffix], '/' ∉ text.toList := by
  have hcapital : 'U' ∈ (specFileName action suffix event specExtension).toList := by
    unfold specFileName
    rw [String.toList_append, String.toList_append]
    exact List.mem_append_left _ (List.mem_append_right _ (by decide))
  have hother {text : String} (htext : 'U' ∉ text.toList) :
      specFileName action suffix event specExtension ≠ text := by
    rintro rfl
    exact htext hcapital
  rw [Path.isName_iff, slash_mem_specFileName]
  constructor
  · rintro ⟨-, hslash, -⟩ text hmem htext
    exact hslash ⟨text, hmem, htext⟩
  · intro hall
    refine ⟨hother (by decide), ?_, hother (by decide), hother (by decide)⟩
    rintro ⟨text, hmem, htext⟩
    exact hall text hmem htext

/-! A name that is declared. -/

theorem isName_declaredFile_iff {info : StateMeta} {name : String}
    (hdeclared : info.declaredFile = some name) : Path.IsName name ↔ name ≠ ".." := by
  refine ⟨Path.IsName.ne_dots, fun hdots => ?_⟩
  obtain ⟨hname, hfilled⟩ := Option.filter_eq_some_iff.mp hdeclared
  obtain ⟨text, -, rfl⟩ := Option.map_eq_some_iff.mp hname
  unfold Path.name at hfilled hdots ⊢
  cases hlast : (Path.parse (forwardSlashes text)).parts.getLast? with
  | none => simp [hlast] at hfilled
  | some part =>
      rw [hlast] at hdots
      exact Path.isName_of_mem_parse (List.mem_of_getLast? hlast) hdots

/-! The name in a summary. -/

namespace StateSummary

/-- The texts that the name of a test file is made from when the state declares none. -/
def fileSources (task : Assignment) (state : Option String) (record : StateRecord)
    (primary : Option Transition) : List String :=
  actionSources ((task.unit.graph.selectedStatus record state).getD "")
      (primary.map (·.fromState)) record.info.actionOverride ++
    (primary.map (·.event)).toList ++ [task.spec.suffix]

theorem ofRecord_testFileName_isName_iff (task : Assignment) (state : Option String)
    (record : StateRecord) (incoming : IncomingTransitions) :
    Path.IsName (ofRecord task state record incoming).testFileName ↔
      match record.info.declaredFile with
      | some name => name ≠ ".."
      | none => ∀ text ∈ fileSources task state record incoming.primary, '/' ∉ text.toList := by
  unfold ofRecord
  dsimp only
  cases hdeclared : record.info.declaredFile with
  | some name => exact isName_declaredFile_iff hdeclared
  | none =>
      simp only [fileSources, Option.getD_none, specFileName_isName_iff, List.forall_mem_append,
        List.forall_mem_cons, slash_mem_actionName, not_exists, not_and]

theorem extract_testFileName_isName_iff {task : Assignment} {sources : TransitionSources}
    {state : Option String} {record : StateRecord} {named : Option NamedTransition}
    {desk after : Desk} {summary : StateSummary}
    (hrun : (ExceptT.run (extract task sources state record named)).run desk =
      (.ok summary, after)) :
    (Path.IsName summary.testFileName ↔
      match record.info.declaredFile with
      | some name => name ≠ ".."
      | none => ∀ text ∈ fileSources task state record summary.primary, '/' ∉ text.toList) ∧
    (Path.IsName summary.testFileName → ∀ directory : Path,
      directory.child summary.testFileName =
        { directory with parts := directory.parts ++ [summary.testFileName] }) := by
  obtain ⟨incoming, between, -, hrest⟩ := Effect.exists_of_run_bind_eq_ok hrun
  cases hrest
  exact ⟨ofRecord_testFileName_isName_iff task state record incoming, Path.child_of_isName⟩

/-- A task on a unit of one state that declares its status alone. -/
def statusTask (status : String) : Assignment where
  unit := {
    className := "U", path := .absolute ["u.json"]
    graph := { root := { info := { status } } }
    strategy := .json, projectRoot := .absolute [] }
  platform := "web"
  spec := .default "web"
  config := {}
  projectRoot := .absolute []

def statusRun (status : String) (named : Option NamedTransition) :
    Except Failure StateSummary × Desk :=
  (ExceptT.run (extract (statusTask status)
    { locator := { unitsDir := .absolute [], registry := [] } } none
    (statusTask status).unit.graph.root named)).run { session := { files := {} } }

/-- The transition is not declared anywhere, so that its two ends are all that is known. -/
theorem slashedEvent_isOk : (statusRun "done" (some ⟨"GO/ON", "draft"⟩)).1.isOk = true := by
  decide +kernel

theorem slashedEvent_isName_iff :
    ∃ task sources record named desk summary after,
      (ExceptT.run (extract task sources none record named)).run desk = (.ok summary, after) ∧
      (Path.IsName summary.testFileName ↔
        match record.info.declaredFile with
        | some name => name ≠ ".."
        | none => ∀ text ∈ fileSources task none record summary.primary, '/' ∉ text.toList) ∧
      (Path.IsName summary.testFileName → ∀ directory : Path,
        directory.child summary.testFileName =
          { directory with parts := directory.parts ++ [summary.testFileName] }) := by
  have hok := slashedEvent_isOk
  cases hrun : statusRun "done" (some ⟨"GO/ON", "draft"⟩) with
  | mk result after =>
      rw [hrun] at hok
      cases result with
      | error failure => cases hok
      | ok summary =>
          exact ⟨_, _, _, _, _, summary, after, hrun, extract_testFileName_isName_iff hrun⟩

theorem not_isName_slashedStatus :
    ¬ ∀ task sources state record named desk summary after,
      (ExceptT.run (extract task sources state record named)).run desk = (.ok summary, after) →
        Path.IsName summary.testFileName := by
  intro hall
  have hname := hall (statusTask "a/b") _ none _ none _ _ _ (show statusRun "a/b" none = _ from rfl)
  exact absurd hname.noSlash (by decide +kernel)

end StateSummary

end ScreenFlow
