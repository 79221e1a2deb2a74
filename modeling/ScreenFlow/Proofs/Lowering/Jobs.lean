import ScreenFlow.Lowering.Steps
import ScreenFlow.Proofs.Lowering.Screen

/-!
Whatever is compiled for one test works on one ledger: references, lists of steps and screens, in
any order.  A job that fails leaves the ledger to the jobs after it.

A test declares each of its references as a constant.  Steps never ask for a name that is in use,
but references and screens are only compared by class: the names of a test stay apart just when
each of these comes in under a known class or under a free name.
-/

namespace ScreenFlow

namespace Lowering

/-! Steps. -/

def CallsOther (step : Step) (app : String) : Prop :=
  step.object ∉ ModeDecision.selfNames ∧ step.object ≠ app

instance (step : Step) (app : String) : Decidable (CallsOther step app) :=
  inferInstanceAs (Decidable (_ ∧ _))

def stepReference (step : Step) : Reference :=
  { className := pascalCase step.object, varName := some step.object }

theorem stepReference_instanceName {step : Step} {app : String} (hother : CallsOther step app) :
    (stepReference step).instanceName = step.object :=
  Reference.instanceName_of_varName (ne_empty_of_not_self hother.1) rfl

end Lowering

namespace Ledger

open Lowering

/-- The ledger after a step: the object that the step calls is there, or its class is. -/
def addStep (app : String) (ledger : Ledger) (step : Step) : Ledger :=
  if CallsOther step app ∧ ledger.hasInstance step.object = false then
    ledger.add (stepReference step)
  else ledger

theorem addStep_grows (app : String) (ledger : Ledger) (step : Step) :
    ledger.Grows (ledger.addStep app step) := by
  unfold addStep
  split
  · exact add_grows ledger (stepReference step)
  · exact refl_of Grows ledger

theorem addSteps_grows (app : String) (ledger : Ledger) (steps : List Step) :
    ledger.Grows (steps.foldl (addStep app) ledger) := by
  induction steps generalizing ledger with
  | nil => exact refl_of Grows ledger
  | cons step rest ih =>
      exact trans_of Grows (addStep_grows app ledger step) (ih (ledger.addStep app step))

theorem addStep_distinctNames {app : String} {ledger : Ledger} (hdistinct : ledger.DistinctNames)
    (step : Step) : (ledger.addStep app step).DistinctNames := by
  unfold addStep
  split
  · next hnew =>
      apply (add_distinctNames_iff hdistinct (stepReference step)).mpr
      right
      rw [stepReference_instanceName hnew.1]
      exact hnew.2
  · exact hdistinct

theorem addSteps_distinctNames {app : String} {ledger : Ledger}
    (hdistinct : ledger.DistinctNames) (steps : List Step) :
    (steps.foldl (addStep app) ledger).DistinctNames := by
  induction steps generalizing ledger with
  | nil => exact hdistinct
  | cons step rest ih => exact ih (addStep_distinctNames hdistinct step)

end Ledger

namespace Lowering

theorem run_registerObject (step : Step) (app : String) (ledger : Ledger) :
    (registerObject step app).run ledger = (.ok (), ledger.addStep app step) := by
  have hother : (ModeDecision.selfNames.contains step.object || step.object = app ||
      ledger.hasInstance step.object) = true ↔
        ¬(CallsOther step app ∧ ledger.hasInstance step.object = false) := by
    simp only [CallsOther, List.contains_eq_mem, Bool.or_eq_true, decide_eq_true_eq,
      ← Bool.not_eq_true]
    tauto
  unfold registerObject Compile.run Ledger.addStep
  rw [Effect.run_bind]
  simp only [Effect.run_get, hother]
  by_cases hnew : CallsOther step app ∧ ledger.hasInstance step.object = false
  · rw [if_neg (not_not_intro hnew), if_pos hnew]
    rfl
  · rw [if_pos hnew, if_neg hnew]
    rfl

/-- The lines of each step. -/
def stepGroups (app : String) (fields : List String) (earlier : List Step) :
    List Step → List (List String)
  | [] => []
  | step :: rest =>
      stepLines step app (Scope.ofSteps earlier ++ Scope.ofFields fields) ::
        stepGroups app fields (earlier ++ [step]) rest

/-- Lowering steps never fails; it registers what the steps ask for, one by one. -/
theorem run_stepsFrom (earlier : List Step) (app : String) (fields : List String)
    (steps : List Step) (ledger : Ledger) :
    (stepsFrom earlier app fields steps).run ledger =
      (.ok (stepGroups app fields earlier steps).flatten,
        steps.foldl (Ledger.addStep app) ledger) := by
  induction steps generalizing earlier ledger with
  | nil => rfl
  | cons step rest ih =>
      have hrest := ih (earlier ++ [step]) (ledger.addStep app step)
      have hfirst := run_registerObject step app ledger
      unfold Compile.run at hrest hfirst
      unfold stepsFrom Compile.run
      simp only [Effect.run_bind, hfirst, hrest, Effect.run_pure, List.foldl_cons, stepGroups,
        List.flatten_cons]

/-! Jobs. -/

inductive Job where
  | reference (reference : Reference)
  | steps (steps : List Step) (app : String) (fields : List String)
  | screen (screen : Screen) (options : Options)

def runJob (ledger : Ledger) : Job → Ledger
  | .reference wanted => ledger.add wanted
  | .steps steps app fields => ((Lowering.steps steps app fields).run ledger).2
  | .screen screen options => ((Lowering.screen screen options).run ledger).2

def runJobs (ledger : Ledger) (jobs : List Job) : Ledger :=
  jobs.foldl runJob ledger

theorem runJob_steps (steps : List Step) (app : String) (fields : List String) (ledger : Ledger) :
    runJob ledger (.steps steps app fields) = steps.foldl (Ledger.addStep app) ledger := by
  exact congrArg Prod.snd (run_stepsFrom [] app fields steps ledger)

/-- The references of the plan that a screen is lowered to; none when it cannot be lowered. -/
def planReferences (screen : Screen) (options : Options) (ledger : Ledger) : List Reference :=
  match ((Lowering.screen screen options).run ledger).1 with
  | .ok plan => plan.references
  | .error _ => []

theorem runJob_screen (screen : Screen) (options : Options) (ledger : Ledger) :
    (ledger.addAll (planReferences screen options ledger)).SameReferences
      (runJob ledger (.screen screen options)) := by
  change (ledger.addAll (planReferences screen options ledger)).SameReferences
    ((Lowering.screen screen options).run ledger).2
  unfold planReferences
  cases hrun : (Lowering.screen screen options).run ledger with
  | mk result after =>
      cases result with
      | ok plan => exact (screen_ok hrun).1
      | error failure => exact screen_error hrun

theorem runJob_grows (job : Job) (ledger : Ledger) : ledger.Grows (runJob ledger job) := by
  cases job with
  | reference wanted => exact ledger.add_grows wanted
  | steps steps app fields =>
      rw [runJob_steps]
      exact ledger.addSteps_grows app steps
  | screen screen options =>
      unfold Ledger.Grows
      rw [runJob_screen screen options ledger]
      exact ledger.addAll_grows (planReferences screen options ledger)

theorem runJobs_grows (jobs : List Job) (ledger : Ledger) :
    ledger.Grows (runJobs ledger jobs) := by
  induction jobs generalizing ledger with
  | nil => exact refl_of Ledger.Grows ledger
  | cons job rest ih =>
      exact trans_of Ledger.Grows (runJob_grows job ledger) (ih (runJob ledger job))

/-! Names of references that stay apart. -/

/-- The references of a job keep the names apart; steps always do. -/
def JobFits (ledger : Ledger) : Job → Prop
  | .reference wanted => ledger.Fits wanted
  | .steps _ _ _ => True
  | .screen screen options => ledger.FitsAll (planReferences screen options ledger)

/-- Each job fits when its turn comes. -/
def JobsFit : Ledger → List Job → Prop
  | _, [] => True
  | ledger, job :: rest => JobFits ledger job ∧ JobsFit (runJob ledger job) rest

theorem runJob_distinctNames_iff {ledger : Ledger} (hdistinct : ledger.DistinctNames)
    (job : Job) : (runJob ledger job).DistinctNames ↔ JobFits ledger job := by
  cases job with
  | reference wanted => exact Ledger.add_distinctNames_iff hdistinct wanted
  | steps steps app fields =>
      rw [runJob_steps]
      exact iff_of_true (Ledger.addSteps_distinctNames hdistinct steps) trivial
  | screen screen options =>
      rw [(runJob_screen screen options ledger).distinctNames_iff]
      exact Ledger.addAll_distinctNames_iff hdistinct (planReferences screen options ledger)

theorem distinctNames_of_runJobs {ledger : Ledger} {jobs : List Job}
    (hdistinct : (runJobs ledger jobs).DistinctNames) : ledger.DistinctNames :=
  hdistinct.of_grows (runJobs_grows jobs ledger)

theorem runJobs_distinctNames_iff_of_distinctNames {ledger : Ledger}
    (hdistinct : ledger.DistinctNames) (jobs : List Job) :
    (runJobs ledger jobs).DistinctNames ↔ JobsFit ledger jobs := by
  induction jobs generalizing ledger with
  | nil => exact iff_of_true hdistinct trivial
  | cons job rest ih =>
      constructor
      · intro hall
        have hjob : (runJob ledger job).DistinctNames := distinctNames_of_runJobs hall
        exact ⟨(runJob_distinctNames_iff hdistinct job).mp hjob, (ih hjob).mp hall⟩
      · rintro ⟨hfits, hrest⟩
        exact (ih ((runJob_distinctNames_iff hdistinct job).mpr hfits)).mpr hrest

/-- The exact condition under which no two references of a test have one name. -/
theorem runJobs_distinctNames_iff (jobs : List Job) :
    (runJobs {} jobs).DistinctNames ↔ JobsFit {} jobs :=
  runJobs_distinctNames_iff_of_distinctNames (by decide) jobs

def callScreen (object className : String) : Screen where
  screenKey := "s"
  blocks := [{
    type := BlockType.functionCall
    data := [
      ("instance", .text object), ("method", .text "go"), ("className", .text className)] }]

theorem enabledBlocks_callScreen (object className : String) :
    enabledBlocks (callScreen object className) = .ok (callScreen object className).blocks := by
  simp [enabledBlocks, Screen.effectiveBlocks, callScreen, Screen.byOrder, Screen.isLegacy,
    List.mergeSort_singleton]

/-- One object under two classes. -/
def ambiguousScreens : List Job := [
  .screen (callScreen "a" "X") { isNative := false },
  .screen (callScreen "a" "Y") { isNative := false }]

theorem ambiguousScreens_names :
    (runJobs {} ambiguousScreens).references.map Reference.instanceName = ["a", "a"] := by
  -- sorting does not reduce, so the blocks are given
  simp only [runJobs, ambiguousScreens, List.foldl_cons, List.foldl_nil, runJob, Lowering.screen,
    enabledBlocks_callScreen]
  decide +kernel

theorem not_distinctNames_ambiguousScreens :
    ¬ ∀ jobs, (runJobs {} jobs).DistinctNames := by
  intro hall
  have hscreens := hall ambiguousScreens
  unfold Ledger.DistinctNames at hscreens
  rw [ambiguousScreens_names] at hscreens
  exact absurd hscreens (by decide)

end Lowering

end ScreenFlow
