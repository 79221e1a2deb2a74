import Mathlib.Data.List.Nodup
import ScreenFlow.Proofs.Entries
import ScreenFlow.Proofs.Lowering.Jobs

/-!
What the ledger knows of each class.  Every job registers references one after another, and a class
stays under the reference that it was first registered with; the classes stand in the order in which
they came.
-/

namespace ScreenFlow

namespace Ledger

/-- The reference that the class is registered with. -/
def reference? (ledger : Ledger) (className : String) : Option Reference :=
  ledger.references.find? (·.className == className)

def classes (ledger : Ledger) : List String :=
  ledger.references.map Reference.className

theorem hasClass_iff_mem_classes {ledger : Ledger} {className : String} :
    ledger.hasClass className = true ↔ className ∈ ledger.classes := by
  rw [hasClass_iff, classes, List.mem_map]

theorem SameReferences.classes {before after : Ledger} (hsame : before.SameReferences after) :
    after.classes = before.classes :=
  congrArg (List.map Reference.className) hsame

theorem SameReferences.reference? {before after : Ledger} (hsame : before.SameReferences after) :
    after.reference? = before.reference? := by
  unfold Ledger.reference?
  rw [hsame]

theorem Grows.reference? {before after : Ledger} (hgrows : before.Grows after) {className : String}
    {reference : Reference} (hfound : before.reference? className = some reference) :
    after.reference? className = some reference := by
  obtain ⟨later, hlater⟩ := hgrows
  unfold Ledger.reference? at hfound ⊢
  rw [← hlater, List.find?_append, hfound, Option.some_or]

/-- A class that is known keeps its reference. -/
theorem reference?_add (ledger : Ledger) (reference : Reference) (className : String) :
    (ledger.add reference).reference? className =
      (ledger.reference? className).or ([reference].find? (·.className == className)) := by
  unfold add Ledger.reference?
  split
  · next hknown =>
      by_cases hclass : reference.className = className
      · obtain ⟨known, hmem, hname⟩ := hasClass_iff.mp hknown
        have hfound : (ledger.references.find? (·.className == className)).isSome = true :=
          List.find?_isSome.mpr ⟨known, hmem, by simp [hname, hclass]⟩
        rw [Option.or_of_isSome hfound]
      · simp [hclass]
  · exact List.find?_append

theorem reference?_addAll (ledger : Ledger) (references : List Reference) (className : String) :
    (ledger.addAll references).reference? className =
      (ledger.reference? className).or (references.find? (·.className == className)) := by
  induction references generalizing ledger with
  | nil => rw [List.find?_nil, Option.or_none]; rfl
  | cons reference rest ih =>
      refine (ih (ledger.add reference)).trans ?_
      rw [reference?_add, Option.or_assoc, ← List.find?_append]
      rfl

theorem classes_add (ledger : Ledger) (reference : Reference) :
    (ledger.add reference).classes =
      if reference.className ∈ ledger.classes then ledger.classes
      else ledger.classes ++ [reference.className] := by
  unfold add
  simp only [hasClass_iff_mem_classes]
  split
  · rfl
  · exact List.map_append

/-- The classes of what has been registered, each at the place where it came first. -/
theorem classes_addAll (references : List Reference) :
    (addAll {} references).classes = (references.map Reference.className).eraseDups := by
  induction references using List.reverseRecOn with
  | nil => rfl
  | append_singleton earlier reference ih =>
      rw [List.map_append, List.map_singleton, eraseDups_concat, ← ih, addAll_append]
      exact classes_add _ reference

end Ledger

namespace Lowering

/-! What is registered, known or not. -/

/-- A step registers the object it calls, unless the object is the app or known by then. -/
def stepRegistrations (app : String) : Ledger → List Step → List Reference
  | _, [] => []
  | ledger, step :: rest =>
      (if CallsOther step app ∧ ledger.hasInstance step.object = false then [stepReference step]
        else []) ++ stepRegistrations app (ledger.addStep app step) rest

/-- A screen registers the references of its plan. -/
def jobRegistrations (ledger : Ledger) : Job → List Reference
  | .reference wanted => [wanted]
  | .steps steps app _ => stepRegistrations app ledger steps
  | .screen screen options => planReferences screen options ledger

def registrations (ledger : Ledger) : List Job → List Reference
  | [] => []
  | job :: rest => jobRegistrations ledger job ++ registrations (runJob ledger job) rest

theorem addAll_stepRegistrations (app : String) (ledger : Ledger) (steps : List Step) :
    ledger.addAll (stepRegistrations app ledger steps) =
      steps.foldl (Ledger.addStep app) ledger := by
  induction steps generalizing ledger with
  | nil => rfl
  | cons step rest ih =>
      rw [stepRegistrations, Ledger.addAll_append, List.foldl_cons, ← ih]
      unfold Ledger.addStep
      split <;> rfl

/-- A job registers these references, one after another. -/
theorem addAll_jobRegistrations (ledger : Ledger) (job : Job) :
    (ledger.addAll (jobRegistrations ledger job)).SameReferences (runJob ledger job) := by
  cases job with
  | reference wanted => exact refl_of Ledger.SameReferences (ledger.add wanted)
  | steps steps app fields =>
      rw [runJob_steps, jobRegistrations, addAll_stepRegistrations]
      exact refl_of Ledger.SameReferences _
  | screen screen options => exact runJob_screen screen options ledger

theorem addAll_registrations (ledger : Ledger) (jobs : List Job) :
    (ledger.addAll (registrations ledger jobs)).SameReferences (runJobs ledger jobs) := by
  induction jobs generalizing ledger with
  | nil => exact refl_of Ledger.SameReferences ledger
  | cons job rest ih =>
      rw [registrations, Ledger.addAll_append]
      exact trans_of Ledger.SameReferences ((addAll_jobRegistrations ledger job).addAll _)
        (ih (runJob ledger job))

theorem classes_runJobs (jobs : List Job) :
    (runJobs {} jobs).classes = ((registrations {} jobs).map Reference.className).eraseDups := by
  rw [(addAll_registrations {} jobs).classes, Ledger.classes_addAll]

theorem reference?_runJobs (jobs : List Job) (className : String) :
    (runJobs {} jobs).reference? className =
      (registrations {} jobs).find? (·.className == className) := by
  rw [(addAll_registrations {} jobs).reference?, Ledger.reference?_addAll]
  rfl

theorem runJobs_append (ledger : Ledger) (first second : List Job) :
    runJobs ledger (first ++ second) = runJobs (runJobs ledger first) second :=
  List.foldl_append

/-! The classes of a plan. -/

theorem nodup_firstOfClass (seen : List String) (references : List Reference) :
    ((firstOfClass seen references).map Reference.className).Nodup ∧
      ∀ className ∈ (firstOfClass seen references).map Reference.className, className ∉ seen := by
  induction references generalizing seen with
  | nil => simp [firstOfClass]
  | cons reference rest ih =>
      unfold firstOfClass
      split
      · exact ih seen
      · next hnew =>
          obtain ⟨hnodup, hfresh⟩ := ih (reference.className :: seen)
          rw [List.map_cons, List.nodup_cons, List.forall_mem_cons]
          refine ⟨⟨fun hmem => hfresh _ hmem List.mem_cons_self, hnodup⟩, ?_, ?_⟩
          · simpa using hnew
          · exact fun className hmem hseen => hfresh className hmem (List.mem_cons_of_mem _ hseen)

/-- A plan lists no class twice. -/
theorem plan_classes_nodup {screen : Screen} {options : Options} {ledger after : Ledger}
    {plan : EmissionPlan}
    (hrun : (Lowering.screen screen options).run ledger = (.ok plan, after)) :
    (plan.references.map Reference.className).Nodup := by
  obtain ⟨-, blocks, -, -, hexternal⟩ := screen_ok hrun
  obtain ⟨hnodup, hfresh⟩ := nodup_firstOfClass (plan.own.toList.map (·.className))
    (callReferences blocks plan.blocks)
  rw [← hexternal] at hnodup hfresh
  have hown : (plan.own.toList.map Reference.className).Nodup := by
    cases plan.own <;> simp
  rw [EmissionPlan.references, List.map_append]
  exact hown.append hnodup fun className hmem hother => hfresh className hother hmem

theorem plan_hasClass {screen : Screen} {options : Options} {ledger after : Ledger}
    {plan : EmissionPlan}
    (hrun : (Lowering.screen screen options).run ledger = (.ok plan, after))
    {reference : Reference} (hmem : reference ∈ plan.references) :
    after.hasClass reference.className = true := by
  have hsame := (screen_ok hrun).1
  unfold Ledger.hasClass
  rw [hsame]
  exact Ledger.hasClass_addAll hmem ledger

/-! Runs of jobs. -/

/-- A reference is new just when its class has not been registered before. -/
theorem run_registerNew (jobs : List Job) (reference : Reference) :
    (Compile.registerNew reference).run (runJobs {} jobs) =
      (.ok (decide (reference.className ∉ (registrations {} jobs).map Reference.className)),
        runJobs {} (jobs ++ [.reference reference])) := by
  have hknown : (runJobs {} jobs).hasClass reference.className =
      decide (reference.className ∈ (registrations {} jobs).map Reference.className) := by
    rw [Bool.eq_iff_iff, decide_eq_true_eq, Ledger.hasClass_iff_mem_classes, classes_runJobs,
      List.mem_eraseDups]
  rw [runJobs_append, decide_not, ← hknown]
  rfl

theorem hasClass_of_plan {jobs : List Job} {screen : Screen} {options : Options}
    {plan : EmissionPlan} {after : Ledger}
    (hrun : (Lowering.screen screen options).run (runJobs {} jobs) = (.ok plan, after))
    {reference : Reference} (hmem : reference ∈ plan.references) (later : List Job) :
    (runJobs {} (jobs ++ .screen screen options :: later)).hasClass reference.className = true := by
  have hafter : runJob (runJobs {} jobs) (.screen screen options) = after := congrArg Prod.snd hrun
  rw [runJobs_append, runJobs, List.foldl_cons, hafter]
  exact (runJobs_grows later after).hasClass (plan_hasClass hrun hmem)

/-- In any run of jobs, a class stays under the reference that it was first registered with, and the
classes stand in the order of their first registrations; registering says whether the class is new.  A
plan lists no class twice, and all of its classes are registered from then on. -/
theorem classes_registered_once :
    (∀ jobs : List Job,
      (runJobs {} jobs).classes = ((registrations {} jobs).map Reference.className).eraseDups ∧
        ∀ className, (runJobs {} jobs).reference? className =
          (registrations {} jobs).find? (·.className == className)) ∧
    (∀ (jobs later : List Job) (className : String) (reference : Reference),
      (runJobs {} jobs).reference? className = some reference →
        (runJobs {} (jobs ++ later)).reference? className = some reference) ∧
    (∀ (jobs : List Job) (reference : Reference),
      (Compile.registerNew reference).run (runJobs {} jobs) =
        (.ok (decide (reference.className ∉ (registrations {} jobs).map Reference.className)),
          runJobs {} (jobs ++ [.reference reference]))) ∧
    ∀ (jobs : List Job) (screen : Screen) (options : Options) (plan : EmissionPlan)
      (after : Ledger),
      (Lowering.screen screen options).run (runJobs {} jobs) = (.ok plan, after) →
        (plan.references.map Reference.className).Nodup ∧
          ∀ reference ∈ plan.references, ∀ later,
            (runJobs {} (jobs ++ .screen screen options :: later)).hasClass reference.className =
              true := by
  refine ⟨fun jobs => ⟨classes_runJobs jobs, reference?_runJobs jobs⟩,
    fun jobs later className reference hfound => ?_, run_registerNew,
    fun jobs screen options plan after hrun => ⟨plan_classes_nodup hrun, fun reference hmem later =>
      hasClass_of_plan hrun hmem later⟩⟩
  rw [runJobs_append]
  exact (runJobs_grows later (runJobs {} jobs)).reference? hfound

def firstLogin : Reference where
  className := "Login"
  varName := some "login"

/-- The screen calls an object of the class under another name. -/
def secondLogin : Job :=
  .screen (callScreen "form" "Login") { isNative := false }

theorem firstLogin_kept :
    (runJobs {} [.reference firstLogin]).reference? "Login" = some firstLogin ∧
      (runJobs {} [.reference firstLogin, secondLogin]).reference? "Login" = some firstLogin ∧
      ∃ plan after,
        (Lowering.screen (callScreen "form" "Login") { isNative := false }).run
          (runJobs {} [.reference firstLogin]) = (.ok plan, after) ∧
        plan.references = [{ className := "Login", varName := some "form" }] ∧
        ∀ reference ∈ plan.references,
          (runJobs {} [.reference firstLogin, secondLogin]).hasClass reference.className = true := by
  obtain ⟨-, hkept, -, hplan⟩ := classes_registered_once
  have hfirst : (runJobs {} [.reference firstLogin]).reference? "Login" = some firstLogin := rfl
  have hrun : ∃ plan after,
      (Lowering.screen (callScreen "form" "Login") { isNative := false }).run
        (runJobs {} [.reference firstLogin]) = (.ok plan, after) ∧
      plan.references = [{ className := "Login", varName := some "form" }] := by
    simp only [Lowering.screen, enabledBlocks_callScreen]
    exact ⟨_, _, rfl, rfl⟩
  obtain ⟨plan, after, hrun, hreferences⟩ := hrun
  exact ⟨hfirst, hkept [.reference firstLogin] [secondLogin] _ _ hfirst, plan, after, hrun,
    hreferences, fun reference hmem => (hplan _ _ _ _ _ hrun).2 reference hmem []⟩

end Lowering

end ScreenFlow
