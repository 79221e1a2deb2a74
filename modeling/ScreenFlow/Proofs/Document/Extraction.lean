import ScreenFlow.Document.Extraction
import ScreenFlow.Proofs.Project.Incoming

/-!
The state before a sub-state.  The edge into a sub-state is looked for by the status of the state,
and the state before it by its name; the two go together only where both find the same state.
-/

namespace ScreenFlow

namespace StateSummary

/-- The state before a target, on the platform that is compiled for. -/
def stateBefore (task : Assignment) (target : String) : Option String :=
  task.unit.graph.previousState target (some task.platform)

/-- What the edges into a state are looked for by: its status, else the name that was asked for. -/
def sought (task : Assignment) (record : StateRecord) (state : Option String) : String :=
  (task.unit.graph.selectedStatus record state).getD (state.getD "")

theorem fromState_pickPrevious_ownEdges (task : Assignment) (target : String) :
    (Transition.pickPrevious (Incoming.ownEdges task target)).map (·.fromState) =
      stateBefore task target :=
  StateGraph.fromState_pickPrevious_incoming _ _ _ _

/-- Without an index, a state that declares none before it is summed up from its own graph. -/
theorem run_extract_of_no_index {task : Assignment} {sources : TransitionSources}
    (hindex : sources.index = none) (state : Option String) {record : StateRecord}
    (hprevious : record.info.declaredPrevious = none) (desk : Desk) :
    ∃ incoming after,
      (ExceptT.run (extract task sources state record none)).run desk =
          (.ok (ofRecord task state record incoming), after) ∧
        incoming.primary.map (·.fromState) = stateBefore task (sought task record state) := by
  have hentries : Incoming.entriesInto task sources (sought task record state) = [] := by
    unfold Incoming.entriesInto
    rw [hindex]
    rfl
  obtain ⟨incoming, after, hrun, hkept, hprimary⟩ :=
    Incoming.run_resolve_of_no_entries hentries none desk
  refine ⟨incoming, after, ?_, ?_⟩
  · unfold sought at hrun
    unfold extract
    dsimp only
    rw [hprevious, Effect.run_bind, hrun]
    rfl
  · rw [hprimary, hkept, ← fromState_pickPrevious_ownEdges]
    cases Transition.pickPrevious (Incoming.ownEdges task (sought task record state)) <;> rfl

/-- A sub-state that declares none before it takes that of its transition, else that of its name. -/
theorem statusBefore_subState {graph : StateGraph} {info : StateMeta}
    (hmulti : graph.isMultiState = true) (hprevious : info.declaredPrevious = none) (name : String)
    (primary : Option Transition) (platform : String) :
    statusBefore graph info (some name) primary platform =
      (primary.map (·.fromState)).or (graph.previousState name (some platform)) := by
  unfold statusBefore
  rw [hprevious, if_pos hmulti]
  cases primary <;> rfl

/-- What is summed up of a sub-state that declares none before it: the transition comes from its
status alone, the state before it from its name too. -/
theorem run_extract_subState {task : Assignment} {sources : TransitionSources}
    {record : StateRecord} (hmulti : task.unit.graph.isMultiState = true)
    (hindex : sources.index = none) (hprevious : record.info.declaredPrevious = none)
    (name : String) (desk : Desk) :
    ∃ summary after,
      (ExceptT.run (extract task sources (some name) record none)).run desk =
          (.ok summary, after) ∧
        summary.primary.map (·.fromState) = stateBefore task (sought task record (some name)) ∧
        (summary.isInducer = true ↔
          stateBefore task (sought task record (some name)) = none) ∧
        summary.previousStatus =
          (stateBefore task (sought task record (some name))).or (stateBefore task name) := by
  obtain ⟨incoming, after, hrun, hfrom⟩ :=
    run_extract_of_no_index hindex (some name) hprevious desk
  refine ⟨_, after, hrun, hfrom, ?_, ?_⟩
  · rw [← hfrom, Option.map_eq_none_iff]
    exact Option.isNone_iff_eq_none
  · exact (statusBefore_subState hmulti hprevious name _ _).trans (by rw [hfrom]; rfl)

/-- The transition into a sub-state leaves the state before it exactly when status and name of the
sub-state lead back to the same state.  There is a state before it, but no transition, exactly when
its name leads back to a state and its status to none. -/
theorem extract_subState_iff {task : Assignment} {sources : TransitionSources}
    {record : StateRecord} (hmulti : task.unit.graph.isMultiState = true)
    (hindex : sources.index = none) (hprevious : record.info.declaredPrevious = none)
    (name : String) (desk : Desk) :
    ∃ summary after,
      (ExceptT.run (extract task sources (some name) record none)).run desk =
          (.ok summary, after) ∧
        (summary.primary.map (·.fromState) = stateBefore task name ↔
          stateBefore task (sought task record (some name)) = stateBefore task name) ∧
        (summary.isInducer = true ∧ summary.previousStatus ≠ none ↔
          stateBefore task (sought task record (some name)) = none ∧
            stateBefore task name ≠ none) := by
  obtain ⟨summary, after, hrun, hfrom, hinducer, hstatus⟩ :=
    run_extract_subState hmulti hindex hprevious name desk
  refine ⟨summary, after, hrun, Eq.congr_left hfrom, ?_⟩
  rw [hinducer, hstatus]
  refine and_congr_right fun hnone => ?_
  rw [hnone, Option.none_or]

/-- A state whose status has nothing to do with its name. -/
def settledState : StateRecord where
  info := { status := some "order_settled" }

def settledGraph : StateGraph where
  initial := some "cart"
  states := [("cart", Incoming.leaving "PAY" "paid"), ("paid", settledState)]

theorem extract_settledState_iff :
    settledGraph.isMultiState = true ∧ Incoming.unindexed.index = none ∧
      settledState.info.declaredPrevious = none ∧
      ∃ summary after,
        (ExceptT.run (extract (Incoming.graphTask settledGraph) Incoming.unindexed (some "paid")
            settledState none)).run Incoming.emptyDesk = (.ok summary, after) ∧
          (summary.primary.map (·.fromState) =
              stateBefore (Incoming.graphTask settledGraph) "paid" ↔
            stateBefore (Incoming.graphTask settledGraph)
                (sought (Incoming.graphTask settledGraph) settledState (some "paid")) =
              stateBefore (Incoming.graphTask settledGraph) "paid") ∧
          (summary.isInducer = true ∧ summary.previousStatus ≠ none ↔
            stateBefore (Incoming.graphTask settledGraph)
                (sought (Incoming.graphTask settledGraph) settledState (some "paid")) = none ∧
              stateBefore (Incoming.graphTask settledGraph) "paid" ≠ none) :=
  ⟨rfl, rfl, rfl, extract_subState_iff rfl rfl rfl "paid" Incoming.emptyDesk⟩

theorem not_extract_subState_agrees :
    ¬ ∀ task sources record name desk, task.unit.graph.isMultiState = true →
      task.unit.graph.state? name = some record → sources.index = none →
      record.info.declaredPrevious = none →
      ∃ summary after,
        (ExceptT.run (extract task sources (some name) record none)).run desk =
            (.ok summary, after) ∧
          summary.primary.map (·.fromState) = stateBefore task name ∧
          ¬ (summary.isInducer = true ∧ summary.previousStatus ≠ none) := by
  intro hall
  have hreported :
      ((ExceptT.run (extract (Incoming.graphTask settledGraph) Incoming.unindexed (some "paid")
        settledState none)).run Incoming.emptyDesk).1.toOption.map (fun summary =>
          (summary.isInducer, summary.previousStatus)) = some (true, some "cart") := by
    decide +kernel
  obtain ⟨summary, after, hrun, -, hconsistent⟩ :=
    hall (Incoming.graphTask settledGraph) Incoming.unindexed settledState "paid"
      Incoming.emptyDesk rfl rfl rfl rfl
  rw [hrun] at hreported
  obtain ⟨hinducer, hprevious⟩ := Prod.mk.inj (Option.some.inj hreported)
  exact hconsistent ⟨hinducer, by rw [hprevious]; exact Option.some_ne_none _⟩

/-! A sub-state without a status of its own. -/

theorem sought_of_no_status {task : Assignment} {record : StateRecord}
    (hstatus : record.info.status.filter (· != "") = none) (name : String) :
    sought task record (some name) = name := by
  unfold sought StateGraph.selectedStatus
  rw [hstatus]
  dsimp only
  split <;> rfl

/-- A sub-state that is known by its name alone has the transition from the state before it. -/
theorem extract_subState_of_no_status {task : Assignment} {sources : TransitionSources}
    {record : StateRecord} (hmulti : task.unit.graph.isMultiState = true)
    (hindex : sources.index = none) (hprevious : record.info.declaredPrevious = none)
    (hstatus : record.info.status.filter (· != "") = none) (name : String) (desk : Desk) :
    ∃ summary after,
      (ExceptT.run (extract task sources (some name) record none)).run desk =
          (.ok summary, after) ∧
        summary.primary.map (·.fromState) = stateBefore task name ∧
        summary.previousStatus = stateBefore task name := by
  obtain ⟨summary, after, hrun, hfrom, -, hbefore⟩ :=
    run_extract_subState hmulti hindex hprevious name desk
  rw [sought_of_no_status hstatus] at hfrom hbefore
  rw [Option.or_self] at hbefore
  exact ⟨summary, after, hrun, hfrom, hbefore⟩

end StateSummary

end ScreenFlow
