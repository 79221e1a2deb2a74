import ScreenFlow.Project.Incoming
import ScreenFlow.Proofs.Effect
import ScreenFlow.Proofs.Graph.Incoming
import ScreenFlow.Proofs.Project.Primary

/-!
The transition that is tested, among those that lead into a state.  Of the transitions that are kept,
one from the declared previous state is preferred.  Of the edges of the compiled unit itself only one
is kept, and that one is chosen before the declared previous state is looked at.
-/

namespace ScreenFlow

namespace Incoming

open Effect

/-- The edges of the compiled unit that lead into the target. -/
def ownEdges (task : Assignment) (target : String) : List Transition :=
  task.unit.graph.incoming target (some task.unit.path.toText) (some task.platform)

/-- The index entries that lead into the target. -/
def entriesInto (task : Assignment) (sources : TransitionSources) (target : String) :
    DiscoveryIndex :=
  (sources.index.getD []).incoming target (some task.platform)

/-! The transition that is preferred. -/

/-- The first transition that leaves the previous state, if one is declared, else the first. -/
def preferred (transitions : List Transition) (previous : Option String) : Option Transition :=
  ((previous.filter (· != "")).bind fun state =>
    transitions.find? fun transition => StateName.denotes transition.fromState state).or
    transitions.head?

theorem PrimaryChoice.preferred_eq {target : String} {previous : Option String}
    {transitions : List Transition} {primary : Option Transition} {notes : List Degradation}
    (hchoice : PrimaryChoice target previous transitions primary notes) :
    preferred transitions previous = primary := by
  unfold preferred
  rw [find?_leavesDeclared]
  cases hchoice with
  | nothing => rfl
  | declared hleaves hbefore =>
      rw [find?_eq_some hleaves hbefore]
      rfl
  | only hother =>
      rw [find?_eq_none (List.forall_mem_singleton.mpr hother)]
      rfl
  | first hothers =>
      rw [find?_eq_none hothers]
      rfl

theorem run_choosePrimary (target : String) (transitions : List Transition)
    (previous : Option String) (desk : Desk) :
    ∃ after, (ExceptT.run (choosePrimary target transitions previous)).run desk =
      (.ok (preferred transitions previous), after) := by
  obtain ⟨primary, notes, hchoice⟩ := exists_primaryChoice target previous transitions
  rw [hchoice.preferred_eq]
  exact ⟨_, hchoice.run desk⟩

/-- The preferred transition leaves the declared previous state whenever one that is kept does. -/
theorem preferred_leaves_iff (transitions : List Transition) (previous : String) :
    (∃ transition, preferred transitions (some previous) = some transition ∧
        StateName.denotes transition.fromState previous = true) ↔
      ∃ transition ∈ transitions, StateName.denotes transition.fromState previous = true := by
  by_cases hempty : previous = ""
  · simp [hempty, StateName.denotes_empty]
  · have hfilter : (some previous).filter (· != "") = some previous := by
      simp [Option.filter, hempty]
    unfold preferred
    rw [hfilter, Option.bind_some]
    cases hfind : transitions.find? fun transition =>
        StateName.denotes transition.fromState previous with
    | some found =>
        have hleaves := List.find?_some hfind
        exact ⟨fun _ => ⟨found, List.mem_of_find?_eq_some hfind, hleaves⟩,
          fun _ => ⟨found, rfl, hleaves⟩⟩
    | none =>
        rw [List.find?_eq_none] at hfind
        constructor
        · rintro ⟨found, hhead, hleaves⟩
          exact ⟨found, List.mem_of_mem_head? hhead, hleaves⟩
        · rintro ⟨found, hmem, hleaves⟩
          exact absurd hleaves (hfind found hmem)

/-! Nothing in the index. -/

theorem run_found_of_no_entries {task : Assignment} {sources : TransitionSources}
    {target : String} (hentries : entriesInto task sources target = []) (desk : Desk) :
    ∃ mode, (ExceptT.run (found task sources target)).run desk =
      (.ok ((Transition.pickPrevious (ownEdges task target)).toList, mode), desk) := by
  unfold entriesInto at hentries
  unfold found ownEdges
  dsimp only
  rw [hentries, List.mapM_nil]
  cases Transition.pickPrevious
      (task.unit.graph.incoming target (some task.unit.path.toText) (some task.platform)) with
  | none => exact ⟨.none, rfl⟩
  | some transition => exact ⟨.graph, rfl⟩

/-- Without an index entry for the target, the likeliest of the unit's own edges is all that is
found. -/
theorem run_resolve_of_no_entries {task : Assignment} {sources : TransitionSources}
    {target : String} (hentries : entriesInto task sources target = []) (previous : Option String)
    (desk : Desk) :
    ∃ incoming after,
      (ExceptT.run (resolve task sources target none previous)).run desk = (.ok incoming, after) ∧
        incoming.transitions = (Transition.pickPrevious (ownEdges task target)).toList ∧
        incoming.primary = preferred incoming.transitions previous := by
  obtain ⟨mode, hfound⟩ := run_found_of_no_entries hentries desk
  have hdedupe : Transition.dedupe (Transition.pickPrevious (ownEdges task target)).toList =
      (Transition.pickPrevious (ownEdges task target)).toList := by
    cases Transition.pickPrevious (ownEdges task target) <;> rfl
  generalize (Transition.pickPrevious (ownEdges task target)).toList = kept at hfound hdedupe ⊢
  obtain ⟨after, hchoose⟩ := run_choosePrimary target kept previous desk
  refine ⟨{ transitions := kept, primary := preferred kept previous, mode }, after, ?_, rfl, rfl⟩
  unfold resolve
  dsimp only
  rw [run_bind, hfound]
  dsimp only
  rw [hdedupe, run_bind, hchoose]
  rfl

/-- The primary transition leaves the declared previous state exactly when the first of the likeliest
edges of the unit does. -/
theorem resolve_primary_leaves_iff {task : Assignment} {sources : TransitionSources}
    {target : String} (hentries : entriesInto task sources target = []) (previous : String)
    (desk : Desk) :
    ∃ incoming after,
      (ExceptT.run (resolve task sources target none (some previous))).run desk =
          (.ok incoming, after) ∧
        ((∃ transition, incoming.primary = some transition ∧
            StateName.denotes transition.fromState previous = true) ↔
          ∃ transition, ComesFirst Transition.rank (ownEdges task target) transition ∧
            StateName.denotes transition.fromState previous = true) := by
  obtain ⟨incoming, after, hrun, hkept, hprimary⟩ :=
    run_resolve_of_no_entries hentries (some previous) desk
  refine ⟨incoming, after, hrun, ?_⟩
  rw [hprimary, preferred_leaves_iff, hkept]
  simp only [Option.mem_toList, Transition.pickPrevious_eq_some_iff]

/-! A unit of a few states. -/

/-- A task on a unit with the graph, for the web. -/
def graphTask (graph : StateGraph) : Assignment where
  unit := {
    className := "U", path := .absolute ["u.json"], graph, strategy := .json
    projectRoot := .absolute [] }
  platform := "web"
  spec := .default "web"
  config := {}
  projectRoot := .absolute []

/-- Nothing but the units themselves. -/
def unindexed : TransitionSources where
  locator := { unitsDir := .absolute ["tests"], registry := [] }

def leaving (event target : String) : StateRecord where
  on := [(event, { target })]

/-- Two ways into one state, from a likely state and from another. -/
def twoWays : StateGraph where
  initial := some "draft"
  states := [("draft", leaving "SAVE" "done"), ("checkout", leaving "PAY" "done"), ("done", {})]

def emptyDesk : Desk where
  session := { files := {} }

theorem twoWays_primary_leaves_iff :
    entriesInto (graphTask twoWays) unindexed "done" = [] ∧
      ∃ incoming after,
        (ExceptT.run (resolve (graphTask twoWays) unindexed "done" none (some "draft"))).run
            emptyDesk = (.ok incoming, after) ∧
          ((∃ transition, incoming.primary = some transition ∧
              StateName.denotes transition.fromState "draft" = true) ↔
            ∃ transition,
              ComesFirst Transition.rank (ownEdges (graphTask twoWays) "done") transition ∧
                StateName.denotes transition.fromState "draft" = true) :=
  ⟨rfl, resolve_primary_leaves_iff rfl "draft" emptyDesk⟩

theorem not_primary_leaves_declared :
    ¬ ∀ task sources target previous desk, entriesInto task sources target = [] →
      (∃ transition ∈ ownEdges task target,
        StateName.denotes transition.fromState previous = true) →
      ∃ incoming after,
        (ExceptT.run (resolve task sources target none (some previous))).run desk =
            (.ok incoming, after) ∧
          ∃ transition, incoming.primary = some transition ∧
            StateName.denotes transition.fromState previous = true := by
  intro hall
  have hchosen :
      ((ExceptT.run (resolve (graphTask twoWays) unindexed "done" none (some "checkout"))).run
        emptyDesk).1.toOption.bind (fun incoming => incoming.primary.map (·.fromState)) =
          some "draft" := by
    decide +kernel
  obtain ⟨incoming, after, hrun, transition, hprimary, hleaves⟩ :=
    hall (graphTask twoWays) unindexed "done" "checkout" emptyDesk rfl
      ⟨_, List.mem_cons_of_mem _ List.mem_cons_self, by decide +kernel⟩
  rw [hrun] at hchosen
  change incoming.primary.map (·.fromState) = some "draft" at hchosen
  rw [hprimary] at hchosen
  have hfrom : transition.fromState = "draft" := Option.some.inj hchosen
  rw [hfrom] at hleaves
  exact absurd hleaves (by decide +kernel)

end Incoming

end ScreenFlow
