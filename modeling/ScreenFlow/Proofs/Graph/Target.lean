import ScreenFlow.Graph.State
import ScreenFlow.Proofs.Effect
import ScreenFlow.Proofs.Schema.Values

/-!
Edges whose target could not be computed.  The edges of a state that is read are those that it
declares, less the ones that are given by nothing or lead to a placeholder; whether they do is seen
of a target alone and of a record.  A list of edges stands for its first, and is not looked into.
-/

namespace ScreenFlow

open Schema

namespace Edge

/-- The edge leads to a placeholder. -/
def LeadsToPlaceholder (edge : Edge) : Prop :=
  ∃ kind : Placeholder, edge.target = kind.marker

/-- A record, or a target alone, that declares an edge to a placeholder. -/
def targetsPlaceholder : Value → Bool
  | .map entries => (Value.orNull (Entries.get? entries "target")).isPlaceholder
  | edge => edge.isPlaceholder

/-- A list that stands for an edge to a placeholder. -/
def listsPlaceholder : Value → Bool
  | .list (first :: _) => targetsPlaceholder first
  | _ => false

/-- What declares no edge at all. -/
def isBlank : Value → Bool
  | .null => true
  | .text text => text == ""
  | .list items => items.isEmpty
  | _ => false

theorem isFollowable_eq (edge : Value) :
    StateRecord.isFollowable edge = (!isBlank edge && !targetsPlaceholder edge) := by
  unfold StateRecord.isFollowable
  cases edge with
  | text text => by_cases hempty : text = "" <;> simp [isBlank, targetsPlaceholder, hempty]
  | list items => cases items <;> simp [isBlank, targetsPlaceholder]
  | map entries => simp [isBlank, targetsPlaceholder, Value.isPlaceholder, Value.string?]
  | _ => simp [isBlank, targetsPlaceholder]

/-- One edge, given by its target alone or by a record. -/
def ofOne (value : Value) : Value :=
  if value.isString then .map [(.name "target", value)] else value

theorem unfolded_eq_ofOne {value : Value} (hlist : ∀ items, value ≠ .list items) :
    unfolded value = ofOne value := by
  cases value <;> first | rfl | exact absurd rfl (hlist _)

theorem targetsPlaceholder_of_ofOne {value target : Value} {entries : Entries}
    (hone : ofOne value = .map entries) (htarget : Entries.get? entries "target" = some target) :
    targetsPlaceholder value = target.isPlaceholder := by
  unfold ofOne at hone
  split at hone
  · next hstring =>
      cases hone
      cases htarget
      cases value <;> first | rfl | cases hstring
  · subst hone
    rw [targetsPlaceholder, htarget]
    rfl

/-- An edge that is read has the target that its record, or the record it stands for, gives, and the
platforms that it lists, all of them texts. -/
theorem parts_of_read {value : Value} {edge : Edge} (hread : Edge.read value = .value edge) :
    ∃ entries, unfolded value = .map entries ∧
      (∃ target, Entries.get? entries "target" = some target ∧
        target.string? = some edge.target) ∧
      List.Forall₂ (fun item name => item.string? = some name)
        (Value.orNull (Entries.get? entries "platforms")).listOrEmpty edge.platforms := by
  simp only [Edge.read, record_eq_value_iff, Reading.seqLeft_eq_value_iff,
    Reading.seq_eq_value_iff, Reading.functor_map_eq_value_iff] at hread
  obtain ⟨entries, hentries, ⟨_, ⟨_, ⟨target, htarget, rfl⟩, platforms, hplatforms, rfl⟩,
    action, -, rfl⟩, -⟩ := hread
  obtain ⟨found, hfound, htext⟩ := required_same_eq_value_iff.mp htarget
  refine ⟨entries, hentries, ⟨found, hfound, string_eq_value_iff.mp htext⟩, ?_⟩
  rcases optional_same_eq_value_iff.mp hplatforms with ⟨hnone, rfl⟩ | ⟨value, hvalue, hlisted⟩
  · rw [hnone]
    exact .nil
  · rw [hvalue]
    exact (Reading.each_eq_value_iff.mp hlisted).imp fun _ _ => string_eq_value_iff.mp

theorem leadsToPlaceholder_iff_of_read {value : Value} {edge : Edge}
    (hread : Edge.read value = .value edge) :
    edge.LeadsToPlaceholder ↔ targetsPlaceholder value = true ∨ listsPlaceholder value = true := by
  obtain ⟨entries, hentries, ⟨target, htarget, htext⟩, -⟩ := parts_of_read hread
  have hcomputed : edge.LeadsToPlaceholder ↔ target.isPlaceholder = true := by
    rw [Value.isPlaceholder_iff, htext, LeadsToPlaceholder]
    simp only [Option.some.injEq]
  rw [hcomputed]
  by_cases hlist : ∃ items, value = .list items
  · obtain ⟨items, rfl⟩ := hlist
    cases items with
    | nil =>
        cases hentries
        cases htarget
    | cons first rest =>
        have hfirst : targetsPlaceholder first = target.isPlaceholder :=
          targetsPlaceholder_of_ofOne hentries htarget
        have hitself : targetsPlaceholder (.list (first :: rest)) = false := rfl
        rw [← hfirst, hitself]
        simp [listsPlaceholder]
  · have hvalue : ∀ items, value ≠ .list items := fun items heq => hlist ⟨items, heq⟩
    rw [unfolded_eq_ofOne hvalue] at hentries
    have hother : listsPlaceholder value = false := by
      cases value <;> first | rfl | exact absurd rfl (hvalue _)
    rw [← targetsPlaceholder_of_ofOne hentries htarget, hother]
    simp

end Edge

namespace StateRecord

/-- What a record of a state declares as its edges. -/
def declaredEdges (declared : Entries) : Entries :=
  ((Entries.get? declared "on").bind Value.entries?).getD []

/-- The edges of a record that neither are blank nor show that they lead to a placeholder. -/
def followedEdges (declared : Entries) : Entries :=
  (declaredEdges declared).filter fun edge =>
    !Edge.isBlank edge.2 && !Edge.targetsPlaceholder edge.2

theorem followable_eq (value : Value) :
    followable value = .map ((value.entries?.getD []).filter fun edge =>
      !Edge.isBlank edge.2 && !Edge.targetsPlaceholder edge.2) := by
  cases value with
  | map entries =>
      simp only [followable, Edge.isFollowable_eq]
      rfl
  | _ => rfl

/-- The edges of a state that is read are the followed ones of its record, in their order. -/
theorem on_of_readParts {declared : Entries} {record : StateRecord}
    (hread : readParts declared = .value record) :
    List.Forall₂ (fun given edge => given.1 = .name edge.1 ∧ Edge.read given.2 = .value edge.2)
      (followedEdges declared) record.on := by
  simp only [readParts, Reading.seq_eq_value_iff, Reading.functor_map_eq_value_iff] at hread
  obtain ⟨_, ⟨_, ⟨info, -, rfl⟩, entry, -, rfl⟩, on, hon, rfl⟩ := hread
  rcases optional_same_eq_value_iff.mp hon with ⟨hnone, rfl⟩ | ⟨value, hvalue, hedges⟩
  · rw [followedEdges, declaredEdges, hnone]
    exact .nil
  · rw [followable_eq, mapOf_eq_value_iff] at hedges
    rw [followedEdges, declaredEdges, hvalue]
    exact hedges

end StateRecord

namespace StateGraph

/-- The root of a graph and its sub-states. -/
def records (graph : StateGraph) : List StateRecord :=
  graph.root :: graph.states.map (·.2)

/-- The records among the sub-states that a graph declares. -/
def declaredStates (states : Entries) : List Entries :=
  states.filterMap fun state => state.2.entries?

/-- What is declared as the root of a graph and as its sub-states. -/
def declaredRecords : Value → List Entries
  | .map graph =>
      graph :: declaredStates (((Entries.get? graph "states").bind Value.entries?).getD [])
  | _ => []

theorem states_of_read {states : Entries} {read : List (String × StateRecord)}
    (hread : List.Forall₂
      (fun entry pair => entry.1 = .name pair.1 ∧ StateRecord.read entry.2 = .value pair.2)
      (states.filter fun entry => entry.2.isMap) read) :
    List.Forall₂ (fun declared record => StateRecord.readParts declared = .value record)
      (declaredStates states) (read.map (·.2)) := by
  induction states generalizing read with
  | nil =>
      cases hread
      exact .nil
  | cons state rest ih =>
      obtain ⟨key, value⟩ := state
      cases value with
      | map declared =>
          obtain ⟨first, others, ⟨-, hfirst⟩, hothers, rfl⟩ := List.forall₂_cons_left_iff.mp hread
          obtain ⟨found, hfound, hparts⟩ := record_eq_value_iff.mp hfirst
          cases hfound
          exact .cons (Reading.seqLeft_eq_value_iff.mp hparts).1 (ih hothers)
      | _ => exact ih hread

/-- The states of a graph that is read are the root and the sub-states given by records. -/
theorem records_of_read {value : Value} {graph : StateGraph}
    (hread : StateGraph.read value = .value graph) :
    List.Forall₂ (fun declared record => StateRecord.readParts declared = .value record)
      (declaredRecords value) graph.records := by
  simp only [StateGraph.read, record_eq_value_iff, Reading.seqLeft_eq_value_iff,
    Reading.seq_eq_value_iff, Reading.functor_map_eq_value_iff] at hread
  obtain ⟨entries, rfl, ⟨_, ⟨_, ⟨_, ⟨_, ⟨root, hroot, rfl⟩, id, -, rfl⟩, initial, -, rfl⟩,
    states, hstates, rfl⟩, context, -, rfl⟩, -⟩ := hread
  refine .cons hroot ?_
  rcases optional_same_eq_value_iff.mp hstates with ⟨hnone, rfl⟩ | ⟨value, hvalue, hread⟩
  · rw [hnone]
    exact .nil
  · rw [hvalue]
    cases value with
    | map states => exact states_of_read (mapOf_eq_value_iff.mp hread)
    | _ =>
        cases hread
        exact .nil

/-- In a graph that is read, the edges of every state are the followed ones of its record, and among
them those to a placeholder are the ones given by a list that starts with such an edge. -/
theorem on_of_read {value : Value} {graph : StateGraph}
    (hread : StateGraph.read value = .value graph) :
    List.Forall₂
      (fun declared record => List.Forall₂
        (fun given edge => given.1 = .name edge.1 ∧
          (edge.2.LeadsToPlaceholder ↔ Edge.listsPlaceholder given.2 = true))
        (StateRecord.followedEdges declared) record.on)
      (declaredRecords value) graph.records := by
  refine (records_of_read hread).imp fun declared record hparts => ?_
  have hfollowed : ∀ given ∈ StateRecord.followedEdges declared,
      Edge.targetsPlaceholder given.2 = false := fun given hmem => by
    have hkept := (List.mem_filter.mp hmem).2
    simp only [Bool.and_eq_true, Bool.not_eq_true'] at hkept
    exact hkept.2
  have hedges := (List.forall₂_and_left _ _).mpr ⟨hfollowed, StateRecord.on_of_readParts hparts⟩
  refine hedges.imp fun given edge ⟨htarget, hname, hread⟩ => ⟨hname, ?_⟩
  rw [Edge.leadsToPlaceholder_iff_of_read hread, htarget]
  simp

/-- A list that stands for an edge is followed, whatever it starts with. -/
theorem forall_declared_iff_forall_followed (declared : Entries) :
    (∀ given ∈ StateRecord.declaredEdges declared, Edge.listsPlaceholder given.2 = false) ↔
      ∀ given ∈ StateRecord.followedEdges declared, Edge.listsPlaceholder given.2 = false := by
  refine ⟨fun hall given hmem => hall given (List.mem_filter.mp hmem).1, fun hall given hmem => ?_⟩
  by_contra hlists
  rw [Bool.not_eq_false] at hlists
  refine absurd (hall given (List.mem_filter.mpr ⟨hmem, ?_⟩)) (by simp [hlists])
  obtain ⟨key, value⟩ := given
  cases value with
  | list items =>
      cases items with
      | nil => cases hlists
      | cons first rest => rfl
  | _ => cases hlists

/-- In a graph that is read, a state has the edges that its record declares, less those that are
blank or show that they lead to a placeholder; no edge leads to one exactly when no list of edges
starts with an edge that does. -/
theorem placeholder_edges_iff_listed {value : Value} {graph : StateGraph}
    (hread : StateGraph.read value = .value graph) :
    List.Forall₂
        (fun declared record => List.Forall₂
          (fun given edge => given.1 = .name edge.1 ∧
            (edge.2.LeadsToPlaceholder ↔ Edge.listsPlaceholder given.2 = true))
          (StateRecord.followedEdges declared) record.on)
        (declaredRecords value) graph.records ∧
      ((∀ record ∈ graph.records, ∀ edge ∈ record.on, ¬edge.2.LeadsToPlaceholder) ↔
        ∀ declared ∈ declaredRecords value, ∀ given ∈ StateRecord.declaredEdges declared,
          Edge.listsPlaceholder given.2 = false) := by
  have hon := on_of_read hread
  refine ⟨hon, forall_mem_iff_of_forall₂ (hon.imp fun declared record hedges => ?_)⟩
  rw [forall_declared_iff_forall_followed]
  refine forall_mem_iff_of_forall₂ (hedges.imp fun given edge hedge => ?_)
  rw [hedge.2, Bool.not_eq_true]

/-- Targets that could not be computed, alone and in a record, beside one that is known. -/
def computedTargets : Value :=
  .map [(.name "on", .map [
    (.name "PAY", .computed .call "paid()"),
    (.name "CANCEL", .map [(.name "target", .computed .expression "state + suffix")]),
    (.name "SAVE", .text "saved")])]

theorem computedTargets_dropped :
    ∃ graph, StateGraph.read computedTargets = .value graph ∧
      graph.root.on.map (·.1) = ["SAVE"] ∧
      ∀ record ∈ graph.records, ∀ edge ∈ record.on, ¬edge.2.LeadsToPlaceholder := by
  have hread : StateGraph.read computedTargets =
      .value { root := { on := [("SAVE", { target := "saved" })] } } := rfl
  exact ⟨_, hread, rfl, (placeholder_edges_iff_listed hread).2.mpr (by decide)⟩

/-- A target that could not be computed, as the only one of a list. -/
def listedTarget : Value :=
  .map [(.name "on", .map [(.name "PAY", .list [.computed .call "paid()"])])]

theorem not_dropped_listedTarget :
    ¬ ∀ value graph, StateGraph.read value = .value graph →
      ∀ record ∈ graph.records, ∀ edge ∈ record.on, ¬edge.2.LeadsToPlaceholder := by
  intro hall
  have hread : StateGraph.read listedTarget =
      .value { root := { on := [("PAY", { target := "<call>" })] } } := rfl
  exact hall listedTarget _ hread _ (List.mem_singleton_self _) _ (List.mem_singleton_self _)
    ⟨.call, rfl⟩

end StateGraph

end ScreenFlow
