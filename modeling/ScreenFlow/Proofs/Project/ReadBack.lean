import ScreenFlow.Proofs.Project.Listing
import ScreenFlow.Proofs.Project.Named

/-!
Edges that are listed for a graph, and looked up in it again.  An edge of a sub-state is found under
the name of that sub-state.  An edge of the root is looked up under the status of the root, and a
sub-state that this status stands for comes before the root, whatever edges it has.
-/

namespace ScreenFlow

namespace StateGraph

/-- Sub-states are told apart by their names, and the edges of a state by their events. -/
structure HasDistinctNames (graph : StateGraph) : Prop where
  states : (graph.states.map Prod.fst).Nodup
  events : ∀ state ∈ graph.states, (state.2.on.map Prod.fst).Nodup
  rootEvents : (graph.root.on.map Prod.fst).Nodup

/-- The name or the status of the sub-state denotes a state. -/
def Denotes (named : String × StateRecord) (state : String) : Prop :=
  StateName.denotes named.1 state = true ∨ StateName.denotes? named.2.info.status state = true

instance (named : String × StateRecord) (state : String) : Decidable (Denotes named state) :=
  inferInstanceAs (Decidable (_ ∨ _))

/-- The sub-state that a state name stands for: the one of that very name, else the first that the
name denotes. -/
inductive SubStateFor (graph : StateGraph) (state : String) : StateRecord → Prop
  | named {record : StateRecord} (hmem : (state, record) ∈ graph.states) :
      SubStateFor graph state record
  | denoted {before after : List (String × StateRecord)} {named : String × StateRecord}
      (hstates : graph.states = before ++ named :: after)
      (hother : ∀ other ∈ graph.states, other.1 ≠ state) (hdenotes : Denotes named state)
      (hfirst : ∀ other ∈ before, ¬ Denotes other state) :
      SubStateFor graph state named.2

section

variable {graph : StateGraph} {state : String} {record : StateRecord}

theorem state?_eq_none_iff :
    graph.state? state = none ↔ ∀ other ∈ graph.states, other.1 ≠ state := by
  unfold state?
  rw [List.lookup_eq_none_iff]
  simp only [bne_iff_ne, ne_comm]

theorem SubStateFor.exists_mem (hfor : graph.SubStateFor state record) :
    ∃ name, (name, record) ∈ graph.states := by
  cases hfor with
  | named hmem => exact ⟨state, hmem⟩
  | @denoted before after named hstates =>
      exact ⟨named.1, hstates ▸ List.mem_append_right _ List.mem_cons_self⟩

/-- The sub-state that a name stands for is what is found under the name. -/
theorem SubStateFor.recordIn (hnames : graph.HasDistinctNames)
    (hfor : graph.SubStateFor state record) : graph.recordIn state = some record := by
  unfold StateGraph.recordIn
  cases hfor with
  | named hmem =>
      have hstate : graph.state? state = some record :=
        (lookup_eq_some_iff_mem hnames.states).mpr hmem
      rw [hstate]
  | @denoted before after named hstates hother hdenotes hfirst =>
      have hfind : (graph.states.find? fun named => StateName.denotes named.1 state ||
          StateName.denotes? named.2.info.status state) = some named := by
        refine List.find?_eq_some_iff_append.mpr ⟨by simpa [Denotes] using hdenotes, before, after,
          hstates, fun other hmem => ?_⟩
        simpa [Denotes] using hfirst other hmem
      rw [state?_eq_none_iff.mpr hother, hfind]

/-- Where a name stands for no sub-state, the root is found if it is its status. -/
theorem recordIn_of_no_subState (hnone : ∀ record, ¬ graph.SubStateFor state record) :
    graph.recordIn state =
      if StateName.denotes? graph.rootStatus state then some graph.root else none := by
  have hother : ∀ other ∈ graph.states, other.1 ≠ state := by
    rintro ⟨name, record⟩ hmem rfl
    exact hnone record (.named hmem)
  have hfind : (graph.states.find? fun named => StateName.denotes named.1 state ||
      StateName.denotes? named.2.info.status state) = none := by
    cases hfound : graph.states.find? fun named => StateName.denotes named.1 state ||
        StateName.denotes? named.2.info.status state with
    | none => rfl
    | some named =>
        obtain ⟨hdenotes, before, after, hstates, hfirst⟩ :=
          List.find?_eq_some_iff_append.mp hfound
        refine absurd (.denoted hstates hother (by simpa [Denotes] using hdenotes) ?_)
          (hnone named.2)
        intro other hmem
        simpa [Denotes] using hfirst other hmem
  unfold recordIn
  rw [state?_eq_none_iff.mpr hother, hfind]

end

/-- The edge is found again where it is looked up in the graph, with its target, its platforms and
its action. -/
def ReadsBack (graph : StateGraph) (transition : Transition) : Prop :=
  ∃ edge, Incoming.declared? graph transition.fromState transition.event = some edge ∧
    edge.target = transition.toState ∧ edge.platforms = transition.platforms ∧
    edge.action = transition.action

theorem mem_outgoing_iff {record : StateRecord} {fromState : String} {sourcePath : Option String}
    {transition : Transition} :
    transition ∈ record.outgoing fromState sourcePath ↔
      (transition.fromState = fromState ∧ transition.sourcePath = sourcePath) ∧
        ∃ edge, (transition.event, edge) ∈ record.on ∧ edge.target = transition.toState ∧
          edge.platforms = transition.platforms ∧ edge.action = transition.action := by
  unfold StateRecord.outgoing
  rw [List.mem_map]
  constructor
  · rintro ⟨⟨event, edge⟩, hmem, rfl⟩
    exact ⟨⟨rfl, rfl⟩, edge, hmem, rfl, rfl, rfl⟩
  · rintro ⟨⟨rfl, rfl⟩, edge, hmem, htarget, hplatforms, haction⟩
    refine ⟨(transition.event, edge), hmem, ?_⟩
    unfold Transition.ofEdge
    rw [htarget, hplatforms, haction]

theorem mem_allTransitions_iff {graph : StateGraph} {sourcePath : Option String}
    {transition : Transition} :
    transition ∈ graph.allTransitions sourcePath ↔
      (∃ state ∈ graph.states, transition ∈ state.2.outgoing state.1 sourcePath) ∨
        ∃ status, graph.rootStatus = some status ∧ status ≠ "" ∧
          transition ∈ graph.root.outgoing status sourcePath := by
  unfold allTransitions
  rw [List.mem_append, List.mem_flatMap]
  refine or_congr_right ?_
  cases graph.rootStatus with
  | none => simp
  | some status => by_cases hstatus : status = "" <;> simp [Option.filter, hstatus]

section

variable {graph : StateGraph} {sourcePath : Option String} {transition : Transition}

/-- An edge is read back from the record that is found if that record has it. -/
theorem readsBack_iff_mem_outgoing {record : StateRecord}
    (hrecord : graph.recordIn transition.fromState = some record)
    (hevents : (record.on.map Prod.fst).Nodup) :
    graph.ReadsBack transition ↔
      transition ∈ record.outgoing transition.fromState transition.sourcePath := by
  unfold ReadsBack Incoming.declared?
  rw [mem_outgoing_iff, hrecord, Option.bind_some, and_iff_right ⟨rfl, rfl⟩]
  simp only [lookup_eq_some_iff_mem hevents]

theorem sourcePath_of_mem (hmem : transition ∈ graph.allTransitions sourcePath) :
    transition.sourcePath = sourcePath := by
  rcases mem_allTransitions_iff.mp hmem with ⟨state, -, hmem⟩ | ⟨status, -, -, hmem⟩ <;>
    exact (mem_outgoing_iff.mp hmem).1.2

end

/-- An edge of a sub-state is read back.  An edge of the root is read back just when no sub-state
stands for its state, or the one that does has the same edge.  A request for an edge that is read
back finds it in every file whose unit has the graph. -/
theorem readsBack_iff {graph : StateGraph} (hnames : graph.HasDistinctNames)
    {sourcePath : Option String} {transition : Transition}
    (hmem : transition ∈ graph.allTransitions sourcePath) :
    ((∃ state ∈ graph.states, transition ∈ state.2.outgoing state.1 sourcePath) →
        graph.ReadsBack transition) ∧
      (graph.ReadsBack transition ↔
        ∀ record, graph.SubStateFor transition.fromState record →
          transition ∈ record.outgoing transition.fromState sourcePath) ∧
      (graph.ReadsBack transition →
        ∀ (session : Session) (path : Path) (unit : StateUnit) (paths : List Path),
          session.unitNow path = .ok unit → unit.graph = graph → path ∈ paths →
            (Incoming.firstNow? session ⟨transition.event, transition.fromState⟩ paths).isSome =
              true) := by
  have hpath : transition.sourcePath = sourcePath := sourcePath_of_mem hmem
  have hfor {record : StateRecord} (hsub : graph.SubStateFor transition.fromState record) :
      graph.ReadsBack transition ↔
        transition ∈ record.outgoing transition.fromState sourcePath := by
    obtain ⟨name, hrecord⟩ := hsub.exists_mem
    rw [← hpath]
    exact readsBack_iff_mem_outgoing (hsub.recordIn hnames) (hnames.events _ hrecord)
  refine ⟨?_, ⟨fun hback record hsub => (hfor hsub).mp hback, fun hall => ?_⟩, ?_⟩
  · rintro ⟨⟨name, record⟩, hstate, hout⟩
    obtain ⟨⟨hfrom, -⟩, -⟩ := mem_outgoing_iff.mp hout
    subst hfrom
    exact (hfor (.named hstate)).mpr hout
  · by_cases hsub : ∃ record, graph.SubStateFor transition.fromState record
    · obtain ⟨record, hsub⟩ := hsub
      exact (hfor hsub).mpr (hall record hsub)
    · have hnone := not_exists.mp hsub
      rcases mem_allTransitions_iff.mp hmem with
        ⟨⟨name, record⟩, hstate, hout⟩ | ⟨status, hstatus, hne, hout⟩
      · obtain ⟨⟨rfl, -⟩, -⟩ := mem_outgoing_iff.mp hout
        exact absurd (.named hstate) (hnone record)
      · obtain ⟨⟨rfl, -⟩, -⟩ := mem_outgoing_iff.mp hout
        have hroot : graph.recordIn transition.fromState = some graph.root := by
          rw [recordIn_of_no_subState hnone, hstatus, StateName.denotes?,
            if_pos (StateName.denotes_self hne)]
        rw [readsBack_iff_mem_outgoing hroot hnames.rootEvents, hpath]
        exact hout
  · rintro ⟨edge, hdeclared, -⟩ session path unit paths hunit hgraph hpaths
    refine (Incoming.firstNow?_isSome _ _ _).mpr ⟨path, hpaths, ?_⟩
    unfold Incoming.declaredNow?
    rw [hunit]
    dsimp only [Except.toOption, Option.bind_some]
    rw [hgraph, hdeclared]
    rfl

/-- A cart that is paid, and whose payment is taken back. -/
def paidCart : StateGraph where
  root := { info := { status := some "cart" }, on := [("PAY", { target := "paid" })] }
  states := [("paid", { on := [("REFUND", { target := "cart" })] })]

def payment : Transition where
  event := "PAY"
  fromState := "cart"
  toState := "paid"

theorem paidCart_readsBack_iff :
    paidCart.HasDistinctNames ∧ payment ∈ paidCart.allTransitions none ∧
      ((∃ state ∈ paidCart.states, payment ∈ state.2.outgoing state.1 none) →
          paidCart.ReadsBack payment) ∧
        (paidCart.ReadsBack payment ↔
          ∀ record, paidCart.SubStateFor payment.fromState record →
            payment ∈ record.outgoing payment.fromState none) ∧
        (paidCart.ReadsBack payment →
          ∀ (session : Session) (path : Path) (unit : StateUnit) (paths : List Path),
            session.unitNow path = .ok unit → unit.graph = paidCart → path ∈ paths →
              (Incoming.firstNow? session ⟨payment.event, payment.fromState⟩ paths).isSome =
                true) := by
  have hnames : paidCart.HasDistinctNames := ⟨by decide, by decide, by decide⟩
  have hmem : payment ∈ paidCart.allTransitions none :=
    mem_allTransitions_iff.mpr (.inr ⟨"cart", rfl, by decide, List.mem_singleton_self _⟩)
  exact ⟨hnames, hmem, readsBack_iff hnames hmem⟩

/-- A draft that is saved from its root, beside a sub-state that bears the status of the root. -/
def shadowedDraft : StateGraph where
  root := {
    info := { status := some "draft" }
    on := [("SAVE", { target := "done", action := some { steps := [{ method := "save" }] } })] }
  initial := some "draft"
  states := [("draft", {}), ("done", {})]

theorem not_readsBack_shadowedDraft :
    ¬ ∀ (graph : StateGraph) (sourcePath : Option String) (transition : Transition),
      graph.HasDistinctNames → transition ∈ graph.allTransitions sourcePath →
        graph.ReadsBack transition := by
  intro hall
  obtain ⟨edge, hdeclared, -⟩ := hall shadowedDraft none _ ⟨by decide, by decide, by decide⟩
    (mem_allTransitions_iff.mpr (.inr ⟨"draft", rfl, by decide, List.mem_singleton_self _⟩))
  have hnone : (Incoming.declared? shadowedDraft "draft" "SAVE").isNone = true := by decide
  cases hdeclared.symm.trans (Option.isNone_iff_eq_none.mp hnone)

end StateGraph

end ScreenFlow
